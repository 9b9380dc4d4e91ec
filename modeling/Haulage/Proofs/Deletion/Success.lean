import Haulage.Proofs.Deletion.Run
import Haulage.Storage.Rehearsal

/-! When a remote deletion reports success: exactly when no call failed, and then its last page had
no next one. That is weaker than a last page that was not cut short: over a page that is cut short
but says nowhere to go on, success is reported although objects may remain. -/
namespace Haulage.Deletion

/-- The page that the last listing brought, if that listing did not fail. -/
def lastPage? (log : List Event) : Option Page :=
  (log.filter Event.isListing).getLast?.bind Event.page?

variable {σ : Type} {store : Store σ} {connector : Connector σ} {bucket destination : String}
  {path : RemotePath} {token : Option String} {groups : List (List String)} {state final : σ}
  {events : List Event} {count : Except Fault Nat}

theorem lastPage?_append {earlier later : List Event} {page : Page}
    (found : lastPage? later = some page) : lastPage? (earlier ++ later) = some page := by
  obtain ⟨event, last, brought⟩ := Option.bind_eq_some_iff.mp found
  rw [lastPage?, List.filter_append, List.getLast?_append, last, Option.some_or]
  exact brought

theorem BatchRun.ok_iff (run : BatchRun store bucket groups state events count final) :
    (∃ gone, count = .ok gone) ↔ ∀ event ∈ events, event.failed = false := by
  induction run with
  | done => simp
  | failed _ => simp [Event.failed]
  | removed _ _ ih =>
    rw [exists_map_ok_iff, ih]
    simp [Event.failed]

/-- Deleting batches lists nothing. -/
theorem BatchRun.filter_isListing (run : BatchRun store bucket groups state events count final) :
    events.filter Event.isListing = [] := by
  simpa [listings] using run.listings_eq

theorem PageRun.ok_iff (run : PageRun store path token state events count final) :
    (∃ gone, count = .ok gone) ↔ ∀ event ∈ events, event.failed = false := by
  induction run with
  | unlisted _ => simp [Event.failed]
  | stuck _ removal =>
    have failing := removal.ok_iff
    rw [failing]
    simp [Event.failed]
  | last _ removal _ =>
    have smooth := removal.ok_iff
    rw [smooth]
    simp [Event.failed]
  | more _ removal _ _ ih =>
    have smooth := removal.ok_iff.mp ⟨_, rfl⟩
    rw [exists_map_ok_iff, ih]
    constructor
    · intro rest event member
      rcases List.mem_cons.mp member with same | member
      · rw [same]
        rfl
      · rcases List.mem_append.mp member with earlier | later
        · exact smooth event earlier
        · exact rest event later
    · intro all event member
      exact all event (List.mem_cons_of_mem _ (List.mem_append_right _ member))

theorem PageRun.lastPage (run : PageRun store path token state events count final)
    (succeeded : ∃ gone, count = .ok gone) :
    ∃ page, lastPage? events = some page ∧ page.next? = none := by
  induction run with
  | unlisted _ => simp at succeeded
  | stuck _ _ => simp at succeeded
  | last _ removal ended =>
    refine ⟨_, ?_, ended⟩
    rw [lastPage?, List.filter_cons_of_pos rfl, removal.filter_isListing]
    rfl
  | more _ _ _ _ ih =>
    obtain ⟨page, found, ended⟩ := ih ((exists_map_ok_iff _ _).mp succeeded)
    refine ⟨page, ?_, ended⟩
    rw [← List.cons_append]
    exact lastPage?_append found

theorem RemoteRun.ok_iff (run : RemoteRun connector path state events count final) :
    (∃ gone, count = .ok gone) ↔ ∀ event ∈ events, event.failed = false := by
  cases run with
  | refused _ => simp [Event.failed]
  | served _ run =>
    rw [run.ok_iff]
    simp [Event.failed]

theorem RemoteRun.lastPage (run : RemoteRun connector path state events count final)
    (succeeded : ∃ gone, count = .ok gone) :
    ∃ page, lastPage? events = some page ∧ page.next? = none := by
  cases run with
  | refused _ => simp at succeeded
  | served _ run =>
    obtain ⟨page, found, ended⟩ := run.lastPage succeeded
    refine ⟨page, ?_, ended⟩
    rw [← List.singleton_append]
    exact lastPage?_append found

private theorem next?_eq_none_iff (page : Page) :
    page.next? = none ↔ (page.truncated = true → page.token = none) := by
  unfold Page.next?
  split <;> simp [*]

/-- A deletion that reports success has seen a last page with no next one. It reports success over a
page that is cut short exactly when no call failed and that page says nowhere to go on. -/
theorem success_over_truncated_page_iff {pages : Nat} {files : FileTree}
    {after : World (σ × List Event)} {result : Except Fault DeleteOutcome}
    (found : StoragePath.ofText destination = .remote path)
    (finished : deleteRecursive connector.logged pages destination ⟨files, state, []⟩ =
      some (result, after)) :
    ((∃ outcome, result = .ok outcome) → ∃ page, lastPage? after.service.2 = some page ∧
      (page.truncated = true → page.token = none)) ∧
    ((∃ outcome, result = .ok outcome) ∧
        (∃ page, lastPage? after.service.2 = some page ∧ page.truncated = true) ↔
      (∀ event ∈ after.service.2, event.failed = false) ∧
        ∃ page, lastPage? after.service.2 = some page ∧ page.truncated = true ∧
          page.token = none) := by
  obtain ⟨count, run, rfl⟩ := exists_remoteRun_of_logged found finished
  have ended : (∃ gone, count = .ok gone) → ∃ page, lastPage? after.service.2 = some page ∧
      (page.truncated = true → page.token = none) := by
    intro succeeded
    obtain ⟨page, last, none⟩ := run.lastPage succeeded
    exact ⟨page, last, (next?_eq_none_iff page).mp none⟩
  rw [exists_map_ok_iff]
  refine ⟨ended, ?_⟩
  constructor
  · rintro ⟨succeeded, page, last, cut⟩
    obtain ⟨_, same, nowhere⟩ := ended succeeded
    rw [last] at same
    cases same
    exact ⟨run.ok_iff.mp succeeded, page, last, cut, nowhere cut⟩
  · rintro ⟨smooth, page, last, cut, _⟩
    exact ⟨run.ok_iff.mpr smooth, page, last, cut⟩

/-- A store whose only page is cut short and says nowhere to go on. -/
def abruptListing : Rehearsal where
  connects := []
  lists := [.ok { items := [ObjectInfo.file "p/a" 1], truncated := true, token := none }]
  deletes := []
  puts := []

private theorem abruptListing_run : ∃ outcome after page,
    deleteRecursive Rehearsal.connector.logged 1 "s3://b/p"
        ⟨FileTree.startingAt [], abruptListing, []⟩ = some (.ok outcome, after) ∧
      lastPage? after.service.2 = some page ∧ page.truncated = true := by
  have checked : ((deleteRecursive Rehearsal.connector.logged 1 "s3://b/p"
      ⟨FileTree.startingAt [], abruptListing, []⟩).bind fun (result, after) =>
        result.toOption.bind fun _ => (lastPage? after.service.2).map Page.truncated) =
      some true := by decide +kernel
  obtain ⟨⟨result, after⟩, finished, seen⟩ := Option.bind_eq_some_iff.mp checked
  obtain ⟨outcome, succeeded, seen⟩ := Option.bind_eq_some_iff.mp seen
  obtain ⟨page, last, cut⟩ := Option.map_eq_some_iff.mp seen
  cases result with
  | error _ => cases succeeded
  | ok actual => exact ⟨actual, after, page, finished, last, cut⟩

/-- Success does not mean that the last page was a whole one. -/
theorem success_over_abruptListing : ¬ ∀ (connector : Connector Rehearsal) (pages : Nat)
    (files : FileTree) (state : Rehearsal) (destination : String) (path : RemotePath)
    (outcome : DeleteOutcome) (after : World (Rehearsal × List Event)),
    StoragePath.ofText destination = .remote path →
    deleteRecursive connector.logged pages destination ⟨files, state, []⟩ =
      some (.ok outcome, after) →
    ∃ page, lastPage? after.service.2 = some page ∧ page.truncated = false := by
  intro whole
  obtain ⟨outcome, after, page, finished, last, cut⟩ := abruptListing_run
  have named : StoragePath.ofText "s3://b/p" = .remote ⟨"b", "p"⟩ := by decide
  obtain ⟨other, same, uncut⟩ := whole _ _ _ _ _ _ outcome after named finished
  cases last.symm.trans same
  cases cut.symm.trans uncut

/-- Nothing failed on the way, and the page said nowhere to go on. -/
theorem abruptListing_smooth : ∃ outcome after,
    deleteRecursive Rehearsal.connector.logged 1 "s3://b/p"
        ⟨FileTree.startingAt [], abruptListing, []⟩ = some (.ok outcome, after) ∧
      (∀ event ∈ after.service.2, event.failed = false) ∧
      ∃ page, lastPage? after.service.2 = some page ∧ page.truncated = true ∧
        page.token = none := by
  obtain ⟨outcome, after, page, finished, last, cut⟩ := abruptListing_run
  have named : StoragePath.ofText "s3://b/p" = .remote ⟨"b", "p"⟩ := by decide
  exact ⟨outcome, after, finished,
    (success_over_truncated_page_iff named finished).2.mp ⟨⟨outcome, rfl⟩, page, last, cut⟩⟩

end Haulage.Deletion
