import Haulage.Proofs.Deletion.Run
import Haulage.Proofs.Storage.Sharing
import Haulage.Proofs.Storage.Shelves

/-! Remote deletion while others use the store. Each key is followed by itself: one that nobody else
touches is listed and deleted or comes after the token, and one that the path does not cover is left
to the others. -/
namespace Haulage.Deletion

variable {σ : Type} {store : Store σ} {held : σ → Holdings} {editing : Editing held}
  {schedule : Schedule} {path : RemotePath} {token : Option String} {groups : List (List String)}
  {start final : σ × Nat} {events : List Event} {count : Except Fault Nat} {key : String}

theorem BatchRun.calls_le {others : Nat → σ → σ} {bucket : String}
    (run : BatchRun (store.amid others) bucket groups start events count final) :
    start.2 ≤ final.2 := by
  have kept : Order.Preimage (·.2) (· ≤ ·) start final :=
    run.keeps ((store.keeps_amid others).delete bucket)
  exact kept

theorem PageRun.calls_le {others : Nat → σ → σ}
    (run : PageRun (store.amid others) path token start events count final) :
    start.2 ≤ final.2 := by
  have kept : Order.Preimage (·.2) (· ≤ ·) start final := run.keeps (store.keeps_amid others)
  exact kept

/-- A key that is left after all deletions and that nobody else touched was there before and was in
none of them. -/
theorem BatchRun.mem_held_of_spared {bucket : String}
    (run : BatchRun (store.amid (editing.follow schedule)) bucket groups start events count final)
    (truthful : store.Truthful held) (succeeded : ∃ gone, count = .ok gone)
    (spared : schedule.Spares bucket key start.2 final.2) (left : key ∈ held final.1 bucket) :
    key ∈ held start.1 bucket ∧ key ∉ groups.flatten := by
  induction run with
  | done => exact ⟨left, by simp⟩
  | failed _ => simp at succeeded
  | removed answered later ih =>
    obtain ⟨plain, counted⟩ := Answer.of_amid answered
    have bound := later.calls_le
    rw [counted] at ih bound
    have earlier := ih ((exists_map_ok_iff _ _).mp succeeded)
      (fun calls after before => spared calls (Nat.le_of_succ_le after) before) left
    rw [truthful.delete plain, Holdings.mem_without, editing.held_follow,
      Holdings.mem_foldl_edited_of_untouched (spared _ (Nat.le_refl _) bound)] at earlier
    obtain ⟨⟨present, kept⟩, spared⟩ := earlier
    simp only [true_and] at kept
    rw [List.flatten_cons, List.mem_append]
    exact ⟨present, fun named => named.elim kept spared⟩

/-- One page in company: the listing shows what is held after the others have acted, and what is
left of the keys that nobody touches was held before and is not on the page. -/
theorem mem_held_of_page {page : Page} {listed : σ × Nat} (truthful : store.Truthful held)
    (answered : (store.amid (editing.follow schedule)).list path (pageOptions token) start =
      (.ok page, listed))
    (removal : BatchRun (store.amid (editing.follow schedule)) path.bucket (batches page.keys)
      listed events count final)
    (succeeded : ∃ gone, count = .ok gone) (covered : path.Covers key)
    (spared : schedule.Spares path.bucket key start.2 final.2)
    (ahead : key ∈ held start.1 path.bucket → After token key)
    (left : key ∈ held final.1 path.bucket) :
    ∃ shown : Holdings, page.Shows (shown.pending path token) ∧
      key ∈ shown.pending path token ∧ key ∉ page.keys := by
  obtain ⟨plain, counted⟩ := Answer.of_amid answered
  obtain ⟨unchanged, shows⟩ := truthful.list plain
  have bound := removal.calls_le
  rw [counted] at bound
  obtain ⟨present, unshown⟩ := removal.mem_held_of_spared truthful succeeded
    (fun calls after before => spared calls (by omega) before) left
  rw [flatten_batches] at unshown
  refine ⟨_, shows, ?_, unshown⟩
  rw [unchanged] at present
  have before := present
  rw [editing.held_follow,
    Holdings.mem_foldl_edited_of_untouched (spared _ (Nat.le_refl _) bound)] at before
  exact Holdings.mem_pending.mpr ⟨Holdings.mem_under.mpr ⟨present, covered⟩, ahead before⟩

/-- The invariant for a covered key that nobody else touches: if it is still held, it comes after the
token. -/
theorem PageRun.not_mem_held_of_spared (truthful : store.Truthful held)
    (run : PageRun (store.amid (editing.follow schedule)) path token start events count final)
    (succeeded : ∃ gone, count = .ok gone) (covered : path.Covers key)
    (spared : schedule.Spares path.bucket key start.2 final.2)
    (ahead : key ∈ held start.1 path.bucket → After token key) :
    key ∉ held final.1 path.bucket := by
  induction run with
  | unlisted _ => simp at succeeded
  | stuck _ _ => simp at succeeded
  | last answered removal ended =>
    intro left
    obtain ⟨shown, shows, pending, unshown⟩ :=
      mem_held_of_page truthful answered removal succeeded covered spared ahead left
    rw [← shows.keys_eq_of_next?_eq_none ended] at pending
    exact unshown pending
  | more answered removal going later ih =>
    have bound := later.calls_le
    apply ih ((exists_map_ok_iff _ _).mp succeeded)
      (fun calls after before => spared calls (by
        have first := removal.calls_le
        rw [(Answer.of_amid answered).2] at first
        omega) before)
    intro left
    obtain ⟨shown, shows, pending, unshown⟩ := mem_held_of_page truthful answered removal ⟨_, rfl⟩
      covered (fun calls after before => spared calls after (by omega)) ahead left
    have later := (shows.mem_or_lt (Holdings.pairwise_pending ..) going pending).resolve_left unshown
    simpa [After] using later

/-- A key in no batch is there in the end exactly if it is when only the others act. -/
theorem BatchRun.mem_held_iff {bucket other : String} {initial : Holdings}
    (run : BatchRun (store.amid (editing.follow schedule)) bucket groups start events count final)
    (truthful : store.Truthful held) (succeeded : ∃ gone, count = .ok gone)
    (outside : ¬ (other = bucket ∧ key ∈ groups.flatten))
    (same : key ∈ held start.1 other ↔ key ∈ initial.amid schedule start.2 other) :
    key ∈ held final.1 other ↔ key ∈ initial.amid schedule final.2 other := by
  induction run with
  | done => exact same
  | failed _ => simp at succeeded
  | removed answered _ ih =>
    obtain ⟨plain, counted⟩ := Answer.of_amid answered
    rw [List.flatten_cons, List.mem_append] at outside
    apply ih ((exists_map_ok_iff _ _).mp succeeded) (fun ⟨here, named⟩ => outside ⟨here, .inr named⟩)
    rw [truthful.delete plain, Holdings.mem_without, editing.held_follow, counted, Holdings.amid,
      Holdings.mem_foldl_edited_congr _ same]
    exact and_iff_left fun ⟨here, named⟩ => outside ⟨here, .inl named⟩

theorem PageRun.mem_held_iff {other : String} {initial : Holdings} (truthful : store.Truthful held)
    (run : PageRun (store.amid (editing.follow schedule)) path token start events count final)
    (succeeded : ∃ gone, count = .ok gone)
    (outside : ¬ (other = path.bucket ∧ path.Covers key))
    (same : key ∈ held start.1 other ↔ key ∈ initial.amid schedule start.2 other) :
    key ∈ held final.1 other ↔ key ∈ initial.amid schedule final.2 other := by
  have listing {start listed : σ × Nat} {token : Option String} {page : Page}
      (answered : (store.amid (editing.follow schedule)).list path (pageOptions token) start =
        (.ok page, listed))
      (same : key ∈ held start.1 other ↔ key ∈ initial.amid schedule start.2 other) :
      ¬ (other = path.bucket ∧ key ∈ (batches page.keys).flatten) ∧
        (key ∈ held listed.1 other ↔ key ∈ initial.amid schedule listed.2 other) := by
    obtain ⟨plain, counted⟩ := Answer.of_amid answered
    obtain ⟨unchanged, shows⟩ := truthful.list plain
    rw [flatten_batches, unchanged, editing.held_follow, counted, Holdings.amid]
    exact ⟨fun ⟨here, shown⟩ => outside ⟨here, shows.covers shown⟩,
      Holdings.mem_foldl_edited_congr _ same⟩
  induction run with
  | unlisted _ => simp at succeeded
  | stuck _ _ => simp at succeeded
  | last answered removal _ =>
    obtain ⟨outside, same⟩ := listing answered same
    exact removal.mem_held_iff truthful succeeded outside same
  | more answered removal _ _ ih =>
    obtain ⟨outside, same⟩ := listing answered same
    exact ih ((exists_map_ok_iff _ _).mp succeeded)
      (removal.mem_held_iff truthful ⟨_, rfl⟩ outside same)

/-- Only keys that the path covers are ever named in a deletion. -/
theorem PageRun.covers_of_delete (truthful : store.Truthful held)
    (run : PageRun (store.amid (editing.follow schedule)) path token start events count final)
    {event : Event} (member : event ∈ events) {bucket : String} {keys : List String}
    (deletion : event.call = .delete bucket keys) :
    bucket = path.bucket ∧ ∀ key ∈ keys, path.Covers key := by
  have named {start listed final : σ × Nat} {token : Option String} {page : Page}
      {events : List Event} {count : Except Fault Nat}
      (answered : (store.amid (editing.follow schedule)).list path (pageOptions token) start =
        (.ok page, listed))
      (removal : BatchRun (store.amid (editing.follow schedule)) path.bucket (batches page.keys)
        listed events count final)
      (member : event ∈ events) : bucket = path.bucket ∧ ∀ key ∈ keys, path.Covers key := by
    obtain ⟨_, shows⟩ := truthful.list (Answer.of_amid answered).1
    obtain ⟨batch, present, same⟩ := removal.exists_batch event member
    rw [deletion] at same
    cases same
    refine ⟨rfl, fun key inside => shows.covers ?_⟩
    rw [← flatten_batches page.keys]
    exact List.mem_flatten.mpr ⟨keys, present, inside⟩
  induction run with
  | unlisted _ =>
    rw [List.mem_singleton.mp member] at deletion
    cases deletion
  | stuck answered removal | last answered removal _ =>
    rcases List.mem_cons.mp member with same | removed
    · rw [same] at deletion
      cases deletion
    · exact named answered removal removed
  | more answered removal _ _ ih =>
    rcases List.mem_cons.mp member with same | later
    · rw [same] at deletion
      cases deletion
    · rcases List.mem_append.mp later with removed | later
      · exact named answered removal removed
      · exact ih later

/-- When a remote deletion succeeds while others insert and delete as they like, every key that the
path covers and that nobody else touched is gone, only covered keys were ever asked to be deleted,
and of all other keys there are those that the others alone would have left. -/
theorem deleteRecursive_amid_others {connector : Connector σ} {destination : String} {pages : Nat}
    {files : FileTree} {state : σ} {outcome : DeleteOutcome}
    {after : World ((σ × Nat) × List Event)} (truthful : connector.Truthful held)
    (editing : Editing held) (schedule : Schedule)
    (found : StoragePath.ofText destination = .remote path)
    (finished : deleteRecursive (connector.amid (editing.follow schedule)).logged pages destination
      ⟨files, (state, 0), []⟩ = some (.ok outcome, after)) :
    (∀ key, path.Covers key → schedule.Spares path.bucket key 0 after.service.1.2 →
      key ∉ held after.service.1.1 path.bucket) ∧
    (∀ event ∈ after.service.2, ∀ bucket keys, event.call = .delete bucket keys →
      bucket = path.bucket ∧ ∀ key ∈ keys, path.Covers key) ∧
    (∀ bucket key, ¬ (bucket = path.bucket ∧ path.Covers key) →
      (key ∈ held after.service.1.1 bucket ↔
        key ∈ (held state).amid schedule after.service.1.2 bucket)) := by
  obtain ⟨count, run, same⟩ := exists_remoteRun_of_logged found finished
  have succeeded := (exists_map_ok_iff _ count).mp ⟨outcome, same.symm⟩
  generalize after.service.2 = log at run
  cases run with
  | refused _ => simp at succeeded
  | served answered run =>
    obtain ⟨plain, connected, served, counted⟩ := Connector.of_amid answered
    cases plain with
    | error _ => cases served
    | ok store =>
      cases served
      obtain ⟨unchanged, truthful⟩ := truthful.connect connected
      refine ⟨?_, ?_, ?_⟩
      · intro key covered spared
        exact run.not_mem_held_of_spared truthful succeeded covered
          (fun calls _ before => spared calls (Nat.zero_le _) before) (by simp [After])
      · intro event member bucket keys deletion
        rcases List.mem_cons.mp member with connection | later
        · rw [connection] at deletion
          cases deletion
        · exact run.covers_of_delete truthful later deletion
      · intro bucket key outside
        apply run.mem_held_iff truthful succeeded outside
        rw [unchanged, editing.held_follow, counted]
        rfl

/-- Four keys below the path and one elsewhere. -/
def visited : Shelves := fun bucket =>
  if bucket = "b" then ⟨["p/a", "p/b", "p/c", "p/d", "q"], by decide⟩ else .empty

/-- Between the listing and the deletion of two pages a key goes or comes behind the token, one comes
in front of it, and one goes that the path does not cover. -/
def visits : Schedule
  | 2 => [⟨"b", "p/b", false⟩, ⟨"b", "p/0", true⟩]
  | 4 => [⟨"b", "p/e", true⟩, ⟨"b", "q", false⟩]
  | _ => []

theorem deleteRecursive_visited : ∃ after,
    deleteRecursive ((Shelves.connector 1).amid (Shelves.editing.follow visits)).logged 5 "s3://b/p"
        ⟨FileTree.startingAt [], (visited, 0), []⟩ = some (.ok (.remote "s3://b/p" 4), after) ∧
      visits.Spares "b" "p/d" 0 after.service.1.2 ∧
      "p/d" ∉ Shelves.held after.service.1.1 "b" ∧
      (∀ event ∈ after.service.2, ∀ bucket keys, event.call = .delete bucket keys →
        bucket = "b" ∧ ∀ key ∈ keys, RemotePath.Covers ⟨"b", "p"⟩ key) ∧
      ("q" ∈ Shelves.held after.service.1.1 "b" ↔
        "q" ∈ (Shelves.held visited).amid visits after.service.1.2 "b") := by
  have named : StoragePath.ofText "s3://b/p" = .remote ⟨"b", "p"⟩ := by decide
  have checked : ((deleteRecursive
      ((Shelves.connector 1).amid (Shelves.editing.follow visits)).logged 5 "s3://b/p"
        ⟨FileTree.startingAt [], (visited, 0), []⟩).map fun (result, _) => result.toOption) =
      some (some (.remote "s3://b/p" 4)) := by decide +kernel
  obtain ⟨⟨result, after⟩, finished, succeeded⟩ := Option.map_eq_some_iff.mp checked
  cases result with
  | error _ => cases succeeded
  | ok outcome =>
    cases succeeded
    have spared : visits.Spares "b" "p/d" 0 after.service.1.2 := by
      intro calls _ _ edit member
      unfold visits at member
      split at member <;> simp at member
      · rcases member with rfl | rfl <;> decide
      · rcases member with rfl | rfl <;> decide
    obtain ⟨absent, deletions, others⟩ :=
      deleteRecursive_amid_others (Shelves.connector_obliging 1).truthful Shelves.editing visits
        named finished
    exact ⟨after, finished, spared, absent "p/d" (by decide) spared, deletions,
      others "b" "q" (by decide)⟩

end Haulage.Deletion
