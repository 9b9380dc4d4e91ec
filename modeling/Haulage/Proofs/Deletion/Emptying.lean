import Haulage.Proofs.Deletion.Run
import Haulage.Proofs.Storage.Shelves

/-! Remote deletion on an obliging store: whatever the pages, it ends, and of the keys it leaves
exactly those that the path does not cover. -/
namespace Haulage.Deletion

variable {σ : Type} {store : Store σ} {held : σ → Holdings} {bucket : String} {path : RemotePath}
  {token : Option String} {groups : List (List String)} {state final : σ} {page : Page}
  {events : List Event} {count : Except Fault Nat}

/-- Batches that are all deleted take away exactly their keys. -/
theorem BatchRun.held_eq (run : BatchRun store bucket groups state events count final)
    (truthful : store.Truthful held) (succeeded : ∃ gone, count = .ok gone) :
    held final = (held state).without bucket groups.flatten := by
  induction run with
  | done => simp
  | failed _ => simp at succeeded
  | removed answered _ ih =>
    rw [List.flatten_cons, Holdings.without_append, ← truthful.delete answered]
    exact ih ((exists_map_ok_iff _ _).mp succeeded)

/-- Pages that are all deleted take away what the path covers, if every covered key that is still held
comes after the token. -/
theorem PageRun.held_eq (run : PageRun store path token state events count final)
    (truthful : store.Truthful held) (succeeded : ∃ gone, count = .ok gone)
    (ahead : ∀ key ∈ (held state).under path, After token key) :
    held final = (held state).cleared path := by
  have emptied {token : Option String} {state listed final : σ} {page : Page}
      {events : List Event} {gone : Nat}
      (answered : store.list path (pageOptions token) state = (.ok page, listed))
      (removal : BatchRun store path.bucket (batches page.keys) listed events (.ok gone) final) :
      page.Shows ((held state).pending path token) ∧
        held final = (held state).without path.bucket page.keys := by
    obtain ⟨unchanged, shows⟩ := truthful.list answered
    have left := removal.held_eq truthful ⟨_, rfl⟩
    rw [flatten_batches, unchanged] at left
    exact ⟨shows, left⟩
  induction run with
  | unlisted _ => simp at succeeded
  | stuck _ _ => simp at succeeded
  | last answered removal ended =>
    obtain ⟨shows, left⟩ := emptied answered removal
    have nothing := shows.under_without_eq_empty ahead ended
    rw [← left] at nothing
    rw [← Holdings.cleared_of_under_eq_empty nothing, left,
      Holdings.cleared_without fun _ => shows.covers]
  | more answered removal going _ ih =>
    obtain ⟨shows, left⟩ := emptied answered removal
    rw [ih ((exists_map_ok_iff _ _).mp succeeded), left,
      Holdings.cleared_without fun _ => shows.covers]
    intro key member
    rw [left] at member
    exact shows.after_of_mem_without ahead going member

/-- A remote deletion that succeeds on a truthful store has taken away what the path covers, and
nothing else. -/
theorem RemoteRun.held_eq {connector : Connector σ}
    (run : RemoteRun connector path state events count final) (truthful : connector.Truthful held)
    (succeeded : ∃ gone, count = .ok gone) : held final = (held state).cleared path := by
  cases run with
  | refused _ => simp at succeeded
  | served answered run =>
    obtain ⟨unchanged, serving⟩ := truthful.connect answered
    rw [run.held_eq serving succeeded (by simp [After]), unchanged]

theorem exists_batchRun_of_obliging (obliging : store.Obliging held) (bucket : String)
    (groups : List (List String)) (state : σ) :
    ∃ events final, BatchRun store bucket groups state events (.ok groups.flatten.length) final := by
  induction groups generalizing state with
  | nil => exact ⟨[], state, .done⟩
  | cons batch rest ih =>
    obtain ⟨next, answered⟩ := obliging.deletes bucket batch state
    obtain ⟨events, final, later⟩ := ih next
    rw [List.flatten_cons, List.length_append]
    exact ⟨_, final, .removed answered later⟩

/-- One page of an obliging store, listed and deleted. -/
theorem exists_page_of_obliging (obliging : store.Obliging held) (path : RemotePath)
    (token : Option String) (state : σ) :
    ∃ page listed events final,
      store.list path (pageOptions token) state = (.ok page, listed) ∧
      page.Shows ((held state).pending path token) ∧
      BatchRun store path.bucket (batches page.keys) listed events (.ok page.keys.length) final ∧
      held final = (held state).without path.bucket page.keys := by
  obtain ⟨page, listed, answered, _⟩ := obliging.lists path (pageOptions token) state (by
    intro most same
    cases same
    decide)
  obtain ⟨unchanged, shows⟩ := obliging.list answered
  obtain ⟨events, final, removal⟩ :=
    exists_batchRun_of_obliging obliging path.bucket (batches page.keys) listed
  have left := removal.held_eq obliging.toTruthful ⟨_, rfl⟩
  rw [flatten_batches] at removal left
  exact ⟨page, listed, events, final, answered, shows, removal, unchanged ▸ left⟩

/-- The invariant from page to page: every covered key that is still held comes after the token. So a
page takes at least one of them while there are any, and what it leaves comes after its own
token. -/
theorem exists_pageRun_of_obliging (obliging : store.Obliging held)
    (ahead : ∀ key ∈ (held state).under path, After token key) :
    ∃ events final, PageRun store path token state events
        (.ok ((held state).under path).card) final ∧
      held final = (held state).cleared path ∧
      listings events ≤ ((held state).under path).card + 1 ∧
      ((held state).under path = ∅ →
        ∀ event ∈ events, ∀ bucket keys, event.call ≠ .delete bucket keys) := by
  induction size : ((held state).under path).card using Nat.strong_induction_on
    generalizing state token with
  | h size smaller =>
    obtain ⟨page, listed, events, middle, answered, shows, removal, left⟩ :=
      exists_page_of_obliging obliging path token state
    have counted := shows.card_without
    rw [← left, size] at counted
    have shown (key) (member : key ∈ page.keys) : key ∈ (held state).under path :=
      (Holdings.mem_pending.mp (shows.run.subset member)).1
    have fewest := removal.listings_eq
    match followed : page.next? with
    | none =>
      have emptied : (held middle).under path = ∅ := by
        rw [left]
        exact shows.under_without_eq_empty ahead followed
      rw [emptied, Finset.card_empty, Nat.zero_add] at counted
      have run := PageRun.last answered removal followed
      rw [counted] at run
      refine ⟨_, middle, run, run.held_eq obliging.toTruthful ⟨_, rfl⟩ ahead, ?_, ?_⟩
      · rw [listings_list]
        omega
      · intro none event member
        have nothing : page.keys = [] := by
          apply List.eq_nil_iff_forall_not_mem.mpr
          intro key member
          simpa [none] using shown key member
        rw [nothing, batches] at removal
        cases removal
        simp_all
    | some next =>
      have last := List.mem_of_getLast? (shows.getLast?_eq_of_next?_eq_some followed)
      have beyond : ∀ key ∈ (held middle).under path, After (some next) key := by
        rw [left]
        exact fun key => shows.after_of_mem_without ahead followed
      have taken := List.length_pos_of_mem last
      obtain ⟨rest, final, run, -, bound, -⟩ := smaller _ (by omega) beyond rfl
      have total := PageRun.more answered removal followed run
      rw [Except.map, Nat.add_comm, counted] at total
      refine ⟨_, final, total, total.held_eq obliging.toTruthful ⟨_, rfl⟩ ahead, ?_, ?_⟩
      · rw [listings_list, listings_append]
        omega
      · intro none
        simpa [none] using shown next last

/-- On an obliging store a remote deletion succeeds, given one page more than there are keys to
delete. It takes the keys that the path covers, counts them, and leaves all others where they are;
without such keys it deletes nothing at all. -/
theorem deleteRecursive_leaves_uncovered {connector : Connector σ} {destination : String}
    {pages : Nat} (obliging : connector.Obliging held)
    (found : StoragePath.ofText destination = .remote path)
    (enough : ((held state).under path).card < pages) (files : FileTree) :
    ∃ final log,
      deleteRecursive connector pages destination ⟨files, state⟩ =
        some (.ok (.remote path.fullPath ((held state).under path).card), ⟨files, final⟩) ∧
      deleteRecursive connector.logged pages destination ⟨files, state, []⟩ =
        some (.ok (.remote path.fullPath ((held state).under path).card), ⟨files, final, log⟩) ∧
      held final path.bucket = (held state path.bucket).filter (fun key => ¬ path.Covers key) ∧
      (∀ bucket, bucket ≠ path.bucket → held final bucket = held state bucket) ∧
      ((held state).under path = ∅ →
        ∀ event ∈ log, ∀ bucket keys, event.call ≠ .delete bucket keys) := by
  obtain ⟨store, connected, answered, unchanged, serving⟩ := obliging.connects state
  rw [← unchanged] at enough ⊢
  obtain ⟨events, final, run, left, bound, idle⟩ := exists_pageRun_of_obliging serving
    (show ∀ key ∈ (held connected).under path, After none key by simp [After])
  have whole := RemoteRun.served answered run
  have enough : listings (⟨.connect, .ok .connected⟩ :: events) ≤ pages :=
    Nat.le_trans bound enough
  refine ⟨final, _, whole.deleteRecursive_eq found enough files,
    (whole.logged []).deleteRecursive_eq found enough files, ?_, ?_, ?_⟩
  · simp [left, Holdings.cleared]
  · intro bucket other
    simp [left, Holdings.cleared, other]
  · intro none event member
    rcases List.mem_cons.mp member with same | later
    · intro bucket keys deleted
      subst same
      cases deleted
    · exact idle none event later

/-- Three keys below the path and two elsewhere. -/
def stocked : Shelves := fun bucket =>
  if bucket = "b" then ⟨["p/a", "p/b", "p/c", "q"], by decide⟩
  else if bucket = "c" then ⟨["p/a"], by decide⟩
  else .empty

theorem deleteRecursive_stocked : ∃ final log,
    deleteRecursive (Shelves.connector 2) 4 "s3://b/p" ⟨FileTree.startingAt [], stocked⟩ =
      some (.ok (.remote "s3://b/p" 3), ⟨FileTree.startingAt [], final⟩) ∧
    deleteRecursive (Shelves.connector 2).logged 4 "s3://b/p"
        ⟨FileTree.startingAt [], stocked, []⟩ =
      some (.ok (.remote "s3://b/p" 3), ⟨FileTree.startingAt [], final, log⟩) ∧
    final.held "b" = {"q"} ∧ final.held "c" = {"p/a"} := by
  have named : StoragePath.ofText "s3://b/p" = .remote ⟨"b", "p"⟩ := by decide
  have three : (stocked.held.under ⟨"b", "p"⟩).card = 3 := by decide
  obtain ⟨final, log, plain, logged, kept, elsewhere, _⟩ :=
    deleteRecursive_leaves_uncovered (Shelves.connector_obliging 2) named
      (show (stocked.held.under ⟨"b", "p"⟩).card < 4 by rw [three]; decide) (FileTree.startingAt [])
  rw [three] at plain logged
  refine ⟨final, log, plain, logged, kept.trans ?_, (elsewhere "c" (by decide)).trans ?_⟩
  · decide
  · decide

end Haulage.Deletion
