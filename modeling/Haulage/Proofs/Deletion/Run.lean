import Haulage.Deletion
import Haulage.Proofs.Storage.Keeping
import Haulage.Proofs.Storage.Log

/-! Finished runs of a remote deletion, with their events and without a page limit. A run has one
form for each way in which a call can end it or lead on; the executable loop gives exactly the
results of runs that need no more pages than it has left. -/
namespace Haulage.Deletion

/-- How a page is asked for. -/
def pageOptions (token : Option String) : ListOptions where
  maxKeys := some batchLimit
  token := token

/-- The number of listings among events. -/
def listings (events : List Event) : Nat := events.countP Event.isListing

variable {σ : Type}

/-- Batches deleted one after the other, up to the first that fails. -/
inductive BatchRun (store : Store σ) (bucket : String) :
    List (List String) → σ → List Event → Except Fault Nat → σ → Prop where
  | done : BatchRun store bucket [] state [] (.ok 0) state
  | failed (answered : store.delete bucket batch state = (.error fault, next)) :
      BatchRun store bucket (batch :: rest) state [⟨.delete bucket batch, .error fault⟩]
        (.error fault) next
  | removed (answered : store.delete bucket batch state = (.ok gone, next))
      (later : BatchRun store bucket rest next events count final) :
      BatchRun store bucket (batch :: rest) state
        (⟨.delete bucket batch, .ok (.deleted gone)⟩ :: events) (count.map (gone.length + ·)) final

/-- Pages listed and deleted one after the other, up to the first call that fails or the first page
that has no next one. -/
inductive PageRun (store : Store σ) (path : RemotePath) :
    Option String → σ → List Event → Except Fault Nat → σ → Prop where
  | unlisted (answered : store.list path (pageOptions token) state = (.error fault, next)) :
      PageRun store path token state [⟨.list path (pageOptions token), .error fault⟩]
        (.error fault) next
  | stuck (answered : store.list path (pageOptions token) state = (.ok page, listed))
      (removal : BatchRun store path.bucket (batches page.keys) listed events (.error fault) final) :
      PageRun store path token state
        (⟨.list path (pageOptions token), .ok (.listed page)⟩ :: events) (.error fault) final
  | last (answered : store.list path (pageOptions token) state = (.ok page, listed))
      (removal : BatchRun store path.bucket (batches page.keys) listed events (.ok gone) final)
      (ended : page.next? = none) :
      PageRun store path token state
        (⟨.list path (pageOptions token), .ok (.listed page)⟩ :: events) (.ok gone) final
  | more (answered : store.list path (pageOptions token) state = (.ok page, listed))
      (removal : BatchRun store path.bucket (batches page.keys) listed events (.ok gone) middle)
      (going : page.next? = some next)
      (later : PageRun store path (some next) middle rest count final) :
      PageRun store path token state
        (⟨.list path (pageOptions token), .ok (.listed page)⟩ :: (events ++ rest))
        (count.map (gone + ·)) final

/-- A run from the connection on. -/
inductive RemoteRun (connector : Connector σ) (path : RemotePath) :
    σ → List Event → Except Fault Nat → σ → Prop where
  | refused (answered : connector.connect state = (.error fault, next)) :
      RemoteRun connector path state [⟨.connect, .error fault⟩] (.error fault) next
  | served {store : Store σ} (answered : connector.connect state = (.ok store, next))
      (run : PageRun store path none next events count final) :
      RemoteRun connector path state (⟨.connect, .ok .connected⟩ :: events) count final

variable {store : Store σ} {bucket destination : String} {path : RemotePath}
  {token : Option String} {groups : List (List String)} {state final : σ} {events log : List Event}
  {count : Except Fault Nat}

theorem exists_map_ok_iff {α β : Type} (transform : α → β) (result : Except Fault α) :
    (∃ value, result.map transform = .ok value) ↔ ∃ value, result = .ok value := by
  cases result <;> simp [Except.map]

/-! ## Batches -/

theorem BatchRun.removeBatches_eq (run : BatchRun store bucket groups state events count final) :
    removeBatches store bucket groups state = (count, final) := by
  induction run with
  | done => rfl
  | failed answered => simp only [removeBatches, answered]
  | removed answered _ ih => simp only [removeBatches, answered, ih]

/-- Deleting batches always comes to an end. -/
theorem exists_batchRun (store : Store σ) (bucket : String) (groups : List (List String))
    (state : σ) : ∃ events count final, BatchRun store bucket groups state events count final := by
  induction groups generalizing state with
  | nil => exact ⟨[], .ok 0, state, .done⟩
  | cons batch rest ih =>
    match answered : store.delete bucket batch state with
    | (.error fault, next) => exact ⟨_, _, _, .failed answered⟩
    | (.ok gone, next) =>
      obtain ⟨events, count, final, later⟩ := ih next
      exact ⟨_, _, _, .removed answered later⟩

theorem BatchRun.listings_eq (run : BatchRun store bucket groups state events count final) :
    listings events = 0 := by
  induction run with
  | done => rfl
  | failed _ => rfl
  | removed _ _ ih => simpa [listings, Event.isListing] using ih

/-- Each event is the deletion of one of the batches. -/
theorem BatchRun.exists_batch (run : BatchRun store bucket groups state events count final) :
    ∀ event ∈ events, ∃ batch ∈ groups, event.call = .delete bucket batch := by
  induction run with
  | done => simp
  | failed _ => simp
  | removed _ _ ih =>
    intro event member
    rcases List.mem_cons.mp member with same | later
    · exact ⟨_, List.mem_cons_self, by rw [same]⟩
    · obtain ⟨batch, present, named⟩ := ih event later
      exact ⟨batch, List.mem_cons_of_mem _ present, named⟩

theorem BatchRun.logged (run : BatchRun store bucket groups state events count final)
    (log : List Event) :
    BatchRun store.logged bucket groups (state, log) events count (final, log ++ events) := by
  induction run generalizing log with
  | done => simpa using BatchRun.done
  | failed answered => exact .failed (Answer.logging_eq answered _ _ log)
  | @removed batch _ _ gone _ _ _ _ answered _ ih =>
    have later := ih (log ++ [⟨.delete bucket batch, .ok (.deleted gone)⟩])
    rw [List.append_assoc] at later
    exact .removed (Answer.logging_eq answered _ _ log) later

theorem BatchRun.of_logged {start after : σ × List Event}
    (run : BatchRun store.logged bucket groups start events count after) :
    BatchRun store bucket groups start.1 events count after.1 ∧ after.2 = start.2 ++ events := by
  induction run with
  | done => exact ⟨.done, by simp⟩
  | failed answered =>
    obtain ⟨plain, grown⟩ := Answer.of_logging answered
    exact ⟨.failed plain, grown⟩
  | removed answered _ ih =>
    obtain ⟨plain, grown⟩ := Answer.of_logging answered
    exact ⟨.removed plain ih.1, by rw [ih.2, grown]; simp [Except.map]⟩

/-! ## Pages -/

theorem removePages_succ (store : Store σ) (path : RemotePath) (pages : Nat)
    (token : Option String) (state : σ) :
    removePages store path (pages + 1) token state =
      match store.list path (pageOptions token) state with
      | (.error fault, state) => some (.error fault, state)
      | (.ok page, state) =>
        match removeBatches store path.bucket (batches page.keys) state with
        | (.error fault, state) => some (.error fault, state)
        | (.ok gone, state) =>
          match page.next? with
          | none => some (.ok gone, state)
          | some next =>
            (removePages store path pages (some next) state).map fun (result, state) =>
              (result.map (gone + ·), state) := rfl

@[simp]
theorem listings_list (path : RemotePath) (options : ListOptions) (result : Except Fault Reply) :
    listings (⟨.list path options, result⟩ :: events) = listings events + 1 :=
  List.countP_cons_of_pos rfl

@[simp]
theorem listings_append (earlier later : List Event) :
    listings (earlier ++ later) = listings earlier + listings later :=
  List.countP_append

/-- As many pages as the run has listings suffice for it. -/
theorem PageRun.removePages_eq (run : PageRun store path token state events count final)
    {pages : Nat} (enough : listings events ≤ pages) :
    removePages store path pages token state = some (count, final) := by
  induction run generalizing pages with
  | unlisted answered =>
    rw [listings_list] at enough
    obtain ⟨fewer, rfl⟩ := Nat.exists_eq_add_of_le' (Nat.le_trans (Nat.le_add_left ..) enough)
    simp only [removePages_succ, answered]
  | stuck answered removal =>
    rw [listings_list] at enough
    obtain ⟨fewer, rfl⟩ := Nat.exists_eq_add_of_le' (Nat.le_trans (Nat.le_add_left ..) enough)
    simp only [removePages_succ, answered, removal.removeBatches_eq]
  | last answered removal ended =>
    rw [listings_list] at enough
    obtain ⟨fewer, rfl⟩ := Nat.exists_eq_add_of_le' (Nat.le_trans (Nat.le_add_left ..) enough)
    simp only [removePages_succ, answered, removal.removeBatches_eq, ended]
  | more answered removal going later ih =>
    rw [listings_list, listings_append] at enough
    obtain ⟨fewer, rfl⟩ := Nat.exists_eq_add_of_le' (Nat.le_trans (Nat.le_add_left ..) enough)
    have left := ih (show listings _ ≤ fewer by omega)
    simp only [removePages_succ, answered, removal.removeBatches_eq, going, left, Option.map_some]

/-- Whatever the loop gives is the result of a run. -/
theorem exists_pageRun {pages : Nat}
    (finished : removePages store path pages token state = some (count, final)) :
    ∃ events, PageRun store path token state events count final ∧ listings events ≤ pages := by
  induction pages generalizing token state count with
  | zero => cases finished
  | succ fewer ih =>
    rw [removePages_succ] at finished
    match answered : store.list path (pageOptions token) state with
    | (.error fault, next) =>
      simp only [answered, Option.some.injEq, Prod.mk.injEq] at finished
      obtain ⟨rfl, rfl⟩ := finished
      exact ⟨_, .unlisted answered, by simp [listings, Event.isListing]⟩
    | (.ok page, listed) =>
      obtain ⟨events, removed, middle, removal⟩ :=
        exists_batchRun store path.bucket (batches page.keys) listed
      have none := removal.listings_eq
      simp only [answered, removal.removeBatches_eq] at finished
      cases removed with
      | error fault =>
        simp only [Option.some.injEq, Prod.mk.injEq] at finished
        obtain ⟨rfl, rfl⟩ := finished
        exact ⟨_, .stuck answered removal, by rw [listings_list]; omega⟩
      | ok gone =>
        match followed : page.next? with
        | .none =>
          simp only [followed, Option.some.injEq, Prod.mk.injEq] at finished
          obtain ⟨rfl, rfl⟩ := finished
          exact ⟨_, .last answered removal followed, by rw [listings_list]; omega⟩
        | some next =>
          simp only [followed, Option.map_eq_some_iff, Prod.mk.injEq] at finished
          obtain ⟨⟨later, after⟩, rest, rfl, rfl⟩ := finished
          obtain ⟨more, run, bound⟩ := ih rest
          exact ⟨_, .more answered removal followed run, by
            rw [listings_list, listings_append]; omega⟩

theorem PageRun.logged (run : PageRun store path token state events count final)
    (log : List Event) :
    PageRun store.logged path token (state, log) events count (final, log ++ events) := by
  induction run generalizing log with
  | unlisted answered => exact .unlisted (Answer.logging_eq answered _ _ log)
  | stuck answered removal =>
    rw [List.append_cons]
    exact .stuck (Answer.logging_eq answered _ _ log) (removal.logged _)
  | last answered removal ended =>
    rw [List.append_cons]
    exact .last (Answer.logging_eq answered _ _ log) (removal.logged _) ended
  | more answered removal going _ ih =>
    rw [List.append_cons, ← List.append_assoc]
    exact .more (Answer.logging_eq answered _ _ log) (removal.logged _) going (ih _)

theorem PageRun.of_logged {start after : σ × List Event}
    (run : PageRun store.logged path token start events count after) :
    PageRun store path token start.1 events count after.1 ∧ after.2 = start.2 ++ events := by
  induction run with
  | unlisted answered =>
    obtain ⟨plain, grown⟩ := Answer.of_logging answered
    exact ⟨.unlisted plain, grown⟩
  | stuck answered removal =>
    obtain ⟨plain, grown⟩ := Answer.of_logging answered
    obtain ⟨removal, added⟩ := removal.of_logged
    exact ⟨.stuck plain removal, by rw [added, grown]; simp [Except.map]⟩
  | last answered removal ended =>
    obtain ⟨plain, grown⟩ := Answer.of_logging answered
    obtain ⟨removal, added⟩ := removal.of_logged
    exact ⟨.last plain removal ended, by rw [added, grown]; simp [Except.map]⟩
  | more answered removal going _ ih =>
    obtain ⟨plain, grown⟩ := Answer.of_logging answered
    obtain ⟨removal, added⟩ := removal.of_logged
    exact ⟨.more plain removal going ih.1, by rw [ih.2, added, grown]; simp [Except.map]⟩

/-! ## From the connection on -/

theorem RemoteRun.deleteRecursive_eq {connector : Connector σ}
    (run : RemoteRun connector path state events count final)
    (found : StoragePath.ofText destination = .remote path) {pages : Nat}
    (enough : listings events ≤ pages) (files : FileTree) :
    deleteRecursive connector pages destination ⟨files, state⟩ =
      some (count.map (.remote path.fullPath), ⟨files, final⟩) := by
  cases run with
  | refused answered =>
    simp only [deleteRecursive, found, removeRemote, answered, Option.map_some, Except.map]
  | served answered run =>
    have emptied := run.removePages_eq (show listings _ ≤ pages from enough)
    simp only [deleteRecursive, found, removeRemote, answered, emptied, Option.map_some]

theorem exists_remoteRun {connector : Connector σ} {pages : Nat} {world after : World σ}
    {result : Except Fault DeleteOutcome}
    (found : StoragePath.ofText destination = .remote path)
    (finished : deleteRecursive connector pages destination world = some (result, after)) :
    ∃ events count, RemoteRun connector path world.service events count after.service ∧
      listings events ≤ pages ∧ result = count.map (.remote path.fullPath) ∧
      after.files = world.files := by
  simp only [deleteRecursive, found, Option.map_eq_some_iff, Prod.mk.injEq] at finished
  obtain ⟨⟨outcome, service⟩, removed, rfl, rfl⟩ := finished
  match answered : connector.connect world.service with
  | (.error fault, next) =>
    simp only [removeRemote, answered, Option.some.injEq, Prod.mk.injEq] at removed
    obtain ⟨rfl, rfl⟩ := removed
    exact ⟨_, _, .refused answered, Nat.zero_le _, rfl, rfl⟩
  | (.ok store, next) =>
    simp only [removeRemote, answered, Option.map_eq_some_iff, Prod.mk.injEq] at removed
    obtain ⟨⟨count, final⟩, emptied, rfl, rfl⟩ := removed
    obtain ⟨events, run, bound⟩ := exists_pageRun emptied
    exact ⟨_, count, .served answered run, bound, rfl, rfl⟩

theorem RemoteRun.logged {connector : Connector σ}
    (run : RemoteRun connector path state events count final) (log : List Event) :
    RemoteRun connector.logged path (state, log) events count (final, log ++ events) := by
  cases run with
  | refused answered => exact .refused (Connector.logged_eq answered log)
  | served answered run =>
    rw [List.append_cons]
    exact .served (Connector.logged_eq answered log) (run.logged _)

theorem RemoteRun.of_logged {connector : Connector σ} {start after : σ × List Event}
    (run : RemoteRun connector.logged path start events count after) :
    RemoteRun connector path start.1 events count after.1 ∧ after.2 = start.2 ++ events := by
  cases run with
  | refused answered =>
    obtain ⟨plain, connected, refused, grown⟩ := Connector.of_logged answered
    cases plain with
    | ok store => cases refused
    | error fault =>
      cases refused
      exact ⟨.refused connected, grown⟩
  | served answered run =>
    obtain ⟨plain, connected, served, grown⟩ := Connector.of_logged answered
    cases plain with
    | error fault => cases served
    | ok store =>
      cases served
      obtain ⟨run, added⟩ := run.of_logged
      exact ⟨.served connected run, by rw [added, grown]; simp [Except.map]⟩

/-- The log of a finished deletion tells its run. -/
theorem exists_remoteRun_of_logged {connector : Connector σ} {pages : Nat} {files : FileTree}
    {after : World (σ × List Event)} {result : Except Fault DeleteOutcome}
    (found : StoragePath.ofText destination = .remote path)
    (finished : deleteRecursive connector.logged pages destination ⟨files, state, []⟩ =
      some (result, after)) :
    ∃ count, RemoteRun connector path state after.service.2 count after.service.1 ∧
      result = count.map (.remote path.fullPath) := by
  obtain ⟨events, count, run, _, same, _⟩ := exists_remoteRun found finished
  obtain ⟨plain, grown⟩ := run.of_logged
  rw [List.nil_append] at grown
  exact ⟨count, grown ▸ plain, same⟩

/-- Keeping a log does not change what a deletion does, nor whether it ends. -/
theorem deleteRecursive_logged (connector : Connector σ)
    (found : StoragePath.ofText destination = .remote path) (pages : Nat) (files : FileTree)
    (state : σ) (log : List Event) :
    (deleteRecursive connector.logged pages destination ⟨files, state, log⟩).map
        (fun (result, after) => (result, (⟨after.files, after.service.1⟩ : World σ))) =
      deleteRecursive connector pages destination ⟨files, state⟩ := by
  match finished : deleteRecursive connector pages destination ⟨files, state⟩ with
  | some (result, ⟨kept, final⟩) =>
    obtain ⟨events, count, run, enough, rfl, rfl⟩ := exists_remoteRun found finished
    rw [(run.logged log).deleteRecursive_eq found enough, Option.map_some]
  | none =>
    match written : deleteRecursive connector.logged pages destination ⟨files, state, log⟩ with
    | none => rfl
    | some (result, after) =>
      obtain ⟨events, count, run, enough, _⟩ := exists_remoteRun found written
      rw [run.of_logged.1.deleteRecursive_eq found enough files] at finished
      cases finished

/-! ## What every call keeps -/

variable {relation : σ → σ → Prop} [Std.Refl relation] [IsTrans σ relation]

theorem BatchRun.keeps (run : BatchRun store bucket groups state events count final)
    (deletes : ∀ keys, (store.delete bucket keys).Keeps relation) : relation state final := by
  induction run with
  | done => exact Std.Refl.refl _
  | failed answered => exact (deletes _).of_eq answered
  | removed answered _ ih => exact IsTrans.trans _ _ _ ((deletes _).of_eq answered) ih

theorem PageRun.keeps (run : PageRun store path token state events count final)
    (keeps : store.Keeps relation) : relation state final := by
  induction run with
  | unlisted answered => exact (keeps.list _ _).of_eq answered
  | stuck answered removal | last answered removal _ =>
    exact IsTrans.trans _ _ _ ((keeps.list _ _).of_eq answered) (removal.keeps (keeps.delete _))
  | more answered removal _ _ ih =>
    have listed := (keeps.list _ _).of_eq answered
    exact IsTrans.trans _ _ _ listed (IsTrans.trans _ _ _ (removal.keeps (keeps.delete _)) ih)

theorem RemoteRun.keeps {connector : Connector σ}
    (run : RemoteRun connector path state events count final) (keeps : connector.Keeps relation) :
    relation state final := by
  cases run with
  | refused answered => exact keeps.connect.of_eq answered
  | served answered run =>
    exact IsTrans.trans _ _ _ (keeps.connect.of_eq answered) (run.keeps (keeps.serves answered))

/-- A deletion keeps what every call keeps; one on disk makes no call. -/
theorem deleteRecursive_keeps {connector : Connector σ} {pages : Nat} {world after : World σ}
    {result : Except Fault DeleteOutcome}
    (keeps : StoragePath.namesRemote destination → connector.Keeps relation)
    (finished : deleteRecursive connector pages destination world = some (result, after)) :
    relation world.service after.service := by
  match found : StoragePath.ofText destination with
  | .disk text =>
    rw [deleteRecursive, found] at finished
    cases finished
    exact Std.Refl.refl _
  | .remote path =>
    obtain ⟨events, count, run, -⟩ := exists_remoteRun found finished
    refine run.keeps (keeps ?_)
    rw [← StoragePath.isRemote_ofText, found]
    rfl

end Haulage.Deletion
