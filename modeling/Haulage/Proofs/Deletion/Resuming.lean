import Haulage.Proofs.Deletion.Emptying
import Haulage.Proofs.Storage.Mishap

/-! A remote deletion that one call goes wrong in. It hears what it would have heard up to that call
and stops there; what is left then differs only below its path, and so a second deletion brings about
what an undisturbed one would have. -/
namespace Haulage.Deletion

variable {σ : Type} {store : Store σ} {connector : Connector σ} {held : σ → Holdings}
  {bucket : String} {path : RemotePath} {token : Option String} {groups : List (List String)}
  {state final : σ} {events : List Event} {event : Event} {count : Except Fault Nat}
  {mishap : Mishap} {made index : Nat}

/-! ## Before the mishap -/

theorem BatchRun.unstruck (run : BatchRun store bucket groups state events count final)
    (early : made + events.length ≤ mishap.call) :
    BatchRun (store.struck mishap) bucket groups (state, made) events count
      (final, made + events.length) := by
  induction run generalizing made with
  | done => exact .done
  | failed answered => exact .failed (Answer.struck_of_ne answered _ (Nat.ne_of_lt early))
  | removed answered _ ih =>
    rw [List.length_cons, ← Nat.succ_add_eq_add_succ] at early ⊢
    exact .removed (Answer.struck_of_ne answered _ (by omega)) (ih early)

theorem PageRun.unstruck (run : PageRun store path token state events count final)
    (early : made + events.length ≤ mishap.call) :
    PageRun (store.struck mishap) path token (state, made) events count
      (final, made + events.length) := by
  induction run generalizing made with
  | unlisted answered => exact .unlisted (Answer.struck_of_ne answered _ (Nat.ne_of_lt early))
  | stuck answered removal =>
    rw [List.length_cons, ← Nat.succ_add_eq_add_succ] at early ⊢
    exact .stuck (Answer.struck_of_ne answered _ (by omega)) (removal.unstruck early)
  | last answered removal ended =>
    rw [List.length_cons, ← Nat.succ_add_eq_add_succ] at early ⊢
    exact .last (Answer.struck_of_ne answered _ (by omega)) (removal.unstruck early) ended
  | more answered removal going _ ih =>
    rw [List.length_cons, ← Nat.succ_add_eq_add_succ, List.length_append, ← Nat.add_assoc] at early ⊢
    exact .more (Answer.struck_of_ne answered _ (by omega)) (removal.unstruck (by omega)) going
      (ih early)

theorem RemoteRun.unstruck (run : RemoteRun connector path state events count final)
    (early : events.length ≤ mishap.call) :
    RemoteRun (connector.struck mishap) path (state, 0) events count (final, events.length) := by
  cases run with
  | refused answered => exact .refused (Connector.struck_of_ne answered (Nat.ne_of_lt early))
  | served answered run =>
    rw [List.length_cons, Nat.add_comm] at early ⊢
    exact .served (Connector.struck_of_ne answered (by omega)) (run.unstruck early)

/-! ## At the mishap -/

/-- The batches before the struck one are deleted, and none behind it is asked for. -/
theorem BatchRun.struck (run : BatchRun store bucket groups state events count final)
    (happens : events[index]? = some event) (reached : made + index = mishap.call) :
    ∃ stopped, BatchRun (store.struck mishap) bucket groups (state, made)
      (events.take index ++ [⟨event.call, .error mishap.fault⟩]) (.error mishap.fault)
      (stopped, mishap.call + 1) := by
  induction run generalizing made index with
  | done => cases happens
  | failed _ =>
    cases index with
    | zero =>
      cases happens
      exact ⟨_, .failed (Answer.struck_here reached ..)⟩
    | succ _ => cases happens
  | removed answered _ ih =>
    cases index with
    | zero =>
      cases happens
      exact ⟨_, .failed (Answer.struck_here reached ..)⟩
    | succ index =>
      obtain ⟨stopped, later⟩ := ih happens (show made + 1 + index = mishap.call by omega)
      exact ⟨stopped, .removed (Answer.struck_of_ne answered _ (by omega)) later⟩

theorem PageRun.struck (run : PageRun store path token state events count final)
    (happens : events[index]? = some event) (reached : made + index = mishap.call) :
    ∃ stopped, PageRun (store.struck mishap) path token (state, made)
      (events.take index ++ [⟨event.call, .error mishap.fault⟩]) (.error mishap.fault)
      (stopped, mishap.call + 1) := by
  induction run generalizing made index with
  | unlisted _ =>
    cases index with
    | zero =>
      cases happens
      exact ⟨_, .unlisted (Answer.struck_here reached ..)⟩
    | succ _ => cases happens
  | stuck answered removal | last answered removal _ =>
    cases index with
    | zero =>
      cases happens
      exact ⟨_, .unlisted (Answer.struck_here reached ..)⟩
    | succ index =>
      obtain ⟨stopped, removal⟩ :=
        removal.struck happens (show made + 1 + index = mishap.call by omega)
      exact ⟨stopped, .stuck (Answer.struck_of_ne answered _ (by omega)) removal⟩
  | @more _ _ _ _ events _ _ _ _ _ _ answered removal going _ ih =>
    cases index with
    | zero =>
      cases happens
      exact ⟨_, .unlisted (Answer.struck_here reached ..)⟩
    | succ index =>
      have listed := Answer.struck_of_ne answered id (show made ≠ mishap.call by omega)
      rw [List.getElem?_cons_succ] at happens
      rw [List.take_succ_cons, List.cons_append, List.take_append]
      -- The struck call is among the deletions of this page, or behind all of them.
      by_cases here : index < events.length
      · rw [List.getElem?_append_left here] at happens
        obtain ⟨stopped, removal⟩ :=
          removal.struck happens (show made + 1 + index = mishap.call by omega)
        rw [Nat.sub_eq_zero_of_le (Nat.le_of_lt here), List.take_zero, List.append_nil]
        exact ⟨stopped, .stuck listed removal⟩
      · have past := Nat.le_of_not_lt here
        rw [List.getElem?_append_right past] at happens
        obtain ⟨stopped, later⟩ := ih happens
          (show made + 1 + events.length + (index - events.length) = mishap.call by omega)
        rw [List.take_of_length_le past, List.append_assoc]
        exact ⟨stopped, .more listed (removal.unstruck (by omega)) going later⟩

/-! ## What is left -/

theorem BatchRun.thinned (run : BatchRun store path.bucket groups state events count final)
    (contained : store.Contained held) (covered : ∀ key ∈ groups.flatten, path.Covers key) :
    (held state).Thinned path (held final) := by
  induction run with
  | done => exact .refl _
  | failed answered =>
    obtain ⟨removed, named, left⟩ := contained.undeleted answered
    rw [left]
    exact .without fun key member => covered key (by
      rw [List.flatten_cons]
      exact List.mem_append_left _ (named member))
  | @removed batch start _ _ _ _ _ _ answered _ ih =>
    rw [List.flatten_cons] at covered
    have first : (held start).Thinned path ((held start).without path.bucket batch) :=
      .without fun key member => covered key (List.mem_append_left _ member)
    rw [← contained.delete answered] at first
    exact first.trans (ih fun key member => covered key (List.mem_append_right _ member))

theorem PageRun.thinned (run : PageRun store path token state events count final)
    (contained : store.Contained held) : (held state).Thinned path (held final) := by
  have page {token : Option String} {start listed final : σ} {page : Page} {events : List Event}
      {count : Except Fault Nat}
      (answered : store.list path (pageOptions token) start = (.ok page, listed))
      (removal : BatchRun store path.bucket (batches page.keys) listed events count final) :
      (held start).Thinned path (held final) := by
    obtain ⟨unchanged, shows⟩ := contained.list answered
    rw [← unchanged]
    exact removal.thinned contained fun key member => shows.covers (by
      rwa [flatten_batches] at member)
  induction run with
  | unlisted answered =>
    rw [contained.unlisted (by simp [pageOptions, batchLimit]) answered]
    exact .refl _
  | stuck answered removal | last answered removal _ => exact page answered removal
  | more answered removal _ _ ih => exact (page answered removal).trans ih

theorem RemoteRun.struck (run : RemoteRun connector path state events count final)
    (obliging : connector.Obliging held) (happens : events[mishap.call]? = some event) :
    ∃ stopped, RemoteRun (connector.struck mishap) path (state, 0)
        (events.take mishap.call ++ [⟨event.call, .error mishap.fault⟩]) (.error mishap.fault)
        (stopped, mishap.call + 1) ∧
      (held state).Thinned path (held stopped) := by
  obtain ⟨store, connected, serves, unchanged, serving⟩ := obliging.connects state
  cases run with
  | refused answered => cases serves.symm.trans answered
  | served answered run =>
    cases serves.symm.trans answered
    match place : mishap.call with
    | 0 =>
      rw [place] at happens
      cases happens
      refine ⟨state, .refused ?_, .refl _⟩
      exact place ▸ Connector.struck_here place.symm connector state
    | index + 1 =>
      rw [place, List.getElem?_cons_succ] at happens
      obtain ⟨stopped, run⟩ := run.struck happens (show 1 + index = mishap.call by omega)
      have thinned := run.thinned (serving.struck_contained mishap)
      rw [← unchanged]
      rw [place] at run
      exact ⟨stopped, .served (Connector.struck_of_ne answered (by omega)) run, thinned⟩

/-! ## The whole deletion -/

theorem listings_take_le (happens : events[index]? = some event) (result : Except Fault Reply) :
    listings (events.take index ++ [⟨event.call, result⟩]) ≤ listings events := by
  obtain ⟨inside, rfl⟩ := List.getElem?_eq_some_iff.mp happens
  calc listings (events.take index ++ [⟨events[index].call, result⟩])
    _ = listings (events.take index) + listings [events[index]] := listings_append ..
    _ = listings (events.take (index + 1)) := by
      rw [List.take_succ_eq_append_getElem inside, listings_append]
    _ ≤ listings events := (List.take_sublist ..).countP_le

theorem exists_remoteRun_of_obliging (obliging : connector.Obliging held) (path : RemotePath)
    (state : σ) :
    ∃ events final,
      RemoteRun connector path state events (.ok ((held state).under path).card) final ∧
      held final = (held state).cleared path ∧
      listings events ≤ ((held state).under path).card + 1 := by
  obtain ⟨store, connected, answered, unchanged, serving⟩ := obliging.connects state
  rw [← unchanged]
  obtain ⟨events, final, run, left, bound, _⟩ := exists_pageRun_of_obliging serving
    (show ∀ key ∈ (held connected).under path, After none key by simp [After])
  exact ⟨_, final, .served answered run, left, bound⟩

/-- A deletion on an obliging store that one call goes wrong in ends with the fault of that call and
asks for nothing more. Until then it hears what an undisturbed deletion hears, and of what the store
holds nothing is gone but keys that the path covers. A second deletion succeeds and leaves what the
undisturbed one does: all but the keys that the path covers. -/
theorem deleteRecursive_resumes {destination : String} {pages : Nat}
    (obliging : connector.Obliging held)
    (found : StoragePath.ofText destination = .remote path)
    (enough : ((held state).under path).card < pages) (files : FileTree) :
    ∃ final log,
      deleteRecursive connector.logged pages destination ⟨files, state, []⟩ =
        some (.ok (.remote path.fullPath ((held state).under path).card), ⟨files, final, log⟩) ∧
      held final = (held state).cleared path ∧
      ∀ mishap : Mishap,
        (log.length ≤ mishap.call →
          deleteRecursive (connector.struck mishap).logged pages destination
              ⟨files, (state, 0), []⟩ =
            some (.ok (.remote path.fullPath ((held state).under path).card),
              ⟨files, (final, log.length), log⟩)) ∧
        ∀ event, log[mishap.call]? = some event → ∃ stopped,
          deleteRecursive (connector.struck mishap).logged pages destination
              ⟨files, (state, 0), []⟩ =
            some (.error mishap.fault, ⟨files, (stopped, mishap.call + 1),
              log.take mishap.call ++ [⟨event.call, .error mishap.fault⟩]⟩) ∧
          (held state).Thinned path (held stopped) ∧
          ∃ resumed,
            deleteRecursive connector pages destination ⟨files, stopped⟩ =
              some (.ok (.remote path.fullPath ((held stopped).under path).card),
                ⟨files, resumed⟩) ∧
            held resumed = held final := by
  obtain ⟨log, final, run, emptied, bound⟩ := exists_remoteRun_of_obliging obliging path state
  have within : listings log ≤ pages := Nat.le_trans bound enough
  refine ⟨final, log, (run.logged []).deleteRecursive_eq found within files, emptied, ?_⟩
  intro mishap
  constructor
  · intro late
    exact ((run.unstruck late).logged []).deleteRecursive_eq found within files
  · intro event happens
    obtain ⟨stopped, broken, thinned⟩ := run.struck obliging happens
    obtain ⟨_, resumed, again, rest, short⟩ :=
      exists_remoteRun_of_obliging obliging path stopped
    have fewer := thinned.card_under_le
    refine ⟨stopped, (broken.logged []).deleteRecursive_eq found
      (Nat.le_trans (listings_take_le happens _) within) files, thinned, resumed,
      again.deleteRecursive_eq found (by omega) files, ?_⟩
    rw [rest, emptied, thinned.cleared_eq]

/-- The first deletion is refused for one of its two keys. -/
def refusal : Mishap where
  call := 2
  fault := .remote (.leftBehind "b" 1 2 "p/a" "AccessDenied")
  removes key := key = "p/b"

theorem deleteRecursive_refused : ∃ final stopped resumed log,
    deleteRecursive (Shelves.connector 2).logged 4 "s3://b/p"
        ⟨FileTree.startingAt [], stocked, []⟩ =
      some (.ok (.remote "s3://b/p" 3), ⟨FileTree.startingAt [], final, log⟩) ∧
    (∃ event, log[2]? = some event ∧
      deleteRecursive ((Shelves.connector 2).struck refusal).logged 4 "s3://b/p"
          ⟨FileTree.startingAt [], (stocked, 0), []⟩ =
        some (.error refusal.fault, ⟨FileTree.startingAt [], (stopped, 3),
          log.take 2 ++ [⟨event.call, .error refusal.fault⟩]⟩)) ∧
    stocked.held.Thinned ⟨"b", "p"⟩ stopped.held ∧
    deleteRecursive (Shelves.connector 2) 4 "s3://b/p" ⟨FileTree.startingAt [], stopped⟩ =
      some (.ok (.remote "s3://b/p" (stopped.held.under ⟨"b", "p"⟩).card),
        ⟨FileTree.startingAt [], resumed⟩) ∧
    resumed.held = final.held ∧ final.held = stocked.held.cleared ⟨"b", "p"⟩ := by
  have named : StoragePath.ofText "s3://b/p" = .remote ⟨"b", "p"⟩ := by decide
  have three : (stocked.held.under ⟨"b", "p"⟩).card = 3 := by decide
  obtain ⟨final, log, finished, emptied, struck⟩ :=
    deleteRecursive_resumes (Shelves.connector_obliging 2) named
      (show (stocked.held.under ⟨"b", "p"⟩).card < 4 by rw [three]; decide) (FileTree.startingAt [])
  rw [three] at finished
  have calls : (deleteRecursive (Shelves.connector 2).logged 4 "s3://b/p"
      ⟨FileTree.startingAt [], stocked, []⟩).map (fun (_, after) => after.service.2.length) =
      some 5 := by decide +kernel
  rw [finished, Option.map_some, Option.some_inj] at calls
  have third : 2 < log.length := by
    rw [show log.length = 5 from calls]
    decide
  have happens : log[refusal.call]? = some log[2] := List.getElem?_eq_getElem third
  obtain ⟨stopped, broken, thinned, resumed, again, same⟩ := (struck refusal).2 _ happens
  exact ⟨final, stopped, resumed, log, finished, ⟨_, happens, broken⟩, thinned, again, same,
    emptied⟩

end Haulage.Deletion
