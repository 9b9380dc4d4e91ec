import Haulage.Proofs.Deletion.Run
import Haulage.Proofs.Storage.Exhaustion
import Mathlib.Algebra.GroupWithZero.Nat

/-! The calls of a remote deletion as flat lists: the connection, then visits to one page after
another. A visit is a listing and the deletions that name the page's keys in groups; only a whole
visit leads on to another one, and the first failure is the end. -/
namespace Haulage.Deletion

/-! ## Groups -/

/-- The keys in order, in groups that are full except perhaps the last. -/
structure Grouped (keys : List String) (groups : List (List String)) : Prop where
  flatten : groups.flatten = keys
  sized : ∀ group ∈ groups, 0 < group.length ∧ group.length ≤ batchLimit
  full : ∀ group ∈ groups.dropLast, group.length = batchLimit

theorem batches_of_short {group : List String} (sized : 0 < group.length)
    (short : group.length ≤ batchLimit) : batches group = [group] := by
  obtain ⟨key, rest, rfl⟩ := List.exists_cons_of_length_pos sized
  rw [batches, List.take_of_length_le short, List.drop_of_length_le short, batches]

theorem length_batches_of_short {keys : List String} (short : keys.length ≤ batchLimit) :
    (batches keys).length ≤ 1 := by
  cases keys with
  | nil =>
    rw [batches]
    exact Nat.zero_le _
  | cons key rest =>
    rw [batches_of_short (List.length_pos_of_mem List.mem_cons_self) short]
    exact Nat.le_refl _

private theorem batches_append {group : List String} (full : group.length = batchLimit)
    (more : List String) : batches (group ++ more) = group :: batches more := by
  obtain ⟨key, rest, rfl⟩ := List.exists_cons_of_length_pos (show 0 < group.length by
    rw [full]
    decide)
  rw [List.cons_append, batches, ← List.cons_append, ← full, List.take_left, List.drop_left]

theorem grouped_batches (keys : List String) : Grouped keys (batches keys) where
  flatten := flatten_batches keys
  sized _ member := length_le_of_mem_batches member
  full := by
    induction keys using batches.induct with
    | case1 => simp [batches]
    | case2 key rest ih =>
      by_cases short : (key :: rest).length ≤ batchLimit
      · rw [batches_of_short (by simp) short]
        simp
      · have filled : ((key :: rest).take batchLimit).length = batchLimit :=
          List.length_take_of_le (Nat.le_of_not_le short)
        have more : batches ((key :: rest).drop batchLimit) ≠ [] := by
          intro none
          have nothing := flatten_batches ((key :: rest).drop batchLimit)
          rw [none, List.flatten_nil] at nothing
          exact short (List.drop_eq_nil_iff.mp nothing.symm)
        rw [batches, List.dropLast_cons_of_ne_nil more]
        intro group member
        rcases List.mem_cons.mp member with same | later
        · rw [same, filled]
        · exact ih group later

/-- There is no other way to group the keys. -/
theorem Grouped.eq_batches {keys : List String} {groups : List (List String)}
    (grouped : Grouped keys groups) : groups = batches keys := by
  obtain ⟨rfl, sized, full⟩ := grouped
  induction groups with
  | nil => simp [batches]
  | cons group rest ih =>
    have first := sized group List.mem_cons_self
    cases rest with
    | nil => simp [batches_of_short first.1 first.2]
    | cons next more =>
      rw [List.dropLast_cons_cons] at full
      rw [List.flatten_cons, batches_append (full group List.mem_cons_self)]
      exact congrArg (group :: ·) (ih (fun other member => sized other (List.mem_cons_of_mem _ member))
        fun other member => full other (List.mem_cons_of_mem _ member))

/-! ## Visits -/

/-- A page and the deletions that follow it, each with the keys named in it and those that the store
says are gone. -/
structure Visit where
  page : Page
  removals : List (List String × List String)

def removalEvents (bucket : String) (removals : List (List String × List String)) : List Event :=
  removals.map fun (group, gone) => ⟨.delete bucket group, .ok (.deleted gone)⟩

namespace Visit

/-- What a client hears during the visit if it asks for the page with a token. -/
def events (visit : Visit) (path : RemotePath) (token : Option String) : List Event :=
  ⟨.list path (pageOptions token), .ok (.listed visit.page)⟩ ::
    removalEvents path.bucket visit.removals

/-- The number of keys that the store says are gone. -/
def removed (visit : Visit) : Nat := (visit.removals.map fun removal => removal.2.length).sum

/-- All keys of the page have been named. -/
def Whole (visit : Visit) : Prop := Grouped visit.page.keys (visit.removals.map (·.1))

/-- The visit is whole, and the page says where to go on. -/
structure Onward (visit : Visit) : Prop where
  whole : visit.Whole
  truncated : visit.page.truncated = true
  token : visit.page.token ≠ none

end Visit

/-- The events of visits, each with the token of the one before. -/
def trail (path : RemotePath) (token : Option String) : List Visit → List Event
  | [] => []
  | visit :: rest => visit.events path token ++ trail path visit.page.token rest

/-- The token that the last of the visits leaves. -/
def tokenAfter (token : Option String) : List Visit → Option String
  | [] => token
  | visit :: rest => tokenAfter visit.page.token rest

/-- How a deletion ends once it asks for a page with a token: it does not get the page, cannot delete
one of the groups, or has been to the last page. -/
inductive Ending (path : RemotePath) (token : Option String) :
    List Event → Except Fault Nat → Prop where
  | unlisted (fault : Fault) :
      Ending path token [⟨.list path (pageOptions token), .error fault⟩] (.error fault)
  | undeleted (visit : Visit) (group : List String) (rest : List (List String)) (fault : Fault)
      (grouped : Grouped visit.page.keys (visit.removals.map (·.1) ++ group :: rest)) :
      Ending path token
        (visit.events path token ++ [⟨.delete path.bucket group, .error fault⟩]) (.error fault)
  | last (visit : Visit) (whole : visit.Whole)
      (ended : visit.page.truncated = true → visit.page.token = none) :
      Ending path token (visit.events path token) (.ok visit.removed)

/-- All that a client hears during a deletion, with the number of keys that are gone. -/
inductive Trace (path : RemotePath) : List Event → Except Fault Nat → Prop where
  | refused (fault : Fault) : Trace path [⟨.connect, .error fault⟩] (.error fault)
  | visited (visits : List Visit) (onward : ∀ visit ∈ visits, visit.Onward)
      (ending : Ending path (tokenAfter none visits) events count) :
      Trace path (⟨.connect, .ok .connected⟩ :: (trail path none visits ++ events))
        (count.map ((visits.map Visit.removed).sum + ·))

/-- From page to page the store answers as in the visits, and each of them leads on. -/
inductive Toured {σ : Type} (store : Store σ) (path : RemotePath) :
    Option String → σ → List Visit → σ → Prop where
  | done : Toured store path token state [] state
  | on {visit : Visit} {visits : List Visit}
      (answered : store.list path (pageOptions token) state = (.ok visit.page, listed))
      (whole : visit.Whole)
      (removal : BatchRun store path.bucket (visit.removals.map (·.1)) listed
        (removalEvents path.bucket visit.removals) (.ok visit.removed) middle)
      (going : visit.page.next? = some next)
      (later : Toured store path (some next) middle visits final) :
      Toured store path token state (visit :: visits) final

/-! ## From runs to traces -/

variable {σ : Type} {store : Store σ} {connector : Connector σ} {bucket destination : String}
  {path : RemotePath} {token : Option String} {groups : List (List String)} {state final : σ}
  {events : List Event} {count : Except Fault Nat} {pages : Nat}

private theorem next?_eq_some {page : Page} {next : String} (going : page.next? = some next) :
    page.truncated = true ∧ page.token = some next := by
  unfold Page.next? at going
  split at going
  · exact ⟨‹_›, going⟩
  · cases going

theorem Visit.Whole.onward {visit : Visit} {next : String} (whole : visit.Whole)
    (going : visit.page.next? = some next) : visit.Onward := by
  obtain ⟨truncated, goes⟩ := next?_eq_some going
  exact ⟨whole, truncated, by rw [goes]; exact nofun⟩

private theorem BatchRun.exists_removals {gone : Nat}
    (run : BatchRun store bucket groups state events (.ok gone) final) :
    ∃ removals, events = removalEvents bucket removals ∧ groups = removals.map (·.1) ∧
      gone = (removals.map fun removal => removal.2.length).sum := by
  generalize same : Except.ok gone = count at run
  induction run generalizing gone with
  | done =>
    cases same
    exact ⟨[], rfl, rfl, rfl⟩
  | failed _ => cases same
  | @removed batch _ _ keys _ _ count _ _ _ ih =>
    cases count with
    | error _ => cases same
    | ok later =>
      cases same
      obtain ⟨removals, rfl, rfl, rfl⟩ := ih rfl
      exact ⟨(batch, keys) :: removals, rfl, rfl, rfl⟩

/-- The batches of a page that are all deleted make a whole visit. -/
theorem BatchRun.exists_visit {page : Page} {gone : Nat}
    (run : BatchRun store bucket (batches page.keys) state events (.ok gone) final) :
    ∃ visit : Visit, visit.page = page ∧ visit.Whole ∧
      events = removalEvents bucket visit.removals ∧ gone = visit.removed := by
  obtain ⟨removals, rfl, named, rfl⟩ := run.exists_removals
  have grouped := grouped_batches page.keys
  rw [named] at grouped
  exact ⟨⟨page, removals⟩, rfl, grouped, rfl, rfl⟩

/-- Where one of the batches is not deleted, those before it are, and none behind it is asked for. -/
theorem BatchRun.exists_undeleted {fault : Fault}
    (run : BatchRun store bucket groups state events (.error fault) final) :
    ∃ removals group rest, groups = removals.map (·.1) ++ group :: rest ∧
      events = removalEvents bucket removals ++ [⟨.delete bucket group, .error fault⟩] := by
  generalize same : Except.error fault = count at run
  induction run with
  | done => cases same
  | @failed batch _ _ _ rest _ =>
    cases same
    exact ⟨[], batch, rest, rfl, rfl⟩
  | @removed batch _ _ keys _ _ count _ _ _ ih =>
    cases count with
    | ok _ => cases same
    | error later =>
      cases same
      obtain ⟨removals, group, rest, rfl, rfl⟩ := ih rfl
      exact ⟨(batch, keys) :: removals, group, rest, rfl, rfl⟩

/-- A run over pages is a trail of visits that lead on, and an ending. -/
theorem PageRun.exists_trail (run : PageRun store path token state events count final) :
    ∃ visits ending left, (∀ visit ∈ visits, visit.Onward) ∧
      Ending path (tokenAfter token visits) ending left ∧
      events = trail path token visits ++ ending ∧
      count = left.map ((visits.map Visit.removed).sum + ·) := by
  induction run with
  | unlisted _ => exact ⟨[], _, _, nofun, .unlisted _, rfl, rfl⟩
  | @stuck _ _ _ page _ _ _ _ removal =>
    obtain ⟨removals, group, rest, named, rfl⟩ := removal.exists_undeleted
    have grouped := grouped_batches page.keys
    rw [named] at grouped
    exact ⟨[], _, _, nofun, .undeleted ⟨page, removals⟩ group rest _ grouped, rfl, rfl⟩
  | last _ removal ended =>
    obtain ⟨visit, rfl, whole, rfl, rfl⟩ := removal.exists_visit
    have cut : visit.page.truncated = true → visit.page.token = none := fun truncated => by
      rwa [Page.next?, if_pos truncated] at ended
    exact ⟨[], _, _, nofun, .last visit whole cut, rfl, by simp [Except.map]⟩
  | more _ removal going _ ih =>
    obtain ⟨visit, rfl, whole, rfl, rfl⟩ := removal.exists_visit
    obtain ⟨visits, ending, left, onward, ends, rfl, rfl⟩ := ih
    rw [← (next?_eq_some going).2] at ends ⊢
    refine ⟨visit :: visits, ending, left, ?_, ends, ?_, ?_⟩
    · intro other member
      rcases List.mem_cons.mp member with rfl | member
      · exact whole.onward going
      · exact onward other member
    · simp [trail, Visit.events]
    · cases left <;> simp [Except.map, Nat.add_assoc]

theorem RemoteRun.trace (run : RemoteRun connector path state events count final) :
    Trace path events count := by
  cases run with
  | refused _ => exact .refused _
  | served _ run =>
    obtain ⟨visits, ending, left, onward, ends, rfl, rfl⟩ := run.exists_trail
    exact .visited visits onward ends

/-! ## Runs that go on -/

/-- A loop that runs out of pages has been on a tour of as many. -/
theorem exists_tour (endless : removePages store path pages token state = none) :
    ∃ visits final, visits.length = pages ∧ Toured store path token state visits final := by
  induction pages generalizing token state with
  | zero => exact ⟨[], state, rfl, .done⟩
  | succ fewer ih =>
    rw [removePages_succ] at endless
    match answered : store.list path (pageOptions token) state with
    | (.error fault, next) => simp only [answered, reduceCtorEq] at endless
    | (.ok page, listed) =>
      obtain ⟨events, count, middle, removal⟩ :=
        exists_batchRun store path.bucket (batches page.keys) listed
      simp only [answered, removal.removeBatches_eq] at endless
      cases count with
      | error fault => cases endless
      | ok gone =>
        match going : page.next? with
        | none => simp only [going, reduceCtorEq] at endless
        | some next =>
          simp only [going, Option.map_eq_none_iff] at endless
          obtain ⟨visits, final, rfl, tour⟩ := ih endless
          obtain ⟨visit, rfl, whole, rfl, rfl⟩ := removal.exists_visit
          rw [← whole.eq_batches] at removal
          exact ⟨visit :: visits, final, rfl, .on answered whole removal going tour⟩

theorem Toured.removePages_eq_none {visits : List Visit}
    (tour : Toured store path token state visits final) :
    removePages store path visits.length token state = none := by
  induction tour with
  | done => rfl
  | on answered whole removal going _ ih =>
    rw [whole.eq_batches] at removal
    rw [List.length_cons, removePages_succ]
    simp only [answered, removal.removeBatches_eq, going, ih, Option.map_none]

/-- A deletion does not end within its pages exactly if there is a tour of as many. -/
theorem deleteRecursive_eq_none_iff {files : FileTree}
    (found : StoragePath.ofText destination = .remote path) :
    deleteRecursive connector pages destination ⟨files, state⟩ = none ↔
      ∃ store connected visits final, connector.connect state = (.ok store, connected) ∧
        visits.length = pages ∧ Toured store path none connected visits final := by
  simp only [deleteRecursive, found, Option.map_eq_none_iff]
  rcases answered : connector.connect state with ⟨fault | store, connected⟩
  · simp [removeRemote, answered]
  · simp only [removeRemote, answered, Option.map_eq_none_iff]
    constructor
    · intro endless
      obtain ⟨visits, final, counted, tour⟩ := exists_tour endless
      exact ⟨store, connected, visits, final, rfl, counted, tour⟩
    · rintro ⟨_, _, visits, final, same, rfl, tour⟩
      cases same
      exact tour.removePages_eq_none

theorem Toured.onward {visits : List Visit} (tour : Toured store path token state visits final) :
    ∀ visit ∈ visits, visit.Onward := by
  induction tour with
  | done => exact nofun
  | on _ whole _ going _ ih =>
    intro visit member
    rcases List.mem_cons.mp member with rfl | member
    · exact whole.onward going
    · exact ih visit member

theorem Toured.logged {visits : List Visit} (tour : Toured store path token state visits final)
    (log : List Event) :
    Toured store.logged path token (state, log) visits (final, log ++ trail path token visits) := by
  induction tour generalizing log with
  | done =>
    rw [trail, List.append_nil]
    exact .done
  | on answered whole removal going _ ih =>
    rw [trail, Visit.events, List.cons_append, List.append_cons, ← List.append_assoc,
      (next?_eq_some going).2]
    exact .on (Answer.logging_eq answered _ _ log) whole (removal.logged _) going (ih _)

theorem Toured.keeps {relation : σ → σ → Prop} [Std.Refl relation] [IsTrans σ relation]
    {visits : List Visit} (tour : Toured store path token state visits final)
    (keeps : store.Keeps relation) : relation state final := by
  induction tour with
  | done => exact Std.Refl.refl _
  | on answered _ removal _ _ ih =>
    have listed := (keeps.list _ _).of_eq answered
    exact IsTrans.trans _ _ _ listed (IsTrans.trans _ _ _ (removal.keeps (keeps.delete _)) ih)

/-! ## Stores that are used up -/

variable {left : Option String → σ → Nat}

theorem BatchRun.left_le (run : BatchRun store bucket groups state events count final)
    (exhaustible : store.Exhaustible path left) (token : Option String) :
    left token final ≤ left token state := by
  have kept : Order.Preimage (left token) (· ≥ ·) state final :=
    run.keeps fun _ _ => exhaustible.delete rfl token
  exact kept

/-- Each visit takes something from what is left. -/
theorem Toured.length_le {visits : List Visit}
    (tour : Toured store path token state visits final)
    (exhaustible : store.Exhaustible path left) : visits.length ≤ left token state := by
  induction tour with
  | done => exact Nat.zero_le _
  | on answered _ removal going _ ih =>
    exact Nat.succ_le_of_lt (Nat.lt_of_le_of_lt (Nat.le_trans ih (removal.left_le exhaustible _))
      (exhaustible.list answered going))

/-- One page more than the measure says suffices. -/
theorem deleteRecursive_ends (exhaustible : connector.Exhaustible path left)
    (found : StoragePath.ofText destination = .remote path)
    (enough : left none state < pages) (files : FileTree) :
    ∃ result after, deleteRecursive connector pages destination ⟨files, state⟩ =
      some (result, after) := by
  match finished : deleteRecursive connector pages destination ⟨files, state⟩ with
  | some (result, after) => exact ⟨result, after, rfl⟩
  | none =>
    obtain ⟨store, connected, visits, final, answered, rfl, tour⟩ :=
      (deleteRecursive_eq_none_iff found).mp finished
    obtain ⟨kept, exhaustible⟩ := exhaustible.connect answered
    exact absurd (Nat.le_trans (tour.length_le exhaustible) kept) (Nat.not_le_of_gt enough)

/-- Whatever the replies of a store are, what a remote deletion asks of it when it ends is a trace, and
the trace says what comes of it. It does not end within its pages exactly if it goes on as many
visits, each of which leads on. On a store that is used up it ends after one listing more than the
measure says at most. -/
theorem deleteRecursive_trace (connector : Connector σ) (pages : Nat) (files : FileTree) (state : σ)
    (found : StoragePath.ofText destination = .remote path) :
    (deleteRecursive connector.logged pages destination ⟨files, state, []⟩).map
        (fun (result, after) => (result, (⟨after.files, after.service.1⟩ : World σ))) =
      deleteRecursive connector pages destination ⟨files, state⟩ ∧
    (∀ result after,
      deleteRecursive connector.logged pages destination ⟨files, state, []⟩ = some (result, after) →
      ∃ count, Trace path after.service.2 count ∧ result = count.map (.remote path.fullPath)) ∧
    (deleteRecursive connector.logged pages destination ⟨files, state, []⟩ = none ↔
      ∃ store connected visits final, connector.connect state = (.ok store, connected) ∧
        visits.length = pages ∧ (∀ visit ∈ visits, visit.Onward) ∧
        Toured store.logged path none (connected, [⟨.connect, .ok .connected⟩]) visits
          (final, ⟨.connect, .ok .connected⟩ :: trail path none visits)) ∧
    (∀ left, connector.Exhaustible path left → left none state < pages →
      ∃ result after,
        deleteRecursive connector.logged pages destination ⟨files, state, []⟩ =
          some (result, after) ∧
        listings after.service.2 ≤ left none state + 1) := by
  have plain := deleteRecursive_logged connector found pages files state []
  refine ⟨plain, ?_, ?_, ?_⟩
  · intro result after finished
    obtain ⟨count, run, same⟩ := exists_remoteRun_of_logged found finished
    exact ⟨count, run.trace, same⟩
  · constructor
    · intro endless
      rw [endless, Option.map_none] at plain
      obtain ⟨store, connected, visits, final, answered, counted, tour⟩ :=
        (deleteRecursive_eq_none_iff found).mp plain.symm
      exact ⟨store, connected, visits, final, answered, counted, tour.onward, tour.logged _⟩
    · rintro ⟨store, connected, visits, final, answered, counted, _, tour⟩
      exact (deleteRecursive_eq_none_iff found).mpr
        ⟨_, _, visits, _, Connector.logged_eq answered [], counted, tour⟩
  · intro left exhaustible enough
    obtain ⟨result, after, ended⟩ :=
      deleteRecursive_ends exhaustible found (Nat.lt_succ_self (left none state)) files
    obtain ⟨events, count, run, bound, rfl, _⟩ := exists_remoteRun found ended
    exact ⟨_, _, (run.logged []).deleteRecursive_eq found (Nat.le_trans bound enough) files, bound⟩

/-- A page that leads on, with a key twice, and one that is cut short without a token. -/
def repetitive : Rehearsal where
  connects := []
  lists := [.ok { items := [ObjectInfo.file "p/a" 1, ObjectInfo.file "p/a" 1], truncated := true,
                  token := some "t" },
            .ok { items := [ObjectInfo.file "p/b" 1], truncated := true, token := none }]
  deletes := [.ok (some ["p/a"])]
  puts := []

theorem repetitive_traced :
    (∃ result after, deleteRecursive Rehearsal.connector.logged 3 "s3://b/p"
        ⟨FileTree.startingAt [], repetitive, []⟩ = some (result, after) ∧
      listings after.service.2 ≤ 3 ∧
      ∃ count, Trace ⟨"b", "p"⟩ after.service.2 count ∧
        result = count.map (.remote "s3://b/p")) ∧
    ∃ store connected visits final,
      Rehearsal.connector.connect repetitive = (.ok store, connected) ∧
      visits.length = 1 ∧ (∀ visit ∈ visits, visit.Onward) ∧
      Toured store.logged ⟨"b", "p"⟩ none (connected, [⟨.connect, .ok .connected⟩]) visits
        (final, ⟨.connect, .ok .connected⟩ :: trail ⟨"b", "p"⟩ none visits) := by
  have named : StoragePath.ofText "s3://b/p" = .remote ⟨"b", "p"⟩ := by decide
  constructor
  · obtain ⟨_, traced, _, ends⟩ := deleteRecursive_trace Rehearsal.connector 3
      (FileTree.startingAt []) repetitive named
    obtain ⟨result, after, finished, bound⟩ :=
      ends _ (Rehearsal.connector_exhaustible _) (show 2 < 3 by decide)
    exact ⟨result, after, finished, bound, traced result after finished⟩
  · have endless : deleteRecursive Rehearsal.connector.logged 1 "s3://b/p"
        ⟨FileTree.startingAt [], repetitive, []⟩ = none :=
      Option.isNone_iff_eq_none.mp (by decide +kernel)
    exact (deleteRecursive_trace Rehearsal.connector 1 (FileTree.startingAt []) repetitive
      named).2.2.1.mp endless

end Haulage.Deletion
