import Haulage.Storage.Store

/-! What a client hears from a store: every call together with its result, in order. -/
namespace Haulage

/-- The keys on a page, as they stand. -/
def Page.keys (page : Page) : List String := page.items.map (·.key)

/-- What a call gives when it does not fail. -/
inductive Reply where
  | connected
  | listed (page : Page)
  | deleted (keys : List String)
  | stored (info : ObjectInfo)

/-- A call as it was made and what came of it. -/
structure Event where
  call : Call
  result : Except Fault Reply

namespace Event

/-- The page that the event brought. -/
def page? (event : Event) : Option Page :=
  match event.result with
  | .ok (.listed page) => some page
  | _ => none

def isListing (event : Event) : Bool :=
  match event.call with
  | .list _ _ => true
  | _ => false

def failed (event : Event) : Bool :=
  match event.result with
  | .error _ => true
  | .ok _ => false

end Event

variable {σ α : Type}

/-- The answer, with the event written down behind the earlier ones. -/
def Answer.logging (answer : Answer σ α) (call : Call) (reply : α → Reply) :
    Answer (σ × List Event) α :=
  fun (state, log) =>
    let (result, state) := answer state
    (result, state, log ++ [⟨call, result.map reply⟩])

/-- A store that keeps a list of the events. -/
def Store.logged (store : Store σ) : Store (σ × List Event) where
  list path options := (store.list path options).logging (.list path options) .listed
  delete bucket keys := (store.delete bucket keys).logging (.delete bucket keys) .deleted
  put path source tree :=
    (store.put path source tree).logging (.put path source (tree.read source).toOption) .stored

def Connector.logged (connector : Connector σ) : Connector (σ × List Event) where
  connect := fun state =>
    let (result, state) := (connector.connect.logging .connect fun _ => .connected) state
    (result.map Store.logged, state)

theorem Answer.logging_eq {answer : Answer σ α} {state next : σ} {result : Except Fault α}
    (answered : answer state = (result, next)) (call : Call) (reply : α → Reply)
    (log : List Event) :
    answer.logging call reply (state, log) = (result, next, log ++ [⟨call, result.map reply⟩]) := by
  simp only [Answer.logging, answered]

/-- A logged answer is the answer with its event at the end of the log. -/
theorem Answer.of_logging {answer : Answer σ α} {call : Call} {reply : α → Reply} {state : σ}
    {log : List Event} {result : Except Fault α} {after : σ × List Event}
    (answered : answer.logging call reply (state, log) = (result, after)) :
    answer state = (result, after.1) ∧ after.2 = log ++ [⟨call, result.map reply⟩] := by
  simp only [Answer.logging, Prod.mk.injEq] at answered
  obtain ⟨same, rfl⟩ := answered
  subst same
  exact ⟨rfl, rfl⟩

theorem Connector.logged_eq {connector : Connector σ} {state next : σ}
    {result : Except Fault (Store σ)} (answered : connector.connect state = (result, next))
    (log : List Event) :
    connector.logged.connect (state, log) =
      (result.map Store.logged, next, log ++ [⟨.connect, result.map fun _ => .connected⟩]) := by
  simp only [Connector.logged, Answer.logging_eq answered]

theorem Connector.of_logged {connector : Connector σ} {start next : σ × List Event}
    {result : Except Fault (Store (σ × List Event))}
    (answered : connector.logged.connect start = (result, next)) :
    ∃ plain, connector.connect start.1 = (plain, next.1) ∧ result = plain.map Store.logged ∧
      next.2 = start.2 ++ [⟨.connect, plain.map fun _ => .connected⟩] := by
  obtain ⟨state, log⟩ := start
  match plainly : connector.connect state with
  | (plain, after) =>
    rw [Connector.logged_eq plainly, Prod.mk.injEq] at answered
    obtain ⟨rfl, rfl⟩ := answered
    exact ⟨plain, rfl, rfl, rfl⟩

end Haulage
