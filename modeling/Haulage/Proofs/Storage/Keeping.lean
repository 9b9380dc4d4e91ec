import Haulage.Storage.Store
import Mathlib.Logic.Relation
import Mathlib.Order.Defs.Unbundled

/-! Relations between the state before a call and the state after it that hold whatever the call
answers. -/
namespace Haulage

variable {σ α : Type}

/-- The relation holds between the state before and the state after. -/
def Answer.Keeps (relation : σ → σ → Prop) (answer : Answer σ α) : Prop :=
  ∀ state, relation state (answer state).2

theorem Answer.Keeps.of_eq {relation : σ → σ → Prop} {answer : Answer σ α} {state next : σ}
    {result : Except Fault α} (keeps : answer.Keeps relation)
    (answered : answer state = (result, next)) : relation state next := by
  have kept := keeps state
  rwa [answered] at kept

structure Store.Keeps (relation : σ → σ → Prop) (store : Store σ) : Prop where
  list : ∀ path options, (store.list path options).Keeps relation
  delete : ∀ bucket keys, (store.delete bucket keys).Keeps relation
  put : ∀ path source files, (store.put path source files).Keeps relation

/-- One call after which the store is in the second state. -/
inductive Store.Calls (store : Store σ) (state : σ) : σ → Prop where
  | list (path : RemotePath) (options : ListOptions) :
      store.Calls state (store.list path options state).2
  | delete (bucket : String) (keys : List String) :
      store.Calls state (store.delete bucket keys state).2
  | put (path : RemotePath) (source : String) (files : FileTree) :
      store.Calls state (store.put path source files state).2

/-- However many calls are made, the relation is kept. -/
theorem Store.Keeps.of_calls {relation : σ → σ → Prop} [Std.Refl relation] [IsTrans σ relation]
    {store : Store σ} {before after : σ} (keeps : store.Keeps relation)
    (calls : Relation.ReflTransGen store.Calls before after) : relation before after := by
  induction calls with
  | refl => exact Std.Refl.refl _
  | tail _ call earlier =>
    refine IsTrans.trans _ _ _ earlier ?_
    cases call with
    | list path options => exact keeps.list path options _
    | delete bucket keys => exact keeps.delete bucket keys _
    | put path source files => exact keeps.put path source files _

/-- Connecting keeps the relation, and so does every store that is reached. -/
structure Connector.Keeps (relation : σ → σ → Prop) (connector : Connector σ) : Prop where
  connect : connector.connect.Keeps relation
  serves : ∀ {state store next}, connector.connect state = (.ok store, next) → store.Keeps relation

end Haulage
