import Haulage.Fault
import Haulage.Files.Walk
import Haulage.Storage.Object

/-! A remote store as a client sees it: three calls that answer, fail, and change a state that the
client does not see. Replies may depend on everything that happened before. -/
namespace Haulage

structure ListOptions where
  maxKeys : Option Int
  token : Option String
  deriving DecidableEq

/-- One page of a listing. -/
structure Page where
  items : List ObjectInfo
  truncated : Bool
  token : Option String
  deriving DecidableEq

/-- Where the listing goes on; only a truncated page with a token has a next one. -/
def Page.next? (page : Page) : Option String :=
  if page.truncated then page.token else none

/-- A call's result and the state after it. -/
abbrev Answer (σ α : Type) := σ → Except Fault α × σ

structure Store (σ : Type) where
  /-- The objects whose keys begin with a path's key. -/
  list : RemotePath → ListOptions → Answer σ Page
  /-- Removes objects of a bucket; gives the keys that the store says are gone. -/
  delete : String → List String → Answer σ (List String)
  /-- Stores the file that a path text names. -/
  put : RemotePath → String → FileTree → Answer σ ObjectInfo

/-- A way to get at a store. -/
structure Connector (σ : Type) where
  connect : Answer σ (Store σ)

/-- A call as it was made; a file is put with the bytes that it had. -/
inductive Call where
  | connect
  | list (path : RemotePath) (options : ListOptions)
  | delete (bucket : String) (keys : List String)
  | put (path : RemotePath) (source : String) (content : Option (List UInt8))
  deriving DecidableEq

/-- The answer, with the call written down behind the earlier ones. -/
def Answer.noting {σ α : Type} (answer : Answer σ α) (call : Call) : Answer (σ × List Call) α :=
  fun (state, calls) =>
    let (result, state) := answer state
    (result, state, calls ++ [call])

/-- A store that keeps a list of its calls. -/
def Store.recorded {σ : Type} (store : Store σ) : Store (σ × List Call) where
  list path options := (store.list path options).noting (.list path options)
  delete bucket keys := (store.delete bucket keys).noting (.delete bucket keys)
  put path source tree :=
    (store.put path source tree).noting (.put path source (tree.read source).toOption)

def Connector.recorded {σ : Type} (connector : Connector σ) : Connector (σ × List Call) where
  connect := fun state =>
    let (result, state) := (connector.connect.noting .connect) state
    (result.map Store.recorded, state)

end Haulage
