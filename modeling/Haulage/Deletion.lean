import Haulage.Files.Change
import Haulage.Storage.Store

/-! Deleting everything at a location. Below a remote prefix objects are listed page by page and each
page is deleted in batches before the next one is asked for; on disk a tree is removed from its
leaves, and nothing there is no failure. -/
namespace Haulage

/-- Files on disk and the state of a remote service. -/
structure World (σ : Type) where
  files : FileTree
  service : σ

inductive DeleteOutcome where
  | remote (target : String) (deleted : Nat)
  | diskRemoved (path : String)
  | diskMissing (path : String)
  deriving DecidableEq

namespace Deletion

/-- The most keys on a page and in a batch. -/
def batchLimit : Nat := 1000

/-- The keys in order, in lists that are full except perhaps the last. -/
def batches (keys : List String) : List (List String) :=
  match keys with
  | [] => []
  | key :: rest => (key :: rest).take batchLimit :: batches ((key :: rest).drop batchLimit)
termination_by keys.length
decreasing_by simp only [List.length_drop, List.length_cons, batchLimit]; omega

theorem flatten_batches (keys : List String) : (batches keys).flatten = keys := by
  induction keys using batches.induct with
  | case1 => simp [batches]
  | case2 key rest ih => rw [batches, List.flatten_cons, ih, List.take_append_drop]

theorem length_le_of_mem_batches {keys batch : List String} (member : batch ∈ batches keys) :
    0 < batch.length ∧ batch.length ≤ batchLimit := by
  induction keys using batches.induct with
  | case1 => simp [batches] at member
  | case2 key rest ih =>
    rw [batches] at member
    rcases List.mem_cons.mp member with same | later
    · subst same
      simp only [List.length_take, List.length_cons, batchLimit]
      omega
    · exact ih later

variable {σ : Type}

/-- Deletes batch after batch; gives the number of keys that the store says are gone. -/
def removeBatches (store : Store σ) (bucket : String) : List (List String) → Answer σ Nat
  | [], state => (.ok 0, state)
  | batch :: rest, state =>
    match store.delete bucket batch state with
    | (.error fault, state) => (.error fault, state)
    | (.ok gone, state) =>
      let (result, state) := removeBatches store bucket rest state
      (result.map (gone.length + ·), state)

/-- Lists and deletes page after page, at most as many pages as given; none if they do not
suffice. -/
def removePages (store : Store σ) (path : RemotePath) :
    Nat → Option String → σ → Option (Except Fault Nat × σ)
  | 0, _, _ => none
  | pages + 1, token, state =>
    match store.list path { maxKeys := some batchLimit, token := token } state with
    | (.error fault, state) => some (.error fault, state)
    | (.ok page, state) =>
      match removeBatches store path.bucket (batches (page.items.map (·.key))) state with
      | (.error fault, state) => some (.error fault, state)
      | (.ok gone, state) =>
        match page.next? with
        | none => some (.ok gone, state)
        | some next =>
          (removePages store path pages (some next) state).map fun (result, state) =>
            (result.map (gone + ·), state)

/-- Removes the objects below a remote path. -/
def removeRemote (connector : Connector σ) (pages : Nat) (path : RemotePath) (state : σ) :
    Option (Except Fault DeleteOutcome × σ) :=
  match connector.connect state with
  | (.error fault, state) => some (.error fault, state)
  | (.ok store, state) =>
    (removePages store path pages none state).map fun (result, state) =>
      (result.map (DeleteOutcome.remote path.fullPath), state)

/-- Removes what a path text names: a link as such, a directory with all that lies below it. -/
def removeFromDisk (text : String) : FileTree.Change DeleteOutcome := do
  match (← get).peek text with
  | .error (.system .missing) => pure (.diskMissing text)
  | .error fault => throw fault
  | .ok (location, .directory) =>
    FileTree.clear location
    tryCatch (FileTree.removeDirectory text) fun fault =>
      if fault = .system .missing then pure () else throw fault
    pure (.diskRemoved text)
  | .ok (location, _) =>
    FileTree.removeAt location
    pure (.diskRemoved text)

end Deletion

/-- Deletes everything at a location. -/
def deleteRecursive {σ : Type} (connector : Connector σ) (pages : Nat) (destination : String)
    (world : World σ) : Option (Except Fault DeleteOutcome × World σ) :=
  match StoragePath.ofText destination with
  | .remote path =>
    (Deletion.removeRemote connector pages path world.service).map fun (result, service) =>
      (result, { world with service := service })
  | .disk text =>
    let (result, files) := (Deletion.removeFromDisk text).run.run world.files
    some (result.mapError .disk, { world with files := files })

end Haulage
