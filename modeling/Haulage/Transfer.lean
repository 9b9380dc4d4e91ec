import Haulage.Deletion

/-! Copying one file from disk to a location, over whatever is there. The source is looked at before
anything else, and a target on disk that is the source itself is refused. -/
namespace Haulage

structure TransferOutcome where
  source : String
  destination : String
  size : Nat
  deriving DecidableEq

namespace Transfer

/-- The file that a source text names; nothing else may be a source. -/
def source? (files : FileTree) (source : String) : Except Fault Nat :=
  match files.fileAt? source with
  | some identity => .ok identity
  | none => .error (.notFound (.source source))

private def fileName (source : String) : String :=
  (Files.PathText.fileName? source).getD ""

/-- Below a directory-like path the object takes the source's file name. -/
def remoteTarget (path : RemotePath) (source : String) : RemotePath :=
  if path.isDirectory then path.join (fileName source) else path

/-- Below a directory, or a text that ends in a slash, the copy takes the source's file name. -/
def diskTarget (files : FileTree) (destination source : String) : String :=
  if destination.toList.getLast? = some '/' ∨ files.isDirectory destination then
    Files.PathText.join destination (fileName source)
  else destination

variable {σ : Type}

/-- Puts the file to a remote path. -/
def upload (connector : Connector σ) (path : RemotePath) (source : String) (size : Nat)
    (files : FileTree) : Answer σ TransferOutcome := fun state =>
  match connector.connect state with
  | (.error fault, state) => (.error fault, state)
  | (.ok store, state) =>
    let (result, state) := store.put path source files state
    (result.map fun _ => { source := source, destination := path.fullPath, size := size }, state)

/-- Copies the file on disk, after making the directories above the target. -/
def copyOnDisk (source target : String) (identity : Nat) : FileTree.Change TransferOutcome := do
  let before := (← get).files identity
  if (← get).fileAt? target = some identity then throw (.sameFile target)
  FileTree.makeDirectories (Files.PathText.above target)
  let size ← FileTree.copy source target before
  pure { source := source, destination := target, size := size }

end Transfer

/-- Transfers one file to a location. -/
def transferFile {σ : Type} (connector : Connector σ) (source destination : String)
    (world : World σ) : Except Fault TransferOutcome × World σ :=
  match Transfer.source? world.files source with
  | .error fault => (.error fault, world)
  | .ok identity =>
    match StoragePath.ofText destination with
    | .remote path =>
      let size := (world.files.files identity).content.length
      let (result, service) :=
        Transfer.upload connector (Transfer.remoteTarget path source) source size world.files
          world.service
      (result, { world with service := service })
    | .disk text =>
      let target := Transfer.diskTarget world.files text source
      let (result, files) := (Transfer.copyOnDisk source target identity).run.run world.files
      (result.mapError .disk, { world with files := files })

end Haulage
