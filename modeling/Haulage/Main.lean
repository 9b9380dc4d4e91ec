import Haulage.Command.Run

/-! The commands on the files of this machine. The files that the arguments name are read into a tree,
the run is played on the tree, and what it changed there is carried out. No service is in reach from
here; modes and times of new files are left to the system. The first argument names the tool. -/
open Haulage

namespace Haulage.OnDisk

open Files

/-- The names of an absolute path. -/
def locationOf (path : String) : Location :=
  (Route.spell path).steps.filterMap fun step =>
    match step with
    | Step.name name => some name
    | _ => none

/-- The path of a location. -/
def pathOf (location : Location) : String :=
  "/" ++ "/".intercalate location

/-- The tree with one more entry, unless there is one already. -/
def add (tree : FileTree) (location : Location) (entry : Entry) : FileTree :=
  if (tree.get? location).isSome then tree else tree.insert location entry

/-- The tree with the directories down to a location. -/
def addDirectories (tree : FileTree) (location : Location) : FileTree :=
  (List.range location.length).foldl
    (fun tree count => add tree (location.take (count + 1)) .directory) tree

/-- The tree with a file of the given bytes, unless there is an entry already. -/
def addFile (tree : FileTree) (location : Location) (content : List UInt8) : FileTree :=
  let identity := tree.freshIdentity
  if (tree.get? location).isSome then tree
  else
    (tree.insert location (.file identity)).setFile identity
      { FileTree.blankFile with content := content }

/-- Reads what a path names. A link is kept as one, and what it leads to is read as well. -/
partial def look (tree : FileTree) (path : String) : IO FileTree := do
  let parent := (PathText.above path).headD (if path.startsWith "/" then "/" else ".")
  try
    let holder ← IO.FS.realPath parent
    match PathText.fileName? path with
    | none => pure (addDirectories tree (locationOf (← IO.FS.realPath path).toString))
    | some name =>
      let tree := addDirectories tree (locationOf holder.toString)
      let location := locationOf holder.toString ++ [name]
      match (← (holder / name).symlinkMetadata).type with
      | .dir => pure (add tree location .directory)
      | .file => pure (addFile tree location (← IO.FS.readBinFile (holder / name)).toList)
      | .symlink =>
        let target := (← IO.FS.realPath (holder / name)).toString
        (PathText.beginnings target).foldlM look (add tree location (.link target))
      | .other => pure tree
  catch _ => pure tree

/-- Reads which entries lie below a directory; their bytes are not looked at. -/
partial def lookBelow (tree : FileTree) (path : String) : IO FileTree := do
  let directory ← IO.FS.realPath path
  let location := locationOf directory.toString
  let mut tree := tree
  for entry in ← directory.readDir do
    let place := location ++ [entry.fileName]
    match (← entry.path.symlinkMetadata).type with
    | .dir => tree ← lookBelow (add tree place .directory) entry.path.toString
    | .symlink => tree := add tree place (.link "")
    | _ => tree := addFile tree place []
  pure tree

/-- Reads the paths, and for a deletion all that lies below the directory to be deleted. -/
def read (tool : Tool) (paths : List String) : IO FileTree := do
  let start := FileTree.startingAt (locationOf (← IO.currentDir).toString)
  let tree ← (paths.flatMap PathText.beginnings).foldlM look start
  match tool, paths.getLast?.map fun path => (path, tree.peek path) with
  | .cleanup, some (_, .ok (location, .directory)) => lookBelow tree (pathOf location)
  | _, _ => pure tree

/-- Does on disk what leads from one tree to the other. -/
def carryOut (before after : FileTree) : IO Unit := do
  let gone := (before.locationsBelow []).filter fun place => (after.get? place).isNone
  for place in gone.mergeSort fun left right => decide (right.length ≤ left.length) do
    if before.get? place = some .directory then IO.FS.removeDir (pathOf place)
    else IO.FS.removeFile (pathOf place)
  let new := (after.locationsBelow []).filter fun place => (before.get? place).isNone
  for place in new.mergeSort fun left right => decide (left.length ≤ right.length) do
    if after.get? place = some .directory then IO.FS.createDir (pathOf place)
  for place in after.locationsBelow [] do
    match after.get? place with
    | some (.file identity) =>
      let content := (after.files identity).content
      if before.get? place ≠ some (.file identity) ∨ (before.files identity).content ≠ content then
        IO.FS.writeBinFile (pathOf place) ⟨content.toArray⟩
    | _ => pure ()

/-- Variables that a run may look at. -/
def variableNames : List String :=
  [Settings.directoryVariable, "XDG_CONFIG_HOME", "HOME", "AWS_REGION", "AWS_DEFAULT_REGION",
    "AWS_ACCESS_KEY_ID", "AWS_SECRET_ACCESS_KEY", "SECRET_ACCESS_KEY", "AWS_SESSION_TOKEN"]

def environment : IO Environment := do
  let values ← variableNames.mapM fun name => do pure (name, ← IO.getEnv name)
  pure {
    value? := fun name => (values.lookup name).join
    accountHome := none
    terminal := ← (← IO.getStdout).isTty }

/-- Runs a tool. -/
def run (tool : Tool) (invocation : Invocation) : IO UInt32 := do
  let environment ← environment
  let before ← read tool ((Settings.location? environment).toList ++ invocation.places)
  let context : Command.Context Unit := {
    environment := environment
    service := .unreachable "no service in reach"
    pages := 1 }
  match Command.run context tool invocation { files := before, service := () } with
  | none => pure 1
  | some (ending, world) =>
    carryOut before world.files
    IO.print ending.console.out
    IO.eprint ending.console.err
    pure (UInt32.ofNat ending.code.number)

end Haulage.OnDisk

def main (arguments : List String) : IO UInt32 := do
  match arguments with
  | [] => IO.eprintln "cleanup or transfer?"; pure 2
  | name :: rest =>
    match Tool.ofName? name with
    | none => IO.eprintln "cleanup or transfer?"; pure 2
    | some tool =>
      match Arguments.parse tool rest with
      | .ok invocation => OnDisk.run tool invocation
      | .error fault =>
        if fault.isRequest then IO.println tool.usage else IO.eprintln tool.usage
        pure (UInt32.ofNat fault.exitNumber)
