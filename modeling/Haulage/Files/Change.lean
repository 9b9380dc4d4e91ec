import Haulage.Files.Walk

/-! Changes to a tree, each of which may fail. A failed change keeps what it did before it failed. -/
namespace Haulage

open Files

/-- A change with a result. -/
abbrev FileTree.Change := ExceptT Fault (StateM FileTree)

namespace FileTree

def fail {α : Type} (failure : Failure) : Change α :=
  throw (.system failure)

/-- The directory that a route's steps lead to. -/
def walkDirectory (tree : FileTree) (absolute : Bool) (steps : List Step) :
    Except Failure Location := do
  let start := if absolute then [] else tree.start
  match ← tree.walk .look linkLimit start (steps ++ [.closing]) with
  | .taken location _ => pure location
  | .free _ _ _ => throw .missing

/-- The directory that holds the last step of a text, and that step; no step for the root. -/
def holder (tree : FileTree) (text : String) : Except Fault (Location × Option Step) := do
  let route := (← Route.ofText text).withoutClosing
  let location ← (tree.walkDirectory route.absolute route.steps.dropLast).mapError .system
  pure (location, route.steps.getLast?)

/-- Puts an entry under a free name of a directory that is still there. -/
def putNew (parent : Location) (name : String) (entry : Entry) : Change Unit := do
  let tree ← get
  if tree.get? parent = some .directory then set (tree.insert (parent ++ [name]) entry)
  else fail .missing

/-- Makes one directory. Whatever is there already is in the way, be it only a link. -/
def makeDirectory (text : String) : Change Unit := do
  let tree ← get
  match ← tree.holder text with
  | (parent, some (.name name)) =>
    if Route.nameLimit < name.utf8ByteSize then fail .nameTooLong
    else if (tree.get? (parent ++ [name])).isSome then fail .exists
    else putNew parent name .directory
  | _ => fail .exists

/-- Makes one directory unless there is one. -/
def ensureDirectory (text : String) : Change Unit := do
  tryCatch (makeDirectory text) fun fault => do
    if fault = .system .exists ∧ (← get).isDirectory text then pure () else throw fault

/-- Looks for the nearest directory that is there or can be made; gives those below it that are
missing, outermost first. -/
def missingBelow : List String → Change (List String)
  | [] => pure []
  | nearest :: above => do
    let missing ← tryCatch (do ensureDirectory nearest; pure false) fun fault =>
      if fault = .system .missing then pure true else throw fault
    if missing then pure ((← missingBelow above) ++ [nearest]) else pure []

/-- Makes the first of the directories and those above it that are missing. -/
def makeDirectories (nearestFirst : List String) : Change Unit := do
  (← missingBelow nearestFirst).forM ensureDirectory

/-- Removes what is at a location; a directory has to be empty. -/
def removeAt (location : Location) : Change Unit := do
  let tree ← get
  match tree.get? location with
  | none => pure ()
  | some .directory =>
    if (tree.locationsBelow location).isEmpty then set (tree.erase location) else fail .notEmpty
  | some _ => set (tree.erase location)

/-- Removes everything strictly below a location, the deepest entries first. -/
def clear (location : Location) : Change Unit := do
  let deepestFirst := ((← get).locationsBelow location).mergeSort fun left right =>
    decide (right.length ≤ left.length)
  deepestFirst.forM removeAt

/-- Removes the empty directory that a text names by its last step. -/
def removeDirectory (text : String) : Change Unit := do
  let tree ← get
  match ← tree.holder text with
  | (_, none) => fail .busy
  | (_, some .here) => fail .invalid
  | (_, some .up) => fail .notEmpty
  | (_, some .closing) => fail .invalid
  | (parent, some (.name name)) =>
    if Route.nameLimit < name.utf8ByteSize then fail .nameTooLong
    else
      match tree.get? (parent ++ [name]) with
      | none => fail .missing
      | some .directory => removeAt (parent ++ [name])
      | some _ => fail .notDirectory

/-- The file to write to, made with a mode if there is none and emptied. -/
def openToWrite (text : String) (mode : Nat) : Change Nat := do
  let tree ← get
  match ← tree.place .write text with
  | .taken _ (.file identity) =>
    set (tree.setFile identity { tree.files identity with content := [] })
    pure identity
  | .taken _ _ => fail .isDirectory
  | .free parent name _ =>
    let identity := tree.freshIdentity
    putNew parent name (.file identity)
    modify (·.setFile identity { blankFile with mode := mode })
    pure identity

/-- Writes a whole file. -/
def write (text : String) (record : FileRecord) : Change Unit := do
  let identity ← openToWrite text record.mode
  modify (·.setFile identity record)

/-- Makes a link. -/
def makeLink (text target : String) : Change Unit := do
  match ← (← get).place .peek text with
  | .taken _ _ => fail .exists
  | .free _ _ true => fail .missing
  | .free parent name false => putNew parent name (.link target)

/-- Gives a file another name. -/
def addName (text existing : String) : Change Unit := do
  let tree ← get
  match ← tree.peek existing, ← tree.place .peek text with
  | (_, .file identity), .free parent name false => putNew parent name (.file identity)
  | (_, .directory), _ => fail .invalid
  | _, _ => fail .exists

/-- Copies the bytes and mode of a file, and its times as they were before. Gives the number of bytes
that the source holds once the target is emptied. -/
def copy (source target : String) (before : FileRecord) : Change Nat := do
  match ← (← get).look source with
  | (_, .file origin) =>
    let identity ← openToWrite target ((← get).files origin).mode
    let emptied := (← get).files origin
    modify (·.setFile identity {
      content := emptied.content
      mode := emptied.mode
      modified := before.modified
      accessed := before.accessed })
    pure emptied.content.length
  | _ => fail .invalid

end FileTree

end Haulage
