import Haulage.Files.Route
import Haulage.Files.Tree

/-! Following a route through a tree. Links on the way are followed, and one at the end too unless it
is the link itself that is asked for; after forty links the walk gives up. -/
namespace Haulage

open Files

/-- Where a route leads: to an entry, or to a free name in a directory. A free name may have been
asked for as a directory. -/
inductive Place where
  | taken (location : Location) (entry : Entry)
  | free (parent : Location) (name : String) (asDirectory : Bool)
  deriving DecidableEq

/-- What a walk is for. A link at the end is an entry of its own to one that peeks, unless a slash
stands behind it. One that is about to write takes no slash behind the last name, be there a
directory or not. -/
inductive Purpose where
  | peek
  | look
  | write
  deriving DecidableEq

namespace FileTree

/-- The number of links that one walk follows. -/
def linkLimit : Nat := 40

/-- Walks from a directory up to the first link that has to be followed; from there the given walk
goes on. -/
def advance (tree : FileTree) (purpose : Purpose)
    (onLink : Location → List Step → Except Failure Place) :
    Location → List Step → Except Failure Place
  | location, [] => .ok (.taken location .directory)
  | location, .here :: rest => advance tree purpose onLink location rest
  | location, .closing :: rest => advance tree purpose onLink location rest
  | location, .up :: rest => advance tree purpose onLink location.dropLast rest
  | location, .name name :: rest =>
    if purpose = .write ∧ rest = [.closing] then .error .isDirectory
    else if Route.nameLimit < name.utf8ByteSize then .error .nameTooLong
    else
      match tree.get? (location ++ [name]) with
      | none =>
        if rest = [] then .ok (.free location name false)
        else if rest = [.closing] then .ok (.free location name true)
        else .error .missing
      | some .directory => advance tree purpose onLink (location ++ [name]) rest
      | some (.file identity) =>
        if rest = [] then .ok (.taken (location ++ [name]) (.file identity))
        else .error .notDirectory
      | some (.link target) =>
        if rest = [] ∧ purpose = .peek then .ok (.taken (location ++ [name]) (.link target))
        else
          let route := Route.spell target
          onLink (if route.absolute then [] else location) (route.steps ++ rest)

/-- Walks from a directory, following at most so many links. -/
def walk (tree : FileTree) (purpose : Purpose) :
    Nat → Location → List Step → Except Failure Place
  | 0 => tree.advance purpose fun _ _ => .error .linkLoop
  | links + 1 => tree.advance purpose (tree.walk purpose links)

/-- Where a path text leads. -/
def place (tree : FileTree) (purpose : Purpose) (text : String) : Except Fault Place := do
  let route ← Route.ofText text
  (tree.walk purpose linkLimit (if route.absolute then [] else tree.start) route.steps).mapError
    .system

/-- The entry that a path text names. -/
def find (tree : FileTree) (purpose : Purpose) (text : String) :
    Except Fault (Location × Entry) := do
  match ← tree.place purpose text with
  | .taken location entry => pure (location, entry)
  | .free _ _ _ => throw (.system .missing)

/-- The entry that a path text names, a link at its end being followed. -/
def look (tree : FileTree) (text : String) : Except Fault (Location × Entry) :=
  tree.find .look text

/-- The entry that a path text names, a link at its end being an entry of its own. -/
def peek (tree : FileTree) (text : String) : Except Fault (Location × Entry) :=
  tree.find .peek text

/-- Whether a path text leads to a directory. -/
def isDirectory (tree : FileTree) (text : String) : Bool :=
  match tree.look text with
  | .ok (_, .directory) => true
  | _ => false

/-- The file that a path text leads to. -/
def fileAt? (tree : FileTree) (text : String) : Option Nat :=
  match tree.look text with
  | .ok (_, .file identity) => some identity
  | _ => none

/-- The bytes of the file that a path text leads to. -/
def read (tree : FileTree) (text : String) : Except Fault (List UInt8) := do
  match ← tree.look text with
  | (_, .file identity) => pure (tree.files identity).content
  | _ => throw (.system .isDirectory)

end FileTree

end Haulage
