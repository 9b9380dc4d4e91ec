import Haulage.Toml.Value

/-! Tables while a document is read. Each table is opened by one header; dotted names open tables of
their own on the way, and only further dotted names add to those. A value is never changed. -/
namespace Haulage.Toml

/-- How a table came to be: on the way to another header, by a dotted name, or by its own header. -/
inductive Origin where
  | implied
  | dotted
  | headed
  deriving DecidableEq

/-- What a name stands for: a finished value, a table, or a series of tables whose last is open. -/
inductive Node where
  | value (value : Value)
  | table (origin : Origin) (members : List (String × Node))
  | series (tables : List (List (String × Node)))

abbrev Members := List (String × Node)

namespace Members

/-- The members with one name standing for a new node, in its old place if it had one. -/
def set (members : Members) (name : String) (node : Node) : Members :=
  match members with
  | [] => [(name, node)]
  | (other, current) :: rest =>
    if other = name then (name, node) :: rest else (other, current) :: set rest name node

/-- Applies a change to the table at the end of a path, tables on the way being made as needed. A
dotted path does not enter a table that has its own header. -/
def descend (dotted : Bool) (change : Origin → Members → Option Members) :
    List String → Origin → Members → Option Members
  | [], origin, members => change origin members
  | name :: path, _, members =>
    match members.lookup name with
    | none =>
      let origin := if dotted then Origin.dotted else .implied
      (descend dotted change path origin []).map fun inner =>
        set members name (.table origin inner)
    | some (.table origin inner) =>
      if dotted && origin == .headed then none
      else (descend dotted change path origin inner).map fun inner =>
        set members name (.table origin inner)
    | some (.series tables) =>
      tables.getLast?.bind fun last =>
        (descend dotted change path .headed last).map fun inner =>
          set members name (.series (tables.dropLast ++ [inner]))
    | some (.value _) => none

private def addNew (name : String) (node : Node) (members : Members) : Option Members :=
  if (members.lookup name).isSome then none else some (members ++ [(name, node)])

/-- Gives a name in a table its value; the last table of a dotted name is one that dotted names
opened, and a plain name is added to no such table. -/
def assign (path : List String) (name : String) (value : Value) (origin : Origin)
    (members : Members) : Option Members :=
  descend true (fun last inner =>
    if (last == .dotted) == path.isEmpty then none else addNew name (.value value) inner)
    path origin members

/-- Opens the table of a header; only a table implied by other headers may be there already. -/
def openTable (path : List String) (name : String) (members : Members) : Option Members :=
  descend false (fun _ inner =>
    match inner.lookup name with
    | none => some (inner ++ [(name, .table .headed [])])
    | some (.table .implied old) => some (set inner name (.table .headed old))
    | some _ => none) path .headed members

/-- Adds a table to the series of a header. -/
def openElement (path : List String) (name : String) (members : Members) : Option Members :=
  descend false (fun _ inner =>
    match inner.lookup name with
    | none => some (inner ++ [(name, .series [[]])])
    | some (.series tables) => some (set inner name (.series (tables ++ [[]])))
    | some _ => none) path .headed members

/-- Gives a name its value in the table that a header has opened. -/
def assignUnder (header path : List String) (name : String) (value : Value) (members : Members) :
    Option Members :=
  descend false (fun origin inner => assign path name value origin inner) header .headed members

end Members

namespace Node

mutual

/-- The value of a node when the document ends. -/
def toValue : Node → Value
  | .value finished => finished
  | .table _ members => .table (membersToValues members)
  | .series tables => .array (tablesToValues tables)

def membersToValues : List (String × Node) → List (String × Value)
  | [] => []
  | (name, node) :: rest => (name, node.toValue) :: membersToValues rest

def tablesToValues : List (List (String × Node)) → List Value
  | [] => []
  | members :: rest => .table (membersToValues members) :: tablesToValues rest

end

end Node

end Haulage.Toml
