import Haulage.Decimal.Binary64

/-! The values of a TOML document. -/
namespace Haulage.Toml

/-- A numeral that no number format holds is kept as it is written. -/
inductive Value where
  | string (text : String)
  | integer (value : Int)
  | float (value : Binary64)
  | boolean (value : Bool)
  | datetime (text : String)
  | array (elements : List Value)
  | table (members : List (String × Value))
  | beyond (text : String)

/-- Names are distinct; their order says nothing. -/
abbrev Document := List (String × Value)

namespace Value

mutual

/-- Whether the test holds of the value or of one inside it. -/
def holds (test : Value → Bool) : Value → Bool
  | .array elements => test (.array elements) || someElement test elements
  | .table members => test (.table members) || someMember test members
  | value => test value

def someElement (test : Value → Bool) : List Value → Bool
  | [] => false
  | element :: rest => element.holds test || someElement test rest

def someMember (test : Value → Bool) : List (String × Value) → Bool
  | [] => false
  | (_, value) :: rest => value.holds test || someMember test rest

end

mutual

/-- Whether two values are the same. -/
def same : Value → Value → Bool
  | .string left, .string right => left == right
  | .integer left, .integer right => left == right
  | .float left, .float right => left == right
  | .boolean left, .boolean right => left == right
  | .datetime left, .datetime right => left == right
  | .array left, .array right => sameElements left right
  | .table left, .table right => sameMembers left right
  | .beyond left, .beyond right => left == right
  | _, _ => false

def sameElements : List Value → List Value → Bool
  | [], [] => true
  | left :: lefts, right :: rights => left.same right && sameElements lefts rights
  | _, _ => false

def sameMembers : List (String × Value) → List (String × Value) → Bool
  | [], [] => true
  | (name, left) :: lefts, (other, right) :: rights =>
    name == other && left.same right && sameMembers lefts rights
  | _, _ => false

end

mutual

theorem same_iff : (left right : Value) → (left.same right = true ↔ left = right)
  | .array elements, right => by
    cases right with
    | array others => rw [same, sameElements_iff elements others, array.injEq]
    | _ => simp [same]
  | .table members, right => by
    cases right with
    | table others => rw [same, sameMembers_iff members others, table.injEq]
    | _ => simp [same]
  | .string text, right => by cases right <;> simp [same]
  | .integer number, right => by cases right <;> simp [same]
  | .float number, right => by cases right <;> simp [same]
  | .boolean switch, right => by cases right <;> simp [same]
  | .datetime text, right => by cases right <;> simp [same]
  | .beyond text, right => by cases right <;> simp [same]

theorem sameElements_iff : (lefts rights : List Value) →
    (sameElements lefts rights = true ↔ lefts = rights)
  | [], rights => by cases rights <;> simp [sameElements]
  | left :: lefts, [] => by simp [sameElements]
  | left :: lefts, right :: rights => by
    rw [sameElements, Bool.and_eq_true, same_iff left right, sameElements_iff lefts rights,
      List.cons.injEq]

theorem sameMembers_iff : (lefts rights : List (String × Value)) →
    (sameMembers lefts rights = true ↔ lefts = rights)
  | [], rights => by cases rights <;> simp [sameMembers]
  | left :: lefts, [] => by simp [sameMembers]
  | (name, left) :: lefts, (other, right) :: rights => by
    rw [sameMembers, Bool.and_eq_true, Bool.and_eq_true, beq_iff_eq, same_iff left right,
      sameMembers_iff lefts rights, List.cons.injEq, Prod.mk.injEq]

end

instance : DecidableEq Value := fun left right => decidable_of_iff _ (same_iff left right)

end Value

end Haulage.Toml
