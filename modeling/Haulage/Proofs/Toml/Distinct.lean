import Haulage.Toml.Reader
import Mathlib.Data.List.Nodup

/-! In a document that has been read no table has a name twice, neither the document itself nor a table
anywhere inside it. Each change to the tables while a document is read keeps their names distinct. -/
namespace Haulage.Toml

namespace Value

/-- Whether a name stands twice among the members of the value itself. -/
def repeats : Value → Bool
  | .table members => !decide (members.map Prod.fst).Nodup
  | _ => false

/-- No table has a name twice, at whatever depth. -/
def Distinct (value : Value) : Prop := value.holds repeats = false

theorem someElement_eq_false_iff {test : Value → Bool} {elements : List Value} :
    someElement test elements = false ↔ ∀ element ∈ elements, element.holds test = false := by
  induction elements with
  | nil => exact iff_of_true rfl nofun
  | cons first rest ih => rw [someElement, Bool.or_eq_false_iff, ih, List.forall_mem_cons]

theorem someMember_eq_false_iff {test : Value → Bool} {members : List (String × Value)} :
    someMember test members = false ↔ ∀ member ∈ members, member.2.holds test = false := by
  induction members with
  | nil => exact iff_of_true rfl nofun
  | cons first rest ih => rw [someMember, Bool.or_eq_false_iff, ih, List.forall_mem_cons]

theorem distinct_array_iff {elements : List Value} :
    (Value.array elements).Distinct ↔ ∀ element ∈ elements, element.Distinct := by
  rw [Distinct, holds, Bool.or_eq_false_iff, someElement_eq_false_iff]
  exact and_iff_right rfl

theorem distinct_table_iff {members : List (String × Value)} :
    (Value.table members).Distinct ↔
      (members.map Prod.fst).Nodup ∧ ∀ member ∈ members, member.2.Distinct := by
  rw [Distinct, holds, Bool.or_eq_false_iff, someMember_eq_false_iff, repeats,
    Bool.not_eq_false', decide_eq_true_iff]
  rfl

end Value

/-! ## Tables while a document is read -/

namespace Members

/-- The names are distinct, and so are those of every table inside. -/
def Distinct (members : Members) : Prop :=
  (members.map Prod.fst).Nodup ∧ ∀ member ∈ members, member.2.toValue.Distinct

theorem membersToValues_eq_map (members : Members) :
    Node.membersToValues members = members.map fun (name, node) => (name, node.toValue) := by
  induction members with
  | nil => rfl
  | cons first rest ih => rw [Node.membersToValues, ih, List.map_cons]

theorem tablesToValues_eq_map (tables : List Members) :
    Node.tablesToValues tables =
      tables.map fun members => .table (Node.membersToValues members) := by
  induction tables with
  | nil => rfl
  | cons first rest ih => rw [Node.tablesToValues, ih, List.map_cons]

theorem distinct_toValues_iff {members : Members} :
    (Value.table (Node.membersToValues members)).Distinct ↔ members.Distinct := by
  rw [Value.distinct_table_iff, membersToValues_eq_map, List.map_map, List.forall_mem_map]
  rfl

theorem distinct_toValue_table_iff {origin : Origin} {members : Members} :
    (Node.table origin members).toValue.Distinct ↔ members.Distinct := by
  rw [Node.toValue, distinct_toValues_iff]

theorem distinct_toValue_series_iff {tables : List Members} :
    (Node.series tables).toValue.Distinct ↔ ∀ members ∈ tables, members.Distinct := by
  rw [Node.toValue, Value.distinct_array_iff, tablesToValues_eq_map, List.forall_mem_map]
  exact forall₂_congr fun members _ => distinct_toValues_iff

variable {members after : Members} {name : String} {node : Node}

theorem distinct_nil : Distinct [] := ⟨List.nodup_nil, nofun⟩

/-- What a name stands for is distinct in itself. -/
theorem Distinct.of_lookup (distinct : members.Distinct) (found : members.lookup name = some node) :
    node.toValue.Distinct := by
  obtain ⟨earlier, later, rfl, -⟩ := List.lookup_eq_some_iff.mp found
  exact distinct.2 (name, node) (List.mem_append_right _ List.mem_cons_self)

/-- A name that stands for nothing may be added at the end. -/
theorem Distinct.concat (distinct : members.Distinct) (absent : members.lookup name = none)
    (inside : node.toValue.Distinct) : Distinct (members ++ [(name, node)]) := by
  refine ⟨?_, ?_⟩
  · rw [List.map_append, List.map_singleton, ← List.concat_eq_append]
    refine distinct.1.concat fun member => ?_
    obtain ⟨⟨other, held⟩, present, rfl⟩ := List.mem_map.mp member
    simpa using List.lookup_eq_none_iff.mp absent _ present
  · intro member present
    rcases List.mem_append.mp present with old | new
    · exact distinct.2 member old
    · cases List.mem_singleton.mp new
      exact inside

theorem mem_set {member : String × Node} (present : member ∈ members.set name node) :
    member = (name, node) ∨ member ∈ members := by
  induction members with
  | nil => exact .inl (List.mem_singleton.mp present)
  | cons first rest ih =>
    rw [set] at present
    split at present
    · exact (List.mem_cons.mp present).imp_right (List.mem_cons_of_mem _)
    · rcases List.mem_cons.mp present with rfl | later
      · exact .inr List.mem_cons_self
      · exact (ih later).imp_right (List.mem_cons_of_mem _)

/-- Names other than the one that is set stand where they stood. -/
theorem nodup_set (distinct : (members.map Prod.fst).Nodup) :
    ((members.set name node).map Prod.fst).Nodup := by
  induction members with
  | nil => exact List.nodup_singleton name
  | cons first rest ih =>
    rw [List.map_cons, List.nodup_cons] at distinct
    rw [set]
    split
    · rename_i same
      rw [List.map_cons, List.nodup_cons, ← same]
      exact distinct
    · rename_i differs
      rw [List.map_cons, List.nodup_cons]
      refine ⟨fun member => ?_, ih distinct.2⟩
      obtain ⟨other, present, same⟩ := List.mem_map.mp member
      rcases mem_set present with rfl | old
      · exact differs same.symm
      · exact distinct.1 (List.mem_map.mpr ⟨other, old, same⟩)

theorem Distinct.set (distinct : members.Distinct) (inside : node.toValue.Distinct) :
    Distinct (members.set name node) := by
  refine ⟨nodup_set distinct.1, fun member present => ?_⟩
  rcases mem_set present with rfl | old
  · exact inside
  · exact distinct.2 member old

/-- A change at the end of a path keeps names distinct if it does so in the table that it is made to. -/
theorem Distinct.descend {dotted : Bool} {change : Origin → Members → Option Members}
    (keeps : ∀ {origin inner later}, change origin inner = some later → inner.Distinct →
      later.Distinct) {path : List String} {origin : Origin} (distinct : members.Distinct)
    (changed : descend dotted change path origin members = some after) : after.Distinct := by
  induction path generalizing origin members after with
  | nil => exact keeps changed distinct
  | cons name path ih =>
    rw [Members.descend] at changed
    split at changed
    · obtain ⟨inner, reached, rfl⟩ := Option.map_eq_some_iff.mp changed
      exact distinct.set (distinct_toValue_table_iff.mpr (ih distinct_nil reached))
    · rename_i held found
      split at changed
      · cases changed
      · obtain ⟨inner, reached, rfl⟩ := Option.map_eq_some_iff.mp changed
        have inside := distinct_toValue_table_iff.mp (distinct.of_lookup found)
        exact distinct.set (distinct_toValue_table_iff.mpr (ih inside reached))
    · -- a path into a series goes on in its last table, the earlier ones stay
      rename_i tables found
      obtain ⟨last, ended, mapped⟩ := Option.bind_eq_some_iff.mp changed
      obtain ⟨inner, reached, rfl⟩ := Option.map_eq_some_iff.mp mapped
      have each := distinct_toValue_series_iff.mp (distinct.of_lookup found)
      refine distinct.set (distinct_toValue_series_iff.mpr fun table member => ?_)
      rcases List.mem_append.mp member with earlier | new
      · exact each table (List.dropLast_subset tables earlier)
      · cases List.mem_singleton.mp new
        exact ih (each last (List.mem_of_getLast? ended)) reached
    · cases changed

theorem Distinct.assign {path : List String} {value : Value} {origin : Origin}
    (distinct : members.Distinct) (inside : value.Distinct)
    (assigned : members.assign path name value origin = some after) : after.Distinct := by
  refine distinct.descend (fun {origin inner later} added within => ?_) assigned
  split at added
  · cases added
  · change (if (inner.lookup name).isSome then none else some (inner ++ [(name, .value value)])) =
      some later at added
    split at added
    · cases added
    · rename_i absent
      cases added
      exact within.concat (Option.not_isSome_iff_eq_none.mp absent) inside

theorem Distinct.openTable {path : List String} (distinct : members.Distinct)
    (opened : members.openTable path name = some after) : after.Distinct := by
  refine distinct.descend (fun {origin inner later} made within => ?_) opened
  split at made
  · rename_i absent
    cases made
    exact within.concat absent (distinct_toValue_table_iff.mpr distinct_nil)
  · rename_i old found
    cases made
    have kept := distinct_toValue_table_iff.mp (within.of_lookup found)
    exact within.set (distinct_toValue_table_iff.mpr kept)
  · cases made

theorem Distinct.openElement {path : List String} (distinct : members.Distinct)
    (opened : members.openElement path name = some after) : after.Distinct := by
  refine distinct.descend (fun {origin inner later} made within => ?_) opened
  split at made
  · rename_i absent
    cases made
    refine within.concat absent (distinct_toValue_series_iff.mpr fun table member => ?_)
    cases List.mem_singleton.mp member
    exact distinct_nil
  · rename_i tables found
    cases made
    have each := distinct_toValue_series_iff.mp (within.of_lookup found)
    refine within.set (distinct_toValue_series_iff.mpr fun table member => ?_)
    rcases List.mem_append.mp member with old | new
    · exact each table old
    · cases List.mem_singleton.mp new
      exact distinct_nil
  · cases made

theorem Distinct.assignUnder {header path : List String} {value : Value}
    (distinct : members.Distinct) (inside : value.Distinct)
    (assigned : members.assignUnder header path name value = some after) : after.Distinct :=
  distinct.descend (fun added within => within.assign inside added) assigned

end Members

/-! ## Values without members -/

namespace Scalar
variable {token text : List Char} {value : Value}

theorem distinct_wholeNumber (token : List Char) (number : Int) :
    (wholeNumber token number).Distinct := by
  unfold wholeNumber
  split
  · rfl
  · rfl

theorem distinct_of_decimal? {negative : Bool}
    (read : decimal? token negative text = some value) : value.Distinct := by
  unfold decimal? at read
  split at read
  split at read
  obtain ⟨digits, -, read⟩ := Option.bind_eq_some_iff.mp read
  split at read
  · cases read
    exact distinct_wholeNumber token _
  · dsimp only at read
    split at read
    all_goals
      obtain ⟨fraction, -, read⟩ := Option.bind_eq_some_iff.mp read
      split at read
      · obtain ⟨power, -, read⟩ := Option.bind_eq_some_iff.mp read
        cases read
        split
        · rfl
        · rfl
      · cases read
        split
        · rfl
        · rfl

theorem distinct_of_number? (read : number? token = some value) : value.Distinct := by
  unfold number? at read
  dsimp only at read
  split at read
  · cases read
    rfl
  · cases read
    rfl
  · obtain ⟨digits, -, rfl⟩ := Option.map_eq_some_iff.mp read
    exact distinct_wholeNumber token _
  · obtain ⟨digits, -, rfl⟩ := Option.map_eq_some_iff.mp read
    exact distinct_wholeNumber token _
  · obtain ⟨digits, -, rfl⟩ := Option.map_eq_some_iff.mp read
    exact distinct_wholeNumber token _
  · exact distinct_of_decimal? read

theorem distinct_of_datetime? (read : datetime? token = some value) : value.Distinct := by
  obtain ⟨-, same⟩ := Option.ite_none_right_eq_some.mp read
  cases same
  rfl

theorem distinct_of_ofToken? (read : ofToken? token = some value) : value.Distinct := by
  unfold ofToken? at read
  split at read
  · cases read
    rfl
  · cases read
    rfl
  · rcases Option.or_eq_some_iff.mp read with dated | ⟨-, numbered⟩
    · exact distinct_of_datetime? dated
    · exact distinct_of_number? numbered

theorem distinct_of_read? {rest : List Char} (read : read? text = some (value, rest)) :
    value.Distinct := by
  unfold read? at read
  dsimp only at read
  split at read
  · split at read
    · split at read
      · cases read
        rfl
      · cases read
    · obtain ⟨found, taken, same⟩ := Option.bind_eq_some_iff.mp read
      cases same
      exact distinct_of_ofToken? taken
  · obtain ⟨found, taken, same⟩ := Option.bind_eq_some_iff.mp read
    cases same
    exact distinct_of_ofToken? taken

end Scalar

/-! ## The reader -/

namespace Reader

variable {item : List Char → Option (Value × List Char)} {text rest : List Char} {value : Value}

/-- Every value that the reader gives has distinct names. -/
def ReadsDistinct (item : List Char → Option (Value × List Char)) : Prop :=
  ∀ ⦃text rest value⦄, item text = some (value, rest) → value.Distinct

theorem ReadsDistinct.elements (reads : ReadsDistinct item) {fuel : Nat} {found : List Value}
    (read : elements item fuel text = some (found, rest)) : ∀ value ∈ found, value.Distinct := by
  induction fuel generalizing text found rest with
  | zero => cases read
  | succ fuel ih =>
    rw [Reader.elements] at read
    obtain ⟨text, -, read⟩ := Option.bind_eq_some_iff.mp read
    split at read
    · cases read
      exact nofun
    · obtain ⟨⟨first, behind⟩, taken, read⟩ := Option.bind_eq_some_iff.mp read
      obtain ⟨behind, -, read⟩ := Option.bind_eq_some_iff.mp read
      split at read
      · obtain ⟨⟨more, end'⟩, later, same⟩ := Option.map_eq_some_iff.mp read
        cases same
        exact List.forall_mem_cons.mpr ⟨reads taken, ih later⟩
      · cases read
        exact List.forall_mem_singleton.mpr (reads taken)
      · cases read

theorem ReadsDistinct.assignment (reads : ReadsDistinct item) {path : List String} {name : String}
    (read : assignment item text = some (path, name, value, rest)) : value.Distinct := by
  rw [Reader.assignment] at read
  obtain ⟨⟨path, name, behind⟩, -, read⟩ := Option.bind_eq_some_iff.mp read
  dsimp only at read
  split at read
  · obtain ⟨⟨found, behind⟩, taken, read⟩ := Option.bind_eq_some_iff.mp read
    cases read
    exact reads taken
  · cases read

theorem ReadsDistinct.inlineTable (reads : ReadsDistinct item) {fuel : Nat} {members after : Members}
    (distinct : members.Distinct) (read : inlineTable item fuel members text = some (after, rest)) :
    after.Distinct := by
  induction fuel generalizing text members after rest with
  | zero => cases read
  | succ fuel ih =>
    rw [Reader.inlineTable] at read
    obtain ⟨text, -, read⟩ := Option.bind_eq_some_iff.mp read
    split at read
    · cases read
      exact distinct
    · obtain ⟨⟨path, name, found, behind⟩, taken, read⟩ := Option.bind_eq_some_iff.mp read
      obtain ⟨later, assigned, read⟩ := Option.bind_eq_some_iff.mp read
      have kept := distinct.assign (reads.assignment taken) assigned
      obtain ⟨behind, -, read⟩ := Option.bind_eq_some_iff.mp read
      split at read
      · exact ih kept read
      · cases read
        exact kept
      · cases read

theorem readsDistinct_value (depth : Nat) : ReadsDistinct (Reader.value depth) := by
  -- what stands in brackets is read with one level less
  induction depth using Nat.strongRecOn with
  | ind depth ih =>
    intro text rest found read
    unfold Reader.value at read
    split at read
    · cases read
    · cases read
    · rename_i depth behind
      obtain ⟨⟨elements, behind⟩, taken, same⟩ := Option.map_eq_some_iff.mp read
      cases same
      exact Value.distinct_array_iff.mpr ((ih depth depth.lt_succ_self).elements taken)
    · rename_i depth behind
      obtain ⟨⟨members, behind⟩, taken, same⟩ := Option.map_eq_some_iff.mp read
      cases same
      have kept := (ih depth depth.lt_succ_self).inlineTable Members.distinct_nil taken
      exact Members.distinct_toValues_iff.mpr kept
    · split at read
      · obtain ⟨⟨letters, behind⟩, -, same⟩ := Option.map_eq_some_iff.mp read
        cases same
        rfl
      · exact Scalar.distinct_of_read? read

theorem distinct_of_statement {path : List String} {name : String}
    (read : statement text = some (.assignment path name value, rest)) : value.Distinct := by
  unfold statement at read
  split at read
  · obtain ⟨⟨path, name, behind⟩, -, read⟩ := Option.bind_eq_some_iff.mp read
    dsimp only at read
    split at read
    · obtain ⟨behind, -, same⟩ := Option.map_eq_some_iff.mp read
      cases same
    · cases read
  · obtain ⟨⟨path, name, behind⟩, -, read⟩ := Option.bind_eq_some_iff.mp read
    dsimp only at read
    split at read
    · obtain ⟨behind, -, same⟩ := Option.map_eq_some_iff.mp read
      cases same
    · cases read
  · obtain ⟨⟨path, name, found, behind⟩, taken, read⟩ := Option.bind_eq_some_iff.mp read
    obtain ⟨behind, -, same⟩ := Option.map_eq_some_iff.mp read
    cases same
    exact (readsDistinct_value nestingLimit).assignment taken

theorem distinct_of_statements {fuel : Nat} {found : List Statement}
    (read : statements fuel text = some found) {path : List String} {name : String}
    (member : .assignment path name value ∈ found) : value.Distinct := by
  induction fuel generalizing text found with
  | zero => cases read
  | succ fuel ih =>
    rw [statements] at read
    obtain ⟨text, -, read⟩ := Option.bind_eq_some_iff.mp read
    split at read
    · cases read
      cases member
    · obtain ⟨⟨first, behind⟩, taken, read⟩ := Option.bind_eq_some_iff.mp read
      obtain ⟨later, more, same⟩ := Option.map_eq_some_iff.mp read
      cases same
      rcases List.mem_cons.mp member with rfl | behind
      · exact distinct_of_statement taken
      · exact ih more behind

/-- Each statement keeps the names distinct, an assignment if those inside its value are. -/
theorem distinct_of_apply {header later : List String} {members after : Members}
    {statement : Statement} (distinct : members.Distinct)
    (inside : ∀ {path name value}, statement = .assignment path name value → value.Distinct)
    (applied : apply (header, members) statement = some (later, after)) : after.Distinct := by
  cases statement with
  | table path name =>
    obtain ⟨opened, made, same⟩ := Option.map_eq_some_iff.mp applied
    cases same
    exact distinct.openTable made
  | element path name =>
    obtain ⟨opened, made, same⟩ := Option.map_eq_some_iff.mp applied
    cases same
    exact distinct.openElement made
  | assignment path name value =>
    obtain ⟨assigned, made, same⟩ := Option.map_eq_some_iff.mp applied
    cases same
    exact distinct.assignUnder (inside rfl) made

theorem distinct_of_foldlM {found : List Statement} {header later : List String}
    {members after : Members} (distinct : members.Distinct)
    (inside : ∀ {path name value}, .assignment path name value ∈ found → value.Distinct)
    (folded : found.foldlM apply (header, members) = some (later, after)) : after.Distinct := by
  induction found generalizing header members with
  | nil =>
    cases folded
    exact distinct
  | cons first rest ih =>
    rw [List.foldlM_cons] at folded
    obtain ⟨⟨middle, kept⟩, applied, folded⟩ := Option.bind_eq_some_iff.mp folded
    refine ih (distinct_of_apply distinct ?_ applied) ?_ folded
    · rintro path name value rfl
      exact inside List.mem_cons_self
    · exact fun member => inside (List.mem_cons_of_mem _ member)

end Reader

/-- No name stands twice in a document that has been read, nor in a table inside it. -/
theorem distinct_of_ofText? {text : String} {document : Document}
    (read : Document.ofText? text = some document) : (Value.table document).Distinct := by
  unfold Document.ofText? at read
  obtain ⟨found, stated, read⟩ := Option.bind_eq_some_iff.mp read
  obtain ⟨⟨header, members⟩, folded, read⟩ := Option.bind_eq_some_iff.mp read
  cases read
  refine Members.distinct_toValues_iff.mpr (Reader.distinct_of_foldlM Members.distinct_nil ?_ folded)
  exact fun member => Reader.distinct_of_statements stated member

end Haulage.Toml
