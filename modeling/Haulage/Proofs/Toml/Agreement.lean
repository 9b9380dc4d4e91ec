import Haulage.Proofs.Toml.Distinct

/-! Tables that agree on some names. Where names are distinct, a look for one of these finds the same in
both tables, whatever other members there are and in whatever order the members stand. -/
namespace Haulage.Toml

/-- The tables have the same members under the names. -/
def AgreeOn (names : List String) (left right : Document) : Prop :=
  ∀ name ∈ names, ∀ value, (name, value) ∈ left ↔ (name, value) ∈ right

variable {members left right added : Document} {names : List String} {name : String}

/-- With distinct names a look at a table finds each of its members. -/
theorem lookup_eq_some_iff_mem (distinct : (members.map Prod.fst).Nodup) {value : Value} :
    members.lookup name = some value ↔ (name, value) ∈ members := by
  constructor
  · intro found
    obtain ⟨earlier, later, rfl, -⟩ := List.lookup_eq_some_iff.mp found
    exact List.mem_append_right _ List.mem_cons_self
  · intro member
    obtain ⟨earlier, later, rfl⟩ := List.append_of_mem member
    refine List.lookup_eq_some_iff.mpr ⟨earlier, later, rfl, fun other before => ?_⟩
    rw [List.map_append, List.nodup_append] at distinct
    have apart := distinct.2.2 other.1 (List.mem_map_of_mem before) name (by simp)
    exact bne_iff_ne.mpr apart.symm

namespace AgreeOn

theorem lookup_eq (agree : AgreeOn names left right) (leftDistinct : (left.map Prod.fst).Nodup)
    (rightDistinct : (right.map Prod.fst).Nodup) (known : name ∈ names) :
    left.lookup name = right.lookup name := by
  refine Option.ext fun value => ?_
  rw [lookup_eq_some_iff_mem leftDistinct, lookup_eq_some_iff_mem rightDistinct]
  exact agree name known value

/-- Members under other names may be added, and the order may change. -/
theorem of_perm_append (perm : right.Perm (left ++ added))
    (foreign : ∀ member ∈ added, member.1 ∉ names) : AgreeOn names left right := by
  intro name known value
  rw [perm.mem_iff, List.mem_append]
  exact ⟨.inl, fun either => either.resolve_right fun present => foreign _ present known⟩

end AgreeOn

end Haulage.Toml
