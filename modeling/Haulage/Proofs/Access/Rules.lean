import Haulage.Access.Options
import Mathlib.Tactic.ByContra

/-! The rules for options that go with a remote destination, and the way of access that options take
which keep to them. A fault is always that of the first rule that is broken; the fourth of them cannot
be broken before an earlier one is. -/
namespace Haulage

inductive AccessRule where
  /-- With a role there is nothing else. -/
  | roleAlone
  /-- Both keys of a pair are given, or none. -/
  | wholePair
  /-- There is a role or a pair of keys. -/
  | someMethod
  /-- With a role of some name there are no keys. -/
  | namedRoleAlone
  /-- An endpoint is an address. -/
  | endpointAddress

/-- The place of a rule in their order. -/
def AccessRule.place : AccessRule → Nat
  | .roleAlone => 1
  | .wholePair => 2
  | .someMethod => 3
  | .namedRoleAlone => 4
  | .endpointAddress => 5

namespace AccessOptions

def Breaks (options : AccessOptions) : AccessRule → Prop
  | .roleAlone => options.useRole = true ∧ ((present options.accessKeyId).isSome ∨
      (present options.secretAccessKey).isSome ∨ (present options.endpointUrl).isSome)
  | .wholePair => (present options.accessKeyId).isSome ≠ (present options.secretAccessKey).isSome
  | .someMethod => options.useRole = false ∧
      ¬ ((present options.accessKeyId).isSome ∧ (present options.secretAccessKey).isSome)
  | .namedRoleAlone => options.useRole = true ∧ (present options.roleName).isSome ∧
      ((present options.accessKeyId).isSome ∨ (present options.secretAccessKey).isSome)
  | .endpointAddress => ∃ url error, present options.endpointUrl = some url ∧
      Url.check url = .error error

/-- What is said of a rule that is broken. -/
def Reports (options : AccessOptions) : AccessRule → Fault → Prop
  | .roleAlone, fault => fault = .usage .roleWithOtherAccess
  | .wholePair, fault => fault = .usage .halfKeyPair
  | .someMethod, fault => fault = .usage .noMethod
  | .namedRoleAlone, fault => fault = .usage .roleNameWithKeyPair
  | .endpointAddress, fault => ∃ url error, present options.endpointUrl = some url ∧
      Url.check url = .error error ∧ fault = .url error

/-- The rule is broken and none before it is. -/
def BreaksFirst (options : AccessOptions) (rule : AccessRule) : Prop :=
  options.Breaks rule ∧ ∀ earlier : AccessRule, earlier.place < rule.place → ¬ options.Breaks earlier

variable {options : AccessOptions} {destination : String} {fault : Fault}

theorem present_eq_some_iff {value : Option String} {text : String} :
    present value = some text ↔ value = some text ∧ text ≠ "" := by
  rw [present, Option.filter_eq_some_iff, bne_iff_ne]

/-- The rule for roles with a name asks for less than the one for any role. -/
theorem breaks_roleAlone_of_named (broken : options.Breaks .namedRoleAlone) :
    options.Breaks .roleAlone :=
  ⟨broken.1, or_assoc.mp (.inl broken.2.2)⟩

theorem not_breaksFirst_named : ¬ options.BreaksFirst .namedRoleAlone := fun ⟨broken, first⟩ =>
  first .roleAlone (by decide) (breaks_roleAlone_of_named broken)

theorem validate_eq_error_iff_breaksFirst (remote : StoragePath.namesRemote destination) :
    options.validate destination = .error fault ↔
      ∃ rule, options.BreaksFirst rule ∧ options.Reports rule fault := by
  rw [validate_eq_error_iff remote]
  constructor
  · rintro (⟨role, other, rfl⟩ | ⟨alone, ⟨half, rfl⟩ | ⟨whole, ⟨roleless, keyless, rfl⟩ |
      ⟨method, url, error, given, unreadable, rfl⟩⟩⟩)
    · refine ⟨.roleAlone, ⟨⟨role, other⟩, fun earlier before => ?_⟩, rfl⟩
      cases earlier <;> exact absurd before (by decide)
    · refine ⟨.wholePair, ⟨half, fun earlier before => ?_⟩, rfl⟩
      cases earlier with
      | roleAlone => exact alone
      | _ => exact absurd before (by decide)
    · refine ⟨.someMethod, ⟨⟨roleless, fun both => ?_⟩, fun earlier before => ?_⟩, rfl⟩
      · rw [keyless] at both
        cases both.1
      · cases earlier with
        | roleAlone => exact alone
        | wholePair => exact fun half => half whole
        | _ => exact absurd before (by decide)
    · refine ⟨.endpointAddress, ⟨⟨url, error, given, unreadable⟩, fun earlier before => ?_⟩,
        url, error, given, unreadable, rfl⟩
      cases earlier with
      | roleAlone => exact alone
      | wholePair => exact fun half => half whole
      | someMethod =>
        rintro ⟨roleless, unpaired⟩
        rw [roleless] at method
        have keyed := method.resolve_left nofun
        exact unpaired ⟨keyed, whole ▸ keyed⟩
      | namedRoleAlone => exact mt breaks_roleAlone_of_named alone
      | endpointAddress => exact absurd before (by decide)
  · rintro ⟨rule, ⟨broken, first⟩, reported⟩
    cases rule with
    | roleAlone => exact .inl ⟨broken.1, broken.2, reported⟩
    | wholePair => exact .inr ⟨first .roleAlone (by decide), .inl ⟨broken, reported⟩⟩
    | someMethod =>
      have whole := not_not.mp (first .wholePair (by decide))
      refine .inr ⟨first .roleAlone (by decide), .inr ⟨whole, .inl ⟨broken.1, ?_, reported⟩⟩⟩
      by_contra keyed
      have keyed := Option.isSome_iff_ne_none.mpr keyed
      exact broken.2 ⟨keyed, whole ▸ keyed⟩
    | namedRoleAlone => exact absurd ⟨broken, first⟩ not_breaksFirst_named
    | endpointAddress =>
      have whole := not_not.mp (first .wholePair (by decide))
      refine .inr ⟨first .roleAlone (by decide), .inr ⟨whole, .inr ⟨?_, reported⟩⟩⟩
      by_contra without
      rw [not_or, Bool.not_eq_true] at without
      exact first .someMethod (by decide) ⟨without.1, fun both => without.2 both.1⟩

/-- Nothing is said of options for a place on disk. -/
theorem remote_of_invalid (invalid : options.validate destination = .error fault) :
    StoragePath.namesRemote destination := by
  by_contra disk
  rw [validate, if_neg disk] at invalid
  cases invalid

theorem exists_breaksFirst (invalid : options.validate destination = .error fault) :
    ∃ rule, options.BreaksFirst rule ∧ options.Reports rule fault :=
  (validate_eq_error_iff_breaksFirst (remote_of_invalid invalid)).mp invalid

/-- The words of the fourth rule are never heard. -/
theorem message_ne_of_validate (invalid : options.validate destination = .error fault) :
    fault.message ≠ UsageFault.roleNameWithKeyPair.message := by
  obtain ⟨rule, first, reported⟩ := exists_breaksFirst invalid
  cases rule with
  | roleAlone | wholePair | someMethod =>
    rw [show fault = _ from reported]
    decide
  | namedRoleAlone => exact absurd first not_breaksFirst_named
  | endpointAddress =>
    obtain ⟨url, error, -, -, rfl⟩ := reported
    intro same
    have begins : ("Invalid URL: " ++ error.message).toList.head? = some 'W' := by
      rw [show "Invalid URL: " ++ error.message = _ from same]
      rfl
    rw [String.toList_append] at begins
    cases begins

/-- Options that are valid for a remote destination take the role as it is named, or the keys as they
are given. -/
theorem method_of_validate (remote : StoragePath.namesRemote destination)
    (valid : options.validate destination = .ok ()) :
    (options.useRole = true ∧ ∃ name, options.method = .role name ∧
        ∀ text, name = some text ↔ options.roleName = some text ∧ text ≠ "") ∨
      options.useRole = false ∧ ∃ key secret, options.method = .keys key secret ∧
        options.accessKeyId = some key ∧ options.secretAccessKey = some secret := by
  rcases (validate_eq_ok_iff remote).mp valid with ⟨role, -⟩ | ⟨roleless, keyed, paired, -⟩
  · exact .inl ⟨role, _, if_pos role, fun text => present_eq_some_iff⟩
  · obtain ⟨key, given⟩ := Option.isSome_iff_exists.mp keyed
    obtain ⟨secret, kept⟩ := Option.isSome_iff_exists.mp paired
    refine .inr ⟨roleless, key, secret, ?_, (present_eq_some_iff.mp given).1,
      (present_eq_some_iff.mp kept).1⟩
    rw [method, if_neg (by simp [roleless]), given, kept]

theorem method_ne_missing (remote : StoragePath.namesRemote destination)
    (valid : options.validate destination = .ok ()) : options.method ≠ .missing := by
  rcases method_of_validate remote valid with ⟨-, name, taken, -⟩ | ⟨-, key, secret, taken, -⟩
  · exact taken ▸ nofun
  · exact taken ▸ nofun

end AccessOptions

end Haulage
