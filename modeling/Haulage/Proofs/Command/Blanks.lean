import Haulage.Command.Options

/-! Options that are given without a value. A blank counts as no value wherever options are looked at, but
the settings supply a region only where the option was not given at all. So a blank can be left out
without a difference unless it keeps the region of the settings away. -/
namespace Haulage.AccessOptions

/-- What is kept of an option: all of it, or nothing of one that is blank. -/
def KeptOf (given kept : Option String) : Prop :=
  kept = given ∨ given = some "" ∧ kept = none

/-- The options with some of the blank ones left out, or with none. -/
structure LeavesOut (options fewer : AccessOptions) : Prop where
  useRole : fewer.useRole = options.useRole
  roleName : KeptOf options.roleName fewer.roleName
  accessKeyId : KeptOf options.accessKeyId fewer.accessKeyId
  secretAccessKey : KeptOf options.secretAccessKey fewer.secretAccessKey
  endpointUrl : KeptOf options.endpointUrl fewer.endpointUrl
  region : KeptOf options.region fewer.region

/-- The same values are present on both sides, the region apart. -/
structure AgreesWith (options other : AccessOptions) : Prop where
  useRole : other.useRole = options.useRole
  roleName : present other.roleName = present options.roleName
  accessKeyId : present other.accessKeyId = present options.accessKeyId
  secretAccessKey : present other.secretAccessKey = present options.secretAccessKey
  endpointUrl : present other.endpointUrl = present options.endpointUrl

variable {options other fewer : AccessOptions}

namespace AgreesWith

theorem validate_eq (agrees : AgreesWith options other) (destination : String) :
    other.validate destination = options.validate destination := by
  unfold validate
  rw [agrees.useRole, agrees.roleName, agrees.accessKeyId, agrees.secretAccessKey,
    agrees.endpointUrl]

theorem method_eq (agrees : AgreesWith options other) : other.method = options.method := by
  unfold method
  rw [agrees.useRole, agrees.roleName, agrees.accessKeyId, agrees.secretAccessKey]

end AgreesWith

theorem KeptOf.present_eq {given kept : Option String} (keeps : KeptOf given kept) :
    present kept = present given := by
  rcases keeps with rfl | ⟨rfl, rfl⟩
  · rfl
  · rfl

theorem LeavesOut.agreesWith (leaves : LeavesOut options fewer) (defaults : Defaults) :
    AgreesWith (options.withDefaults defaults) (fewer.withDefaults defaults) where
  useRole := leaves.useRole
  roleName := leaves.roleName.present_eq
  accessKeyId := leaves.accessKeyId.present_eq
  secretAccessKey := leaves.secretAccessKey.present_eq
  endpointUrl := leaves.endpointUrl.present_eq

theorem endpoint_region_of_blank (blank : options.region = some "") (defaults : Defaults) :
    (options.withDefaults defaults).endpoint.region = none := by
  rw [endpoint, withDefaults, blank]
  rfl

theorem endpoint_region_of_absent (absent : options.region = none) (defaults : Defaults) :
    (options.withDefaults defaults).endpoint.region = present defaults.region := by
  rw [endpoint, withDefaults, absent]
  rfl

theorem LeavesOut.endpoint_eq (leaves : LeavesOut options fewer)
    (kept : fewer.region = options.region) (defaults : Defaults) :
    (fewer.withDefaults defaults).endpoint = (options.withDefaults defaults).endpoint := by
  rw [endpoint, endpoint, (leaves.agreesWith defaults).endpointUrl, withDefaults, withDefaults, kept]

/-- Leaving blanks out changes neither what is wrong with the options nor the way of access nor the
address of the endpoint. It changes the region exactly if that was a blank left out and the settings have
one: with the blank there is no region, without it there is the one of the settings. -/
theorem withDefaults_of_leavesOut (leaves : LeavesOut options fewer) (defaults : Defaults) :
    let before := options.withDefaults defaults
    let after := fewer.withDefaults defaults
    (∀ destination, after.validate destination = before.validate destination) ∧
      after.method = before.method ∧ after.endpoint.url = before.endpoint.url ∧
      (after.endpoint = before.endpoint ↔
        fewer.region = options.region ∨ present defaults.region = none) ∧
      (fewer.region ≠ options.region → before.endpoint.region = none ∧
        after.endpoint.region = present defaults.region) := by
  have agrees := leaves.agreesWith defaults
  have address : (fewer.withDefaults defaults).endpoint.url =
      (options.withDefaults defaults).endpoint.url := agrees.endpointUrl
  refine ⟨agrees.validate_eq, agrees.method_eq, address, ?_⟩
  rcases leaves.region with kept | ⟨blank, out⟩
  · have same := leaves.endpoint_eq kept defaults
    exact ⟨iff_of_true same (.inl kept), fun changed => absurd kept changed⟩
  · have before := endpoint_region_of_blank blank defaults
    have after := endpoint_region_of_absent out defaults
    refine ⟨?_, fun _ => ⟨before, after⟩⟩
    constructor
    · intro same
      exact .inr (after.symm.trans ((congrArg Endpoint.region same).trans before))
    · rintro (kept | absent)
      · cases (out.symm.trans kept).trans blank
      · rw [absent, ← before] at after
        exact (Endpoint.mk.injEq ..).mpr ⟨address, after⟩

/-- A pair of keys with a blank for a region. -/
def unplaced : AccessOptions where
  useRole := false
  roleName := none
  accessKeyId := some "key"
  secretAccessKey := some "secret"
  endpointUrl := some ""
  region := some ""

/-- A blank for a region is not always as good as none. -/
theorem endpoint_of_blank_region : ¬ ∀ (options fewer : AccessOptions) (defaults : Defaults),
    LeavesOut options fewer →
    (fewer.withDefaults defaults).endpoint = (options.withDefaults defaults).endpoint := by
  intro same
  have leaves : LeavesOut unplaced { unplaced with region := none } :=
    ⟨rfl, .inl rfl, .inl rfl, .inl rfl, .inl rfl, .inr ⟨rfl, rfl⟩⟩
  have told := same _ _ { Defaults.standard with region := some "eu-west-1" } leaves
  exact absurd told (by decide)

theorem unplaced_placed :
    let defaults := { Defaults.standard with region := some "eu-west-1" }
    LeavesOut unplaced { unplaced with endpointUrl := none, region := none } ∧
    (unplaced.withDefaults defaults).endpoint.region = none ∧
    ({ unplaced with endpointUrl := none, region := none }.withDefaults defaults).endpoint.region =
      some "eu-west-1" ∧
    ({ unplaced with endpointUrl := none }.withDefaults defaults).endpoint =
      (unplaced.withDefaults defaults).endpoint := by
  intro defaults
  have both : LeavesOut unplaced { unplaced with endpointUrl := none, region := none } :=
    ⟨rfl, .inl rfl, .inl rfl, .inl rfl, .inr ⟨rfl, rfl⟩, .inr ⟨rfl, rfl⟩⟩
  have one : LeavesOut unplaced { unplaced with endpointUrl := none } :=
    ⟨rfl, .inl rfl, .inl rfl, .inl rfl, .inr ⟨rfl, rfl⟩, .inl rfl⟩
  obtain ⟨-, -, -, -, changed⟩ := withDefaults_of_leavesOut both defaults
  obtain ⟨-, -, -, same, -⟩ := withDefaults_of_leavesOut one defaults
  obtain ⟨before, after⟩ := changed (by decide)
  exact ⟨both, before, after, same.mpr (.inl rfl)⟩

end Haulage.AccessOptions
