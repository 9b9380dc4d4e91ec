import Haulage.Fault
import Haulage.Url.Syntax

/-! How a remote destination may be reached: by an assumed role, or by a pair of static keys, which
alone goes with an endpoint of one's own. An empty value counts as none. -/
namespace Haulage

/-- Access options as given. -/
structure AccessOptions where
  useRole : Bool
  roleName : Option String
  accessKeyId : Option String
  secretAccessKey : Option String
  endpointUrl : Option String
  region : Option String
  deriving DecidableEq

/-- The way in which requests are authorised. -/
inductive AccessMethod where
  | role (name : Option String)
  | keys (accessKeyId secretAccessKey : String)
  | missing
  deriving DecidableEq

/-- Where requests go and the region they are signed for. -/
structure Endpoint where
  url : Option String
  region : Option String
  deriving DecidableEq

/-- The region that decides where requests go; an endpoint of one's own leaves none. -/
def Endpoint.routingRegion (endpoint : Endpoint) : Option String :=
  if endpoint.url.isSome then none else endpoint.region

namespace AccessOptions

/-- A value that is given and not empty. -/
def present (value : Option String) : Option String :=
  value.filter (· != "")

private def require (holds : Bool) (cause : UsageFault) : Except Fault Unit :=
  if holds then .ok () else .error (.usage cause)

private def checkUrl (url : Option String) : Except Fault Unit :=
  match url with
  | none => .ok ()
  | some text => (Url.check text).mapError .url

/-- Checks the options against the destination they are given for; the first rule that is broken
is reported. Nothing is asked of options for a destination on disk. -/
def validate (options : AccessOptions) (destination : String) : Except Fault Unit := do
  if StoragePath.namesRemote destination then
    let key := (present options.accessKeyId).isSome
    let secret := (present options.secretAccessKey).isSome
    let endpoint := present options.endpointUrl
    require (!(options.useRole && (key || secret || endpoint.isSome))) .roleWithOtherAccess
    require (key == secret) .halfKeyPair
    require (options.useRole || key) .noMethod
    require (!(options.useRole && (present options.roleName).isSome && (key || secret)))
      .roleNameWithKeyPair
    checkUrl endpoint

def method (options : AccessOptions) : AccessMethod :=
  if options.useRole then .role (present options.roleName)
  else
    match present options.accessKeyId, present options.secretAccessKey with
    | some key, some secret => .keys key secret
    | _, _ => .missing

def endpoint (options : AccessOptions) : Endpoint :=
  { url := present options.endpointUrl, region := present options.region }

private theorem require_bind_eq_ok_iff {holds : Bool} {cause : UsageFault}
    {next : Unit → Except Fault Unit} :
    (require holds cause >>= next) = .ok () ↔ holds = true ∧ next () = .ok () := by
  cases holds with
  | false => exact iff_of_false nofun nofun
  | true => exact ⟨fun passed => ⟨rfl, passed⟩, And.right⟩

private theorem require_bind_eq_error_iff {holds : Bool} {cause : UsageFault}
    {next : Unit → Except Fault Unit} {fault : Fault} :
    (require holds cause >>= next) = .error fault ↔
      holds = false ∧ fault = .usage cause ∨ holds = true ∧ next () = .error fault := by
  cases holds with
  | false =>
    refine ⟨fun failed => .inl ⟨rfl, (Except.error.inj failed).symm⟩, ?_⟩
    rintro (⟨-, rfl⟩ | ⟨impossible, -⟩)
    · rfl
    · cases impossible
  | true => exact ⟨fun failed => .inr ⟨rfl, failed⟩, fun either => (either.resolve_left nofun).2⟩

private theorem checkUrl_eq_error_iff {url : Option String} {fault : Fault} :
    checkUrl url = .error fault ↔
      ∃ text error, url = some text ∧ Url.check text = .error error ∧ fault = .url error := by
  cases url with
  | none => exact iff_of_false nofun nofun
  | some text =>
    simp only [checkUrl, Option.some.injEq, exists_and_left, exists_eq_left']
    cases Url.check text with
    | error found =>
      constructor
      · intro failed
        exact ⟨found, rfl, (Except.error.inj failed).symm⟩
      · rintro ⟨_, same, rfl⟩
        cases same
        rfl
    | ok done => exact iff_of_false nofun nofun

private theorem checkUrl_eq_ok_iff {url : Option String} :
    checkUrl url = .ok () ↔ ∀ text, url = some text → Url.check text = .ok () := by
  cases url with
  | none => exact iff_of_true rfl nofun
  | some text =>
    simp only [checkUrl, Option.some.injEq, forall_eq']
    cases Url.check text with
    | error fault => exact iff_of_false nofun nofun
    | ok done => exact iff_of_true rfl rfl

/-- Options for a remote destination name a role and nothing else, or a pair of keys and perhaps an
endpoint that is an address. -/
theorem validate_eq_ok_iff {options : AccessOptions} {destination : String}
    (remote : StoragePath.namesRemote destination) : options.validate destination = .ok () ↔
      options.useRole = true ∧ present options.accessKeyId = none ∧
          present options.secretAccessKey = none ∧ present options.endpointUrl = none ∨
        options.useRole = false ∧ (present options.accessKeyId).isSome ∧
          (present options.secretAccessKey).isSome ∧
          ∀ url, present options.endpointUrl = some url → Url.check url = .ok () := by
  rw [validate, if_pos remote]
  simp only [require_bind_eq_ok_iff, checkUrl_eq_ok_iff]
  generalize present options.endpointUrl = endpoint
  cases options.useRole with
  | false =>
    cases present options.accessKeyId <;> cases present options.secretAccessKey <;> simp
  | true =>
    cases present options.accessKeyId <;> cases present options.secretAccessKey <;>
      cases endpoint <;> simp

/-- What is reported, check by check. No options come as far as the check of a role's name and fail
there. -/
theorem validate_eq_error_iff {options : AccessOptions} {destination : String} {fault : Fault}
    (remote : StoragePath.namesRemote destination) : options.validate destination = .error fault ↔
      options.useRole = true ∧ ((present options.accessKeyId).isSome ∨
          (present options.secretAccessKey).isSome ∨ (present options.endpointUrl).isSome) ∧
        fault = .usage .roleWithOtherAccess ∨
      ¬ (options.useRole = true ∧ ((present options.accessKeyId).isSome ∨
          (present options.secretAccessKey).isSome ∨ (present options.endpointUrl).isSome)) ∧
        ((present options.accessKeyId).isSome ≠ (present options.secretAccessKey).isSome ∧
          fault = .usage .halfKeyPair ∨
        (present options.accessKeyId).isSome = (present options.secretAccessKey).isSome ∧
          (options.useRole = false ∧ present options.accessKeyId = none ∧ fault = .usage .noMethod ∨
          (options.useRole = true ∨ (present options.accessKeyId).isSome) ∧
            ∃ text error, present options.endpointUrl = some text ∧
              Url.check text = .error error ∧ fault = .url error)) := by
  rw [validate, if_pos remote]
  simp only [require_bind_eq_error_iff, checkUrl_eq_error_iff]
  generalize present options.endpointUrl = endpoint
  cases options.useRole with
  | false =>
    cases present options.accessKeyId <;> cases present options.secretAccessKey <;> simp
  | true =>
    cases present options.accessKeyId <;> cases present options.secretAccessKey <;>
      cases endpoint <;> simp

end AccessOptions

end Haulage
