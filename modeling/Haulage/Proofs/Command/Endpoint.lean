import Haulage.Proofs.Command.Run
import Haulage.Proofs.S3.Sending

/-! Who gets to see which keys. An endpoint of one's own is sent nothing but requests under the key
that was given together with it, whatever else the environment, the settings and the replies offer. -/
namespace Haulage

open AccessOptions (present)

/-- What the options of a run let it send. Of endpoints of one's own there is only the one that is
given, and it sees the given key and no session token; the token service is not asked when there is
one, and it is not asked for anything when there is a role. -/
structure AccessOptions.Allows (options : AccessOptions) (sent : S3.Sent) : Prop where
  endpoint : ∀ url, sent.base = .endpoint url → present options.endpointUrl = some url ∧
    present options.accessKeyId = some sent.accessKeyId ∧ sent.sessionToken = none
  tokens : present options.endpointUrl ≠ none →
    sent.base ≠ .tokens ∧ sent.request.forTokens = false
  role : options.useRole = true → ∀ url, sent.base ≠ .endpoint url

namespace S3

variable {options : AccessOptions} {destination : String} {sent : Sent}

/-- Valid options for a remote destination permit no more than they allow. -/
theorem Permits.allows (permits : Permits options.method options.endpoint sent)
    (remote : StoragePath.namesRemote destination)
    (valid : options.validate destination = .ok ()) : options.Allows sent := by
  rcases (AccessOptions.validate_eq_ok_iff remote).mp valid with
    ⟨role, -, -, absent⟩ | ⟨roleless, keyed, paired, -⟩
  · have method : options.method = .role (present options.roleName) := if_pos role
    have away (url : String) : sent.base ≠ .endpoint url := by
      rw [method] at permits
      cases permits with
      | tokens base => exact base ▸ nofun
      | assumed base =>
        rw [base, Ne, Endpoint.base_eq_endpoint_iff]
        exact fun given => nomatch absent.symm.trans given
    exact ⟨fun url base => absurd base (away url), absurd absent, fun _ => away⟩
  · obtain ⟨accessKeyId, key⟩ := Option.isSome_iff_exists.mp keyed
    obtain ⟨secretAccessKey, secret⟩ := Option.isSome_iff_exists.mp paired
    have method : options.method = .keys accessKeyId secretAccessKey := by
      rw [AccessOptions.method, if_neg (by simp [roleless]), key, secret]
    rw [method] at permits
    cases permits with
    | keyed base same tokenless storing =>
      refine ⟨fun url sentTo => ?_, fun _ => ⟨?_, storing⟩, fun role => ?_⟩
      · exact ⟨Endpoint.base_eq_endpoint_iff.mp (base.symm.trans sentTo), by rw [key, same], tokenless⟩
      · rw [base]
        exact options.endpoint.base_ne_tokens
      · cases role.symm.trans roleless

end S3

namespace Command

variable {σ : Type}

/-- Whatever the options, the settings, the environment and the replies are, every request of a run is
one that the options allow. A cleanup that goes on and on is no exception: whatever the number of
pages, so is every request up to then. -/
theorem run_sends_allowed (environment : Environment) (service : S3.Service σ) (pages : Nat)
    (tool : Tool) (invocation : Invocation) (files : FileTree) (state : σ) :
    let context : Context (σ × List S3.Sent) := ⟨environment, service.recorded, pages⟩
    let world : World (σ × List S3.Sent) := ⟨files, state, []⟩
    (∀ ending after, run context tool invocation world = some (ending, after) →
      ∀ sent ∈ after.service.2, invocation.access.Allows sent) ∧
    (run context tool invocation world = none →
      ∃ final, Underway context invocation world final ∧
        ∀ sent ∈ final.2, invocation.access.Allows sent) := by
  intro context world
  have keeps (defaults : Defaults)
      (remote : StoragePath.namesRemote (invocation.places.getLastD ""))
      (valid : (invocation.access.withDefaults defaults).validate (invocation.places.getLastD "") =
        .ok ()) :
      (context.connector (invocation.access.withDefaults defaults)).Keeps
        (S3.Logs invocation.access.Allows) := by
    refine S3.connector_keeps fun sent permits => S3.logs_recorded service ?_
    -- the settings supply a region and nothing that is asked about here
    have allows := permits.allows remote valid
    exact ⟨allows.endpoint, allows.tokens, allows.role⟩
  constructor
  · intro ending after ended
    obtain ⟨later, grown, allowed⟩ := run_keeps keeps ended
    rw [grown]
    exact allowed
  · intro endless
    obtain ⟨-, final, underway⟩ := run_eq_none_iff.mp endless
    obtain ⟨later, grown, allowed⟩ := underway.keeps keeps
    refine ⟨final, underway, ?_⟩
    rw [grown]
    exact allowed

/-- Every variable is set, so there are ambient keys, a token and a region. -/
def ambient : Environment := ⟨fun _ => some "ambient", none, false⟩

/-- A service that takes every file and has always one more page. -/
def endless : S3.Service Unit where
  toLibrary := .ofVariables fun _ => ""
  exchange sent state :=
    match sent.request with
    | .put _ _ _ _ => (.stored none, state)
    | _ => (.listed [] (some true) (some "more"), state)
  clock _ := 0

/-- A place behind an endpoint of one's own, with keys for it. -/
def keyed : Invocation where
  access :=
    { useRole := false
      roleName := none
      accessKeyId := some "key"
      secretAccessKey := some "secret"
      endpointUrl := some "http://[::1]:9000"
      region := none }
  report := { json := false, noColor := false, quiet := false, debug := false }
  places := ["f", "s3://b/k"]

/-- The file is put with the key that is given, and a deletion there does not come to an end. -/
theorem keyed_run_allowed :
    (∃ ending after, run ⟨ambient, endless.recorded, 3⟩ .transfer keyed
        ⟨Transfer.loneFile.files, (), []⟩ = some (ending, after) ∧
      after.service.2 = [⟨.endpoint "http://[::1]:9000", .put "b" "k" none [100],
        "ambient", "key", none⟩] ∧ ∀ sent ∈ after.service.2, keyed.access.Allows sent) ∧
    ∃ final, Underway ⟨ambient, endless.recorded, 3⟩ keyed ⟨Transfer.loneFile.files, (), []⟩ final ∧
      ∀ sent ∈ final.2, keyed.access.Allows sent := by
  constructor
  · have sent : (run ⟨ambient, endless.recorded, 3⟩ .transfer keyed
        ⟨Transfer.loneFile.files, (), []⟩).map (·.2.service.2) =
          some [⟨.endpoint "http://[::1]:9000", .put "b" "k" none [100],
            "ambient", "key", none⟩] := by decide +kernel
    obtain ⟨⟨ending, after⟩, ended, log⟩ := Option.map_eq_some_iff.mp sent
    have allowed := (run_sends_allowed ambient endless 3 .transfer keyed _ _).1 ending after ended
    exact ⟨ending, after, ended, log, allowed⟩
  · have goesOn : run ⟨ambient, endless.recorded, 3⟩ .cleanup keyed
        ⟨Transfer.loneFile.files, (), []⟩ = none := Option.isNone_iff_eq_none.mp (by decide +kernel)
    exact (run_sends_allowed ambient endless 3 .cleanup keyed _ _).2 goesOn

end Command

end Haulage
