import Haulage.Access.Shown
import Haulage.Proofs.Access.Rules
import Haulage.Proofs.Command.Endpoint

/-! What becomes of the secret key. The options are checked for whether there is one, a client carries it,
and requests bear no more than the key that goes with it. So runs that differ in their secrets alone
cannot be told apart, if neither secret is empty. -/
namespace Haulage

variable {secret other : String}

/-! ## Options -/

/-- The options with a secret in place of theirs. -/
def AccessOptions.withSecret (options : AccessOptions) (secret : String) : AccessOptions :=
  { options with secretAccessKey := some secret }

/-- The method with a secret in place of its own, if it has one. -/
def AccessMethod.withSecret (method : AccessMethod) (secret : String) : AccessMethod :=
  match method with
  | .role name => .role name
  | .keys accessKeyId _ => .keys accessKeyId secret
  | .missing => .missing

theorem AccessMethod.shown_withSecret (method : AccessMethod) (secret : String) :
    (method.withSecret secret).shown = method.shown := by
  cases method <;> rfl

namespace AccessOptions

variable {destination : String}

private theorem present_withSecret {options : AccessOptions} (given : secret ≠ "") :
    present (options.withSecret secret).secretAccessKey = some secret :=
  present_eq_some_iff.mpr ⟨rfl, given⟩

theorem validate_withSecret (options : AccessOptions) (given : secret ≠ "") (otherGiven : other ≠ "") :
    (options.withSecret secret).validate destination =
      (options.withSecret other).validate destination := by
  unfold validate
  rw [present_withSecret given, present_withSecret otherGiven]
  rfl

theorem method_withSecret (options : AccessOptions) (given : secret ≠ "") (otherGiven : other ≠ "") :
    (options.withSecret secret).method = (options.withSecret other).method.withSecret secret := by
  unfold method
  rw [present_withSecret given, present_withSecret otherGiven]
  obtain ⟨useRole, roleName, accessKeyId, own, url, region⟩ := options
  cases useRole with
  | true => rfl
  | false =>
    dsimp only [withSecret]
    cases present accessKeyId <;> rfl

end AccessOptions

/-! ## Connections -/

namespace S3

def Client.withSecret (client : Client) (secret : String) : Client :=
  { client with credentials := client.credentials.map (·.withSecret secret) }

variable {σ : Type} {service : Service σ} {environment : Environment} {method : AccessMethod}
  {endpoint : Endpoint}

/-- What is sent and what comes back depend on the key and the token alone. -/
theorem exchange_withSecret (base : Base) (region : Option String)
    (credentials : Option Credentials) (request : Request) (state : σ) :
    exchange service base region (credentials.map (·.withSecret secret)) request state =
      exchange service base region credentials request state := by
  cases credentials with
  | none => rfl
  | some keys =>
    rw [Option.map_some, exchange, exchange, service.secret_unseen]

theorem Client.ask_withSecret (client : Client) (request : Request) (state : σ) :
    (client.withSecret secret).ask service request state = client.ask service request state :=
  exchange_withSecret _ _ _ _ _

theorem Client.store_withSecret (client : Client) :
    (client.withSecret secret).store service = client.store service := by
  unfold store
  simp only [ask_withSecret]

theorem connector_withSecret : connector service environment (method.withSecret secret) endpoint =
    connector service environment method endpoint := by
  cases method with
  | role | missing => rfl
  | keys accessKeyId own =>
    let client : Client :=
      (service.configure environment endpoint (some ⟨accessKeyId, own, none⟩)).client endpoint
    have replaced :
        (service.configure environment endpoint (some ⟨accessKeyId, secret, none⟩)).client endpoint =
          client.withSecret secret := by
      rw [Library.client_configure, show client = _ from service.client_configure _ _ _]
      rfl
    exact congrArg (fun store => Connector.mk fun state => (.ok store, state))
      ((congrArg (Client.store service) replaced).trans (Client.store_withSecret client))

end S3

/-! ## Runs -/

def Invocation.withSecret (invocation : Invocation) (secret : String) : Invocation :=
  { invocation with access := invocation.access.withSecret secret }

namespace Command

variable {σ : Type} {context : Context σ} {invocation another : Invocation} {world : World σ}

/-- All that a run makes of its options for access is to check them and to connect with them; nothing
else of the invocations is different. -/
structure Interchangeable (context : Context σ) (invocation another : Invocation) : Prop where
  report : invocation.report = another.report
  places : invocation.places = another.places
  checked : ∀ defaults destination,
    (invocation.access.withDefaults defaults).validate destination =
      (another.access.withDefaults defaults).validate destination
  connected : ∀ defaults, context.connector (invocation.access.withDefaults defaults) =
    context.connector (another.access.withDefaults defaults)

namespace Interchangeable

theorem symm (alike : Interchangeable context invocation another) :
    Interchangeable context another invocation :=
  ⟨alike.report.symm, alike.places.symm, fun defaults destination =>
    (alike.checked defaults destination).symm, fun defaults => (alike.connected defaults).symm⟩

theorem run_eq (alike : Interchangeable context invocation another) (tool : Tool)
    (world : World σ) : run context tool invocation world = run context tool another world := by
  unfold run
  rw [alike.report, alike.places]
  split
  · rfl
  · rename_i settings loaded
    have connected := alike.connected settings.defaults
    unfold Context.connector at connected
    have styled : context.style invocation settings = context.style another settings := by
      rw [Context.style, alike.report, Context.style]
    dsimp only
    rw [alike.checked, styled]
    unfold cleanup transfer
    rw [connected]

theorem underway {final : σ} (alike : Interchangeable context invocation another)
    (underway : Underway context invocation world final) :
    Underway context another world final := by
  obtain ⟨loaded, valid, found, answered, counted, tour⟩ := underway
  rw [alike.checked, alike.places] at valid
  rw [alike.places] at found
  rw [alike.connected] at answered
  exact .visiting loaded valid found answered counted tour

end Interchangeable

theorem interchangeable_withSecret (context : Context σ) (invocation : Invocation)
    (given : secret ≠ "") (otherGiven : other ≠ "") :
    Interchangeable context (invocation.withSecret secret) (invocation.withSecret other) where
  report := rfl
  places := rfl
  checked defaults destination :=
    (invocation.access.withDefaults defaults).validate_withSecret given otherGiven
  connected defaults := by
    have selected :=
      (invocation.access.withDefaults defaults).method_withSecret given otherGiven
    exact (congrArg (S3.connector context.service context.environment · _) selected).trans
      S3.connector_withSecret

/-- Two runs with secrets of their own, neither of them empty, and the same of everything else end in
the same way, if they do: they write the same, leave the same files and have sent the same requests.
So does a cleanup that goes on and on, as far as it has come. What is shown of the options and of the
method they select is the same, too. -/
theorem run_keeps_secret (environment : Environment) (service : S3.Service σ) (pages : Nat)
    (tool : Tool) (invocation : Invocation) (files : FileTree) (state : σ)
    (given : secret ≠ "") (otherGiven : other ≠ "") :
    let context : Context (σ × List S3.Sent) := ⟨environment, service.recorded, pages⟩
    let world : World (σ × List S3.Sent) := ⟨files, state, []⟩
    let one := invocation.withSecret secret
    let another := invocation.withSecret other
    run context tool one world = run context tool another world ∧
      (∀ final, Underway context one world final ↔ Underway context another world final) ∧
      one.access.shown = another.access.shown ∧
      one.access.method.shown = another.access.method.shown := by
  intro context world one another
  have alike := interchangeable_withSecret context invocation given otherGiven
  refine ⟨alike.run_eq tool world, fun final => ⟨alike.underway, alike.symm.underway⟩, rfl, ?_⟩
  have selected := invocation.access.method_withSecret given otherGiven
  exact (congrArg AccessMethod.shown selected).trans (AccessMethod.shown_withSecret _ _)

/-- The same file is put with either secret, and a deletion behind the endpoint goes on alike. -/
theorem keyed_secret_kept : "secret" ≠ "" ∧ "other" ≠ "" ∧
    (∃ ending after,
      run ⟨ambient, endless.recorded, 3⟩ .transfer (keyed.withSecret "secret")
        ⟨Transfer.loneFile.files, (), []⟩ = some (ending, after) ∧
      run ⟨ambient, endless.recorded, 3⟩ .transfer (keyed.withSecret "other")
        ⟨Transfer.loneFile.files, (), []⟩ = some (ending, after) ∧
      after.service.2 = [⟨.endpoint "http://[::1]:9000", .put "b" "k" none [100],
        "ambient", "key", none⟩]) ∧
    (∃ final,
      Underway ⟨ambient, endless.recorded, 3⟩ (keyed.withSecret "secret")
        ⟨Transfer.loneFile.files, (), []⟩ final ∧
      Underway ⟨ambient, endless.recorded, 3⟩ (keyed.withSecret "other")
        ⟨Transfer.loneFile.files, (), []⟩ final) ∧
    (keyed.withSecret "secret").access.method ≠ (keyed.withSecret "other").access.method ∧
    (keyed.withSecret "secret").access.method.shown =
      (keyed.withSecret "other").access.method.shown := by
  have given : "secret" ≠ "" := by decide
  have otherGiven : "other" ≠ "" := by decide
  have spec (tool : Tool) := run_keeps_secret ambient endless 3 tool keyed
    Transfer.loneFile.files () given otherGiven
  refine ⟨given, otherGiven, ?_, ?_, by decide, (spec .transfer).2.2.2⟩
  · have sent : (run ⟨ambient, endless.recorded, 3⟩ .transfer (keyed.withSecret "secret")
        ⟨Transfer.loneFile.files, (), []⟩).map (·.2.service.2) =
          some [⟨.endpoint "http://[::1]:9000", .put "b" "k" none [100],
            "ambient", "key", none⟩] := by decide +kernel
    obtain ⟨⟨ending, after⟩, ended, log⟩ := Option.map_eq_some_iff.mp sent
    exact ⟨ending, after, ended, (spec .transfer).1.symm.trans ended, log⟩
  · have goesOn : run ⟨ambient, endless.recorded, 3⟩ .cleanup (keyed.withSecret "secret")
        ⟨Transfer.loneFile.files, (), []⟩ = none := Option.isNone_iff_eq_none.mp (by decide +kernel)
    obtain ⟨-, final, underway⟩ := run_eq_none_iff.mp goesOn
    exact ⟨final, underway, ((spec .cleanup).2.1 final).mp underway⟩

end Command

end Haulage
