import Haulage.Access.Options
import Haulage.Environment
import Haulage.S3.Client
import Haulage.S3.Role

/-! From an access method to a client. Keys that are given are used as they are; a role without a
name takes what the environment holds; a named role is assumed in the account of the caller, through
the token service and never through an endpoint of one's own. -/
namespace Haulage.S3

/-- The region of requests to an endpoint of one's own when nothing else names one. -/
def fallbackRegion : String := "us-east-1"

def regionSource (endpoint : Endpoint) : RegionSource :=
  match endpoint.region, endpoint.url with
  | some region, _ => .named region
  | none, some _ => .ambientOr fallbackRegion
  | none, none => .ambient

/-- The storage client of a configuration; an endpoint of one's own takes the place of the usual
one. -/
def Configuration.client (configuration : Configuration) (endpoint : Endpoint) : Client where
  endpoint := endpoint.url
  region := configuration.region
  credentials := configuration.credentials

namespace Library

/-- Loads a configuration for an endpoint. -/
def configure (library : Library) (environment : Environment) (endpoint : Endpoint)
    (given : Option Credentials) : Configuration :=
  library.load environment (regionSource endpoint) given

/-- The region that all requests of a run are signed for. -/
def signingRegion (library : Library) (environment : Environment) (endpoint : Endpoint) :
    Option String :=
  (endpoint.region.or (library.region? environment)).or
    (if endpoint.url.isSome then some fallbackRegion else none)

variable (library : Library) (environment : Environment) (endpoint : Endpoint)
  (given : Option Credentials)

/-- However often a configuration is loaded, and for whatever keys, it names the same region. -/
theorem region_configure : (library.configure environment endpoint given).region =
    library.signingRegion environment endpoint := by
  rw [configure, library.load_region, signingRegion, regionSource]
  cases endpoint.region with
  | some region => rfl
  | none =>
    cases endpoint.url with
    | some url => rfl
    | none => simp [RegionSource.region]

/-- The variables are outdone by a configured region alone. -/
theorem signingRegion_of_variable {found : String}
    (named : variableRegion? environment = some found) :
    library.signingRegion environment endpoint = some (endpoint.region.getD found) := by
  rw [signingRegion, library.variables_first _ _ named]
  cases endpoint.region <;> rfl

theorem client_configure : (library.configure environment endpoint given).client endpoint =
    { endpoint := endpoint.url
      region := library.signingRegion environment endpoint
      credentials := given.or (library.credentials? environment) } := by
  rw [Configuration.client, region_configure, configure, library.load_credentials]

end Library

variable {σ : Type}

/-- The account of the caller. -/
def callerAccount (service : Service σ) (region : Option String)
    (ambient : Option Credentials) : Answer σ String := fun state =>
  match exchange service .tokens region ambient .callerIdentity state with
  | (.ok (.identified (some account)), state) => (.ok account, state)
  | (.ok (.identified none), state) => (.error (.resolution .noAccount), state)
  | (.ok _, state) =>
    (.error (.resolution (.identityLookup (service.words .unreadableReply))), state)
  | (.error reason, state) => (.error (.resolution (.identityLookup reason)), state)

/-- The keys issued for a role of an account. -/
def issuedCredentials (service : Service σ) (region : Option String)
    (ambient : Option Credentials) (arn : String) : Answer σ Credentials := fun state =>
  match exchange service .tokens region ambient (.assumeRole arn sessionName) state with
  | (.ok (.assumed (some credentials)), state) => (.ok credentials, state)
  | (.ok (.assumed none), state) => (.error (.resolution (.noCredentials arn)), state)
  | (.ok _, state) =>
    (.error (.resolution (.assumption arn (service.words .unreadableReply))), state)
  | (.error reason, state) => (.error (.resolution (.assumption arn reason)), state)

/-- Asks who calls, then for the role in that account. -/
def assumeRole (service : Service σ) (region : Option String) (ambient : Option Credentials)
    (role : String) : Answer σ Credentials := fun state =>
  match callerAccount service region ambient state with
  | (.error fault, state) => (.error fault, state)
  | (.ok account, state) => issuedCredentials service region ambient (roleArn account role) state

/-- The client for an access method. -/
def resolve (service : Service σ) (environment : Environment) (method : AccessMethod)
    (endpoint : Endpoint) : Answer σ Client := fun state =>
  match method with
  | .missing => (.error (.configuration .noMethod), state)
  | .keys accessKeyId secretAccessKey =>
    let given : Credentials := {
      accessKeyId := accessKeyId
      secretAccessKey := secretAccessKey
      sessionToken := none }
    (.ok ((service.configure environment endpoint (some given)).client endpoint), state)
  | .role none => (.ok ((service.configure environment endpoint none).client endpoint), state)
  | .role (some role) =>
    let ambient := service.configure environment endpoint none
    let (result, state) := assumeRole service ambient.region ambient.credentials role state
    (result.map fun issued =>
      (service.configure environment endpoint (some issued)).client endpoint, state)

/-- A named role is assumed under the ambient keys, and its client has the keys that are issued. -/
theorem assumed_of_resolve {service : Service σ} {environment : Environment} {endpoint : Endpoint}
    {role : String} {state next : σ} {result : Except Fault Client}
    (answered : resolve service environment (.role (some role)) endpoint state = (result, next)) :
    ∃ issued, assumeRole service (service.signingRegion environment endpoint)
        (service.credentials? environment) role state = (issued, next) ∧
      result = issued.map fun keys =>
        (service.configure environment endpoint (some keys)).client endpoint := by
  have keys : (service.configure environment endpoint none).credentials =
      service.credentials? environment := by
    rw [Library.configure, service.load_credentials, Option.none_or]
  rw [← service.region_configure environment endpoint none, ← keys]
  cases answered
  exact ⟨_, rfl, rfl⟩

/-- Resolves anew for each connection. -/
def connector (service : Service σ) (environment : Environment) (method : AccessMethod)
    (endpoint : Endpoint) : Connector σ where
  connect := fun state =>
    let (result, state) := resolve service environment method endpoint state
    (result.map (Client.store service), state)

end Haulage.S3
