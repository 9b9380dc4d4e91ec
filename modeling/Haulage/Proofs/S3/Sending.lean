import Haulage.Proofs.Storage.Keeping
import Haulage.S3.Resolver

/-! What a client sends, where to, and under which keys. A relation that each request of the permitted
kind keeps is kept by everything that is done over a connection. -/
namespace Haulage

/-- Where requests to a store go. -/
def Endpoint.base (endpoint : Endpoint) : S3.Base :=
  match endpoint.url with
  | some url => .endpoint url
  | none => .storage

theorem Endpoint.base_eq_endpoint_iff {endpoint : Endpoint} {url : String} :
    endpoint.base = .endpoint url ↔ endpoint.url = some url := by
  unfold base
  split
  · rename_i other given
    rw [given, S3.Base.endpoint.injEq, Option.some.injEq]
  · rename_i absent
    rw [absent]
    exact iff_of_false nofun nofun

theorem Endpoint.base_ne_tokens (endpoint : Endpoint) : endpoint.base ≠ .tokens := by
  unfold base
  split <;> exact nofun

namespace S3

/-- Requests that the token service answers. -/
def Request.forTokens : Request → Bool
  | .callerIdentity => true
  | .assumeRole _ _ => true
  | _ => false

/-- The request goes to a base and is signed with a pair of keys. -/
structure Sent.Bears (sent : Sent) (base : Base) (credentials : Option Credentials) : Prop where
  base : sent.base = base
  keys : ∃ keys, credentials = some keys ∧ sent.accessKeyId = keys.accessKeyId ∧
    sent.sessionToken = keys.sessionToken

/-- The request is one for the token service, and signed for a region. -/
structure Sent.Asks (sent : Sent) (region : Option String) : Prop where
  base : sent.base = .tokens
  tokens : sent.request.forTokens = true
  region : region = some sent.region

/-- What a client may send. -/
structure Client.Sends (client : Client) (sent : Sent) : Prop
    extends sent.Bears client.base client.credentials where
  storing : sent.request.forTokens = false

/-- What may be sent for an access method. Keys that are given go to the endpoint and nowhere else; for
a role the token service is asked too. -/
inductive Permits : AccessMethod → Endpoint → Sent → Prop where
  | keyed (base : sent.base = endpoint.base) (key : sent.accessKeyId = accessKeyId)
      (tokenless : sent.sessionToken = none) (storing : sent.request.forTokens = false) :
      Permits (.keys accessKeyId secretAccessKey) endpoint sent
  | tokens (base : sent.base = .tokens) : Permits (.role role) endpoint sent
  | assumed (base : sent.base = endpoint.base) : Permits (.role role) endpoint sent

variable {σ : Type} {service : Service σ} {environment : Environment} {method : AccessMethod}
  {endpoint : Endpoint} {client : Client} {sent : Sent} {request : Request} {base : Base}
  {region : Option String} {credentials : Option Credentials} {state next : σ}
  {result : Except String Reply}

/-! ## One request -/

variable {relation : σ → σ → Prop} [Std.Refl relation]

theorem Request.signed?_bears (signed : request.signed? base region credentials = some sent) :
    sent.request = request ∧ sent.Bears base credentials ∧ region = some sent.region := by
  obtain ⟨-, signing, keys, rfl, rfl, rfl⟩ := Request.signed?_eq_some_iff.mp signed
  exact ⟨rfl, ⟨rfl, keys, rfl, rfl, rfl⟩, rfl⟩

theorem exchange_keeps
    (answered : exchange service base region credentials request state = (result, next))
    (keeps : ∀ sent, sent.request = request → sent.Bears base credentials →
      region = some sent.region → ∀ state, relation state (service.exchange sent state).2) :
    relation state next := by
  unfold exchange at answered
  split at answered
  · cases answered
    exact Std.Refl.refl _
  · rename_i sent built
    obtain ⟨same, bears, signed⟩ := Request.signed?_bears (service.build_eq_ok_iff.mp built)
    have kept := keeps sent same bears signed state
    split at answered
    · rename_i replied
      cases answered
      rwa [replied] at kept
    · rename_i replied
      cases answered
      rwa [replied] at kept

namespace Client

theorem ask_keeps (answered : client.ask service request state = (result, next))
    (storing : request.forTokens = false)
    (keeps : ∀ sent, client.Sends sent → client.region = some sent.region →
      ∀ state, relation state (service.exchange sent state).2) :
    relation state next := by
  refine exchange_keeps answered fun sent asked bears signed => keeps sent ⟨bears, ?_⟩ signed
  rw [asked]
  exact storing

theorem store_keeps
    (keeps : ∀ sent, client.Sends sent → client.region = some sent.region →
      ∀ state, relation state (service.exchange sent state).2) :
    (client.store service).Keeps relation where
  list path options state := by
    unfold store
    dsimp only
    split <;> exact ask_keeps ‹_› rfl keeps
  delete bucket keys state := by
    unfold store
    dsimp only
    split
    · exact Std.Refl.refl _
    · split
      · split <;> exact ask_keeps ‹_› rfl keeps
      · exact ask_keeps ‹_› rfl keeps
      · exact ask_keeps ‹_› rfl keeps
  put path source files state := by
    unfold store
    dsimp only
    split
    · exact Std.Refl.refl _
    · split <;> exact ask_keeps ‹_› rfl keeps
    · exact Std.Refl.refl _

end Client

/-! ## From an access method on -/

theorem resolve_client
    (answered : resolve service environment method endpoint state = (.ok client, next)) :
    ∃ given, client = (service.configure environment endpoint given).client endpoint ∧
      ((∃ role, method = .role role) ∨ ∃ accessKeyId secretAccessKey,
        method = .keys accessKeyId secretAccessKey ∧
          given = some ⟨accessKeyId, secretAccessKey, none⟩) := by
  match method with
  | .missing => cases answered
  | .keys accessKeyId secretAccessKey =>
    cases answered
    exact ⟨_, rfl, .inr ⟨accessKeyId, secretAccessKey, rfl, rfl⟩⟩
  | .role none =>
    cases answered
    exact ⟨_, rfl, .inl ⟨none, rfl⟩⟩
  | .role (some role) =>
    obtain ⟨issued, -, made⟩ := assumed_of_resolve answered
    cases issued with
    | error fault => cases made
    | ok keys =>
      cases made
      exact ⟨_, rfl, .inl ⟨some role, rfl⟩⟩

/-- A client sends nothing that its access method does not permit. -/
theorem permits_of_sends
    (answered : resolve service environment method endpoint state = (.ok client, next))
    (sends : client.Sends sent) : Permits method endpoint sent := by
  obtain ⟨given, rfl, assumed⟩ := resolve_client answered
  have base : sent.base = endpoint.base := sends.base
  rcases assumed with ⟨role, rfl⟩ | ⟨accessKeyId, secretAccessKey, rfl, rfl⟩
  · exact .assumed base
  · rw [service.client_configure] at sends
    obtain ⟨keys, held, key, token⟩ := sends.keys
    cases held
    exact .keyed base key token sends.storing

section Tokens

variable {ambient : Option Credentials}
  (keeps : ∀ sent, sent.Asks region → ∀ state, relation state (service.exchange sent state).2)

include keeps

theorem callerAccount_keeps : (callerAccount service region ambient).Keeps relation := by
  intro state
  unfold callerAccount
  split <;> exact exchange_keeps ‹_› fun sent asked bears signed =>
    keeps sent ⟨bears.base, asked ▸ rfl, signed⟩

theorem issuedCredentials_keeps (arn : String) :
    (issuedCredentials service region ambient arn).Keeps relation := by
  intro state
  unfold issuedCredentials
  split <;> exact exchange_keeps ‹_› fun sent asked bears signed =>
    keeps sent ⟨bears.base, asked ▸ rfl, signed⟩

theorem assumeRole_keeps [IsTrans σ relation] (role : String) :
    (assumeRole service region ambient role).Keeps relation := by
  intro state
  unfold assumeRole
  split
  · exact (callerAccount_keeps keeps).of_eq ‹_›
  · exact IsTrans.trans _ _ _ ((callerAccount_keeps keeps).of_eq ‹_›)
      (issuedCredentials_keeps keeps _ _)

end Tokens

variable [IsTrans σ relation]

theorem resolve_keeps
    (keeps : ∀ sent role, method = .role role → sent.Asks (service.signingRegion environment endpoint) →
      ∀ state, relation state (service.exchange sent state).2) :
    (resolve service environment method endpoint).Keeps relation := by
  intro state
  match method with
  | .missing => exact Std.Refl.refl _
  | .keys _ _ => exact Std.Refl.refl _
  | .role none => exact Std.Refl.refl _
  | .role (some role) =>
    rw [← service.region_configure environment endpoint none] at keeps
    exact assumeRole_keeps (fun sent asks => keeps sent _ rfl asks) role state

theorem exists_client {store : Store σ}
    (answered : (connector service environment method endpoint).connect state = (.ok store, next)) :
    ∃ client, resolve service environment method endpoint state = (.ok client, next) ∧
      store = client.store service := by
  unfold connector at answered
  dsimp only at answered
  match resolved : resolve service environment method endpoint state with
  | (.error fault, after) =>
    rw [resolved] at answered
    cases answered
  | (.ok client, after) =>
    rw [resolved] at answered
    cases answered
    exact ⟨client, rfl, rfl⟩

theorem connector_keeps
    (keeps : ∀ sent, Permits method endpoint sent →
      ∀ state, relation state (service.exchange sent state).2) :
    (connector service environment method endpoint).Keeps relation where
  connect := resolve_keeps fun sent role named asks => keeps sent (named ▸ .tokens asks.base)
  serves answered := by
    obtain ⟨client, resolved, rfl⟩ := exists_client answered
    exact Client.store_keeps fun sent sends _ => keeps sent (permits_of_sends resolved sends)

/-! ## Written down -/

section Logs

variable {Entry : Type}

/-- The list grows by entries of a kind. -/
def Logs (allowed : Entry → Prop) (before after : σ × List Entry) : Prop :=
  ∃ later, after.2 = before.2 ++ later ∧ ∀ entry ∈ later, allowed entry

variable {allowed : Entry → Prop}

instance : Std.Refl (Logs (σ := σ) allowed) := ⟨fun _ => ⟨[], by simp⟩⟩

instance : IsTrans (σ × List Entry) (Logs allowed) where
  trans _ _ _ := by
    rintro ⟨earlier, grown, first⟩ ⟨later, regrown, last⟩
    refine ⟨earlier ++ later, by rw [regrown, grown, List.append_assoc], fun entry member => ?_⟩
    exact (List.mem_append.mp member).elim (first entry) (last entry)

end Logs

theorem logs_recorded {allowed : Sent → Prop} (service : Service σ) (permitted : allowed sent)
    (state : σ × List Sent) :
    Logs allowed state (service.recorded.exchange sent state).2 :=
  ⟨[sent], rfl, by simpa using permitted⟩

end S3

end Haulage
