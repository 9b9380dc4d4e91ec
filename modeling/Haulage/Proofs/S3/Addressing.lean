import Haulage.Proofs.S3.Resolving
import Haulage.Proofs.S3.Rounds

/-! Where requests go and what they are signed for. Each configuration that is loaded on the way to a
client looks for its region anew; they all find the same one, and an endpoint of one's own draws
storage requests to itself and no others. -/
namespace Haulage

theorem Endpoint.routingRegion_eq_some_iff {endpoint : Endpoint} {region : String} :
    endpoint.routingRegion = some region ↔
      endpoint.url = none ∧ endpoint.region = some region := by
  rw [routingRegion]
  cases endpoint.url <;> simp

namespace S3

/-- The request goes where its kind belongs, and it is signed for a region. -/
structure Sent.Addressed (sent : Sent) (endpoint : Endpoint) (region : Option String) : Prop where
  tokens : sent.request.forTokens = true → sent.base = .tokens
  storage : sent.request.forTokens = false → sent.base = endpoint.base
  region : region = some sent.region

/-- What is exchanged while an access method is resolved and, if a client comes of it, while that is
used in whatever way. -/
inductive Uses {σ : Type} (service : Service σ) (environment : Environment)
    (method : AccessMethod) (endpoint : Endpoint) (state : σ) : List Exchange → Prop where
  | refused
      (answered : resolve service.logged environment method endpoint (state, []) =
        (.error fault, after)) :
      Uses service environment method endpoint state after.2
  | served
      (answered : resolve service.logged environment method endpoint (state, []) =
        (.ok client, before))
      (calls : Relation.ReflTransGen (client.store service.logged).Calls before after) :
      Uses service environment method endpoint state after.2

variable {σ : Type} {service : Service σ} {environment : Environment} {method : AccessMethod}
  {library : Library} {endpoint : Endpoint} {client : Client} {sent : Sent} {region : Option String}
  {given : Option Credentials} {path : RemotePath} {state : σ} {exchanges : List Exchange}
  {next : σ × List Exchange}

/-- Without an endpoint of one's own no request goes to one. -/
theorem Sent.Addressed.base_ne_endpoint (addressed : sent.Addressed endpoint region)
    (usual : endpoint.url = none) (url : String) : sent.base ≠ .endpoint url := by
  intro sentTo
  cases kind : sent.request.forTokens with
  | true => exact nomatch (addressed.tokens kind).symm.trans sentTo
  | false =>
    have base := (addressed.storage kind).symm.trans sentTo
    exact nomatch usual.symm.trans (Endpoint.base_eq_endpoint_iff.mp base)

theorem Sent.Asks.addressed (asks : sent.Asks region) : sent.Addressed endpoint region where
  tokens _ := asks.base
  storage storing := nomatch asks.tokens.symm.trans storing
  region := asks.region

theorem Client.Sends.addressed
    (sends : ((library.configure environment endpoint given).client endpoint).Sends sent)
    (signed : (library.configure environment endpoint given).region = some sent.region) :
    sent.Addressed endpoint (library.signingRegion environment endpoint) where
  tokens asking := nomatch sends.storing.symm.trans asking
  storage _ := sends.base
  region := by rw [← signed, library.region_configure]

theorem resolve_logs_addressed :
    (resolve service.logged environment method endpoint).Keeps (Logs fun exchange : Exchange =>
      exchange.sent.Addressed endpoint (service.signingRegion environment endpoint)) :=
  resolve_keeps fun _ _ _ asks =>
    logs_logged (·.Addressed endpoint (service.signingRegion environment endpoint)) service
      asks.addressed

theorem store_logs_addressed {before : σ × List Exchange}
    (answered : resolve service.logged environment method endpoint before = (.ok client, next)) :
    (client.store service.logged).Keeps (Logs fun exchange : Exchange =>
      exchange.sent.Addressed endpoint (service.signingRegion environment endpoint)) := by
  obtain ⟨given, rfl, -⟩ := resolve_client answered
  exact Client.store_keeps fun _ sends signed =>
    logs_logged (·.Addressed endpoint (service.signingRegion environment endpoint)) service
      (sends.addressed signed)

theorem Uses.addressed (uses : Uses service environment method endpoint state exchanges) :
    ∀ exchange ∈ exchanges,
      exchange.sent.Addressed endpoint (service.signingRegion environment endpoint) := by
  cases uses with
  | refused answered =>
    obtain ⟨questions, grown, addressed⟩ := resolve_logs_addressed.of_eq answered
    rw [grown]
    simpa using addressed
  | served answered calls =>
    have resolved := resolve_logs_addressed.of_eq answered
    have used := (store_logs_addressed answered).of_calls calls
    obtain ⟨all, grown, addressed⟩ := IsTrans.trans _ _ _ resolved used
    rw [grown]
    simpa using addressed

/-- A listing of a bucket with a name is sent if there is a region and there are keys to sign it
with, and not otherwise. -/
theorem Client.list_sent_iff (named : path.bucket ≠ "") (options : ListOptions)
    (before : σ × List Exchange) :
    (∃ exchange, ((client.store service.logged).list path options before).2.2 =
        before.2 ++ [exchange]) ↔ client.region.isSome ∧ client.credentials.isSome := by
  obtain ⟨state, log⟩ := before
  generalize listed : (client.store service.logged).list path options (state, log) = reached
  obtain ⟨result, after⟩ := reached
  obtain ⟨exchanges, grown, answered⟩ := answered_of_list listed
  have able : (client.build? (listRequest path options)).isSome ↔
      client.region.isSome ∧ client.credentials.isSome := by
    rw [← reaches_iff_build? rfl]
    exact reaches_iff.trans (and_iff_right named)
  rw [← able, grown]
  simp only [List.append_cancel_left_eq]
  cases answered with
  | unsent impossible => simp [impossible]
  | denied possible _ _ | granted possible _ _ => simp [possible]

/-- Whatever the access method, the endpoint, the environment and the replies are: all requests are
signed for one region, without which none is sent; questions go to the token service, and everything
else goes to the endpoint of one's own if there is one. A region that decides where requests go is the
one that the client has, and then no request goes to an endpoint of one's own. A region that the
variables name is outdone by a configured one alone. -/
theorem requests_addressed (service : Service σ) (environment : Environment) (method : AccessMethod)
    (endpoint : Endpoint) (state : σ) :
    (∀ exchanges, Uses service environment method endpoint state exchanges →
      (∀ exchange ∈ exchanges,
        exchange.sent.Addressed endpoint (service.signingRegion environment endpoint)) ∧
      (service.signingRegion environment endpoint = none → exchanges = []) ∧
      ∀ region, endpoint.routingRegion = some region →
        ∀ exchange ∈ exchanges, ∀ url, exchange.sent.base ≠ .endpoint url) ∧
    (∀ client next,
      resolve service.logged environment method endpoint (state, []) = (.ok client, next) →
      client.region = service.signingRegion environment endpoint ∧
      (∀ region, endpoint.routingRegion = some region → client.region = some region) ∧
      ∀ path : RemotePath, path.bucket ≠ "" → ∀ options before,
        ((∃ exchange, ((client.store service.logged).list path options before).2.2 =
          before.2 ++ [exchange]) ↔ client.region.isSome ∧ client.credentials.isSome)) ∧
    ∀ found, variableRegion? environment = some found →
      service.signingRegion environment endpoint = some (endpoint.region.getD found) := by
  refine ⟨?_, ?_, fun found named => service.signingRegion_of_variable environment endpoint named⟩
  · intro exchanges uses
    have addressed := uses.addressed
    refine ⟨addressed, ?_, ?_⟩
    · intro regionless
      apply List.eq_nil_iff_forall_not_mem.mpr
      intro exchange member
      exact nomatch regionless.symm.trans (addressed exchange member).region
    · intro region routed exchange member
      obtain ⟨usual, -⟩ := Endpoint.routingRegion_eq_some_iff.mp routed
      exact (addressed exchange member).base_ne_endpoint usual
  · intro client next answered
    have own : client.region = service.signingRegion environment endpoint := by
      obtain ⟨given, rfl, -⟩ := resolve_client answered
      exact service.region_configure environment endpoint given
    refine ⟨own, ?_, fun path named options before => Client.list_sent_iff named options before⟩
    intro region routed
    obtain ⟨-, configured⟩ := Endpoint.routingRegion_eq_some_iff.mp routed
    rw [own, Library.signingRegion, configured, Option.some_or, Option.some_or]

/-- No variable is set. -/
def bare : Environment := ⟨fun _ => none, none, false⟩

/-- A role is asked for at the token service and used at an endpoint of one's own, for one region.
With neither a region nor an endpoint nothing is sent. -/
theorem foreign_addressed :
    (∃ exchanges, Uses generous nominal (.role (some "r")) ⟨some "http://[::1]:9000", none⟩ ()
        exchanges ∧
      exchanges.map (·.sent.base) = [.tokens, .tokens, .endpoint "http://[::1]:9000"] ∧
      ∀ exchange ∈ exchanges, exchange.sent.region = "AWS_REGION") ∧
    generous.signingRegion bare ⟨some "http://[::1]:9000", none⟩ = some "us-east-1" ∧
    generous.signingRegion bare ⟨none, none⟩ = none ∧
    generous.signingRegion nominal ⟨none, none⟩ = some "AWS_REGION" ∧
    (∀ exchanges, Uses generous bare (.keys "k" "s") ⟨none, none⟩ () exchanges → exchanges = []) ∧
    ∃ client, (resolve generous.logged bare (.keys "k" "s") ⟨none, some "here"⟩ ((), [])).1 =
      .ok client ∧ client.region = some "here" := by
  have used : ∃ exchanges, Uses generous nominal (.role (some "r"))
        ⟨some "http://[::1]:9000", none⟩ () exchanges ∧
      exchanges.map (·.sent.base) = [.tokens, .tokens, .endpoint "http://[::1]:9000"] :=
    ⟨_, .served rfl (.single (.list ⟨"b", "p"⟩ ⟨none, none⟩)), rfl⟩
  refine ⟨?_, rfl, rfl, ?_, ?_, ?_⟩
  · obtain ⟨exchanges, uses, bases⟩ := used
    have addressed := ((requests_addressed generous nominal (.role (some "r"))
      ⟨some "http://[::1]:9000", none⟩ ()).1 exchanges uses).1
    refine ⟨exchanges, uses, bases, fun exchange member => ?_⟩
    exact (Option.some.inj (addressed exchange member).region).symm
  · exact (requests_addressed generous nominal .missing ⟨none, none⟩ ()).2.2 "AWS_REGION" rfl
  · intro exchanges uses
    obtain ⟨unsigned, -⟩ :=
      ((requests_addressed generous bare (.keys "k" "s") ⟨none, none⟩ ()).1 exchanges uses).2
    exact unsigned rfl
  · have answered : resolve generous.logged bare (.keys "k" "s") ⟨none, some "here"⟩ ((), []) =
        (.ok ⟨none, some "here", some ⟨"k", "s", none⟩⟩, (), []) := rfl
    obtain ⟨-, routed, -⟩ :=
      (requests_addressed generous bare (.keys "k" "s") ⟨none, some "here"⟩ ()).2.1 _ _ answered
    exact ⟨_, rfl, routed "here" rfl⟩

end S3

end Haulage
