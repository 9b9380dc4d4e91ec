import Haulage.Proofs.Deletion.Run
import Haulage.Proofs.S3.Exchange
import Haulage.Proofs.Transfer.Upload

/-! How an access method becomes a client. For a named role the token service is asked who calls and
then for the role in that account, under the ambient keys; nothing else asks for anything. From then
on every request is signed with what came of it, and if nothing came of it there is no request. -/
namespace Haulage

/-- The client for an endpoint once its keys are known. -/
def Endpoint.client (endpoint : Endpoint) (library : S3.Library) (environment : Environment)
    (credentials : Option S3.Credentials) : S3.Client :=
  ⟨endpoint.url, library.signingRegion environment endpoint, credentials⟩

namespace S3

/-- What is heard on the way to the keys of a role, and what comes of it: at most one question who
calls, and only after an answer to it at most one for the role in the account that was told. -/
inductive Assumption (role : String) : List Exchange → Except Fault Credentials → Prop where
  | unasked : Assumption role [] (.error (.resolution cause))
  | unidentified (asked : identity.sent.request = .callerIdentity)
      (denied : identity.granted = false) :
      Assumption role [identity] (.error (.resolution cause))
  | unassumed (asked : identity.sent.request = .callerIdentity)
      (identified : identity.reply = .identified (some account))
      (required : assumption.sent.request = .assumeRole (roleArn account role) sessionName)
      (denied : assumption.granted = false) :
      Assumption role [identity, assumption] (.error (.resolution cause))
  | assumed (asked : identity.sent.request = .callerIdentity)
      (identified : identity.reply = .identified (some account))
      (required : assumption.sent.request = .assumeRole (roleArn account role) sessionName)
      (issued : assumption.reply = .assumed (some keys)) :
      Assumption role [identity, assumption] (.ok keys)

/-- What is heard while an access method is resolved, and what comes of it. -/
inductive Resolution (library : Library) (environment : Environment) (endpoint : Endpoint) :
    AccessMethod → List Exchange → Except Fault Client → Prop where
  | missing : Resolution library environment endpoint .missing [] (.error (.configuration .noMethod))
  | keyed : Resolution library environment endpoint (.keys accessKeyId secretAccessKey) []
      (.ok (endpoint.client library environment (some ⟨accessKeyId, secretAccessKey, none⟩)))
  | ambient : Resolution library environment endpoint (.role none) []
      (.ok (endpoint.client library environment (library.credentials? environment)))
  | unassumed (assumption : Assumption role exchanges (.error fault)) :
      Resolution library environment endpoint (.role (some role)) exchanges (.error fault)
  | assumed (assumption : Assumption role exchanges (.ok keys)) :
      Resolution library environment endpoint (.role (some role)) exchanges
        (.ok (endpoint.client library environment (some keys)))

variable {σ : Type} {service : Service σ} {environment : Environment} {method : AccessMethod}
  {endpoint : Endpoint} {region : Option String} {ambient : Option Credentials} {role : String}
  {state next : σ} {log : List Exchange} {after : σ × List Exchange}

/-! ## Questions to the token service -/

theorem answered_of_callerAccount {result : Except Fault String}
    (answered : callerAccount service.logged region ambient (state, log) = (result, after)) :
    ∃ exchanges, after.2 = log ++ exchanges ∧
      Answered service .resolution Reply.account?
        (Request.callerIdentity.signed? .tokens region ambient) state exchanges result after.1 := by
  unfold callerAccount at answered
  generalize asked : exchange service.logged .tokens region ambient .callerIdentity (state, log) =
    reached at answered
  obtain ⟨taken, next⟩ := reached
  obtain ⟨exchanges, grown, heard⟩ := heard_of_exchange asked
  cases heard with
  | unsent impossible =>
    cases answered
    exact ⟨[], grown, .unsent impossible⟩
  | @replied sent reply _ possible replied =>
    cases reply with
    | identified account =>
      cases account with
      | none =>
        cases answered
        exact ⟨_, grown, .denied possible replied rfl⟩
      | some account =>
        cases answered
        exact ⟨_, grown, .granted possible replied rfl⟩
    | _ =>
      cases answered
      exact ⟨_, grown, .denied possible replied rfl⟩

theorem answered_of_issuedCredentials {arn : String} {result : Except Fault Credentials}
    (answered : issuedCredentials service.logged region ambient arn (state, log) =
      (result, after)) :
    ∃ exchanges, after.2 = log ++ exchanges ∧
      Answered service .resolution Reply.keys?
        ((Request.assumeRole arn sessionName).signed? .tokens region ambient) state exchanges result
        after.1 := by
  unfold issuedCredentials at answered
  generalize asked : exchange service.logged .tokens region ambient (.assumeRole arn sessionName)
    (state, log) = reached at answered
  obtain ⟨taken, next⟩ := reached
  obtain ⟨exchanges, grown, heard⟩ := heard_of_exchange asked
  cases heard with
  | unsent impossible =>
    cases answered
    exact ⟨[], grown, .unsent impossible⟩
  | @replied sent reply _ possible replied =>
    cases reply with
    | assumed credentials =>
      cases credentials with
      | none =>
        cases answered
        exact ⟨_, grown, .denied possible replied rfl⟩
      | some keys =>
        cases answered
        exact ⟨_, grown, .granted possible replied rfl⟩
    | _ =>
      cases answered
      exact ⟨_, grown, .denied possible replied rfl⟩

/-- If one question can be asked, then so can the other: both take the ambient keys. -/
theorem assumption_of_assumeRole {result : Except Fault Credentials}
    (answered : assumeRole service.logged region ambient role (state, log) = (result, after)) :
    ∃ exchanges, after.2 = log ++ exchanges ∧ Assumption role exchanges result ∧
      ∀ exchange ∈ exchanges, exchange.sent.Bears .tokens ambient := by
  unfold assumeRole at answered
  generalize asked : callerAccount service.logged region ambient (state, log) = reached at answered
  obtain ⟨told, next, written⟩ := reached
  obtain ⟨identities, grown, identity⟩ := answered_of_callerAccount asked
  dsimp only at grown
  cases identity with
  | unsent _ =>
    cases answered
    exact ⟨[], grown, .unasked, List.forall_mem_nil _⟩
  | @denied question reply _ _ possible _ unread =>
    cases answered
    obtain ⟨same, bears, -⟩ := Request.signed?_bears possible
    have denied : Exchange.granted ⟨question, reply⟩ = false := by
      rw [Exchange.granted, same, Request.grantedBy_callerIdentity, unread, Option.isSome_none]
    refine ⟨_, grown, .unidentified same denied, fun exchange member => ?_⟩
    rw [List.mem_singleton.mp member]
    exact bears
  | @granted question reply _ account possible _ taken =>
    obtain ⟨same, bears, -⟩ := Request.signed?_bears possible
    have identified : reply = .identified (some account) := Reply.account?_eq_some taken
    obtain ⟨assumptions, regrown, assumption⟩ := answered_of_issuedCredentials answered
    rw [grown] at regrown
    have bothBear {demand : Sent} {answer : Reply} (demanded : demand.Bears .tokens ambient) :
        ∀ exchange ∈ ([⟨question, reply⟩, ⟨demand, answer⟩] : List Exchange),
          exchange.sent.Bears .tokens ambient := by
      intro exchange member
      rcases List.mem_pair.mp member with rfl | rfl
      · exact bears
      · exact demanded
    cases assumption with
    | unsent impossible =>
      obtain ⟨_, able⟩ := Request.exists_signed possible
        (show (Request.assumeRole (roleArn account role) sessionName).addressNames = [] from rfl)
      cases impossible.symm.trans able
    | @denied demand answer _ _ able _ unread =>
      obtain ⟨asks, demanded, -⟩ := Request.signed?_bears able
      have denied : Exchange.granted ⟨demand, answer⟩ = false := by
        rw [Exchange.granted, asks, Request.grantedBy_assumeRole, unread, Option.isSome_none]
      rw [List.append_assoc] at regrown
      exact ⟨_, regrown, .unassumed same identified asks denied, bothBear demanded⟩
    | @granted demand answer _ keys able _ taken =>
      obtain ⟨asks, demanded, -⟩ := Request.signed?_bears able
      have issued : answer = .assumed (some keys) := Reply.keys?_eq_some taken
      rw [List.append_assoc] at regrown
      exact ⟨_, regrown, .assumed same identified asks issued, bothBear demanded⟩

/-- Resolving an access method asks the token service and nobody else. -/
theorem resolution_of_resolve {result : Except Fault Client}
    (answered : resolve service.logged environment method endpoint (state, log) = (result, after)) :
    ∃ exchanges, after.2 = log ++ exchanges ∧
      Resolution service.toLibrary environment endpoint method exchanges result ∧
      ∀ exchange ∈ exchanges, exchange.sent.Bears .tokens (service.credentials? environment) := by
  match method with
  | .missing =>
    cases answered
    exact ⟨[], (List.append_nil _).symm, .missing, List.forall_mem_nil _⟩
  | .keys accessKeyId secretAccessKey =>
    cases answered
    rw [service.logged.client_configure]
    exact ⟨[], (List.append_nil _).symm, .keyed, List.forall_mem_nil _⟩
  | .role none =>
    cases answered
    rw [service.logged.client_configure]
    exact ⟨[], (List.append_nil _).symm, .ambient, List.forall_mem_nil _⟩
  | .role (some role) =>
    obtain ⟨issued, asked, rfl⟩ := assumed_of_resolve answered
    obtain ⟨exchanges, grown, assumption, bears⟩ := assumption_of_assumeRole asked
    cases issued with
    | error fault => exact ⟨exchanges, grown, .unassumed assumption, bears⟩
    | ok keys =>
      refine ⟨exchanges, grown, ?_, bears⟩
      rw [Except.map, service.logged.client_configure]
      exact .assumed assumption

/-! ## With a client and without -/

theorem connect_eq {result : Except Fault Client}
    (answered : resolve service environment method endpoint state = (result, next)) :
    (connector service environment method endpoint).connect state =
      (result.map (Client.store service), next) := by
  simp only [connector, answered]

/-- Nothing but what the client is made for is sent, however long it is used. -/
theorem Client.logs_sends {client : Client} {start after : σ × List Exchange}
    (calls : Relation.ReflTransGen (client.store service.logged).Calls start after) :
    Logs (fun exchange => client.Sends exchange.sent) start after := by
  have keeps : (client.store service.logged).Keeps
      (Logs fun exchange : Exchange => client.Sends exchange.sent) :=
    Client.store_keeps fun sent sends _ => logs_logged client.Sends service sends
  exact keeps.of_calls calls

/-- Whatever the replies are, an access method is resolved by the protocol: only a named role has the
token service asked, under the ambient keys and never at an endpoint of one's own. A client that comes
of it sends storage requests for ever after, all of them under the keys that it was made with, which
for a named role are those that were issued. If none comes of it, a deletion and an upload end with the
same fault, and nothing has been sent but the questions to the token service. -/
theorem resolve_protocol (service : Service σ) (environment : Environment) (method : AccessMethod)
    (endpoint : Endpoint) (state : σ) :
    ∃ result final log,
      resolve service.logged environment method endpoint (state, []) = (result, final, log) ∧
      Resolution service.toLibrary environment endpoint method log result ∧
      (∀ exchange ∈ log, exchange.sent.Bears .tokens (service.credentials? environment)) ∧
      (∀ client, result = .ok client → ∀ after,
        Relation.ReflTransGen (client.store service.logged).Calls (final, log) after →
        ∃ later, after.2 = log ++ later ∧ ∀ exchange ∈ later, client.Sends exchange.sent) ∧
      ∀ fault, result = .error fault → ∀ destination path files,
        StoragePath.ofText destination = .remote path →
        (∀ pages, deleteRecursive (connector service.logged environment method endpoint) pages
            destination ⟨files, state, []⟩ = some (.error fault, ⟨files, final, log⟩)) ∧
        ∀ source identity, files.fileAt? source = some identity →
          transferFile (connector service.logged environment method endpoint) source destination
            ⟨files, state, []⟩ = (.error fault, ⟨files, final, log⟩) := by
  match answered : resolve service.logged environment method endpoint (state, []) with
  | (result, final, log) =>
    obtain ⟨exchanges, grown, resolution, bears⟩ := resolution_of_resolve answered
    rw [List.nil_append] at grown
    dsimp only at grown
    subst grown
    refine ⟨result, final, log, rfl, resolution, bears, ?_, ?_⟩
    · rintro client rfl after calls
      exact Client.logs_sends calls
    · rintro fault rfl destination path files found
      have refused := connect_eq answered
      constructor
      · intro pages
        exact (Deletion.RemoteRun.refused refused).deleteRecursive_eq found (Nat.zero_le _) files
      · intro source identity present
        exact Transfer.transferFile_of_refused found present refused

/-- Every variable holds its own name. -/
def nominal : Environment := ⟨some, none, false⟩

/-- A service that issues keys to everyone and lists nothing. -/
def generous : Service Unit where
  toLibrary := .ofVariables fun _ => ""
  exchange sent state :=
    match sent.request with
    | .callerIdentity => (.identified (some "1"), state)
    | .assumeRole _ _ => (.assumed (some ⟨"issued", "", some "token"⟩), state)
    | _ => (.listed [] none none, state)
  clock _ := 0

/-- The keys that are issued sign the listing that follows, and where none are issued no listing
follows. -/
theorem generous_resolved :
    (∃ log page after later,
      resolve generous.logged nominal (.role (some "r")) ⟨none, none⟩ ((), []) =
        (.ok ⟨none, some "AWS_REGION", some ⟨"issued", "", some "token"⟩⟩, (), log) ∧
      (Client.store generous.logged
        ⟨none, some "AWS_REGION", some ⟨"issued", "", some "token"⟩⟩).list ⟨"b", "p"⟩ ⟨none, none⟩
          ((), log) = (.ok page, after) ∧
      after.2 = log ++ later ∧ later.length = 1 ∧
      ∀ exchange ∈ later, Client.Sends ⟨none, some "AWS_REGION", some ⟨"issued", "", some "token"⟩⟩
        exchange.sent) ∧
    ∃ fault final log,
      resolve (Service.unreachable "").logged nominal (.role (some "r")) ⟨none, none⟩ ((), []) =
        (.error fault, final, log) ∧
      deleteRecursive (connector (Service.unreachable "").logged nominal (.role (some "r"))
          ⟨none, none⟩) 1 "s3://b/p" ⟨Transfer.loneFile.files, (), []⟩ =
        some (.error fault, ⟨Transfer.loneFile.files, final, log⟩) ∧
      transferFile (connector (Service.unreachable "").logged nominal (.role (some "r"))
          ⟨none, none⟩) "f" "s3://b/p" ⟨Transfer.loneFile.files, (), []⟩ =
        (.error fault, ⟨Transfer.loneFile.files, final, log⟩) := by
  constructor
  · obtain ⟨result, final, log, resolved, _, _, uses, _⟩ :=
      resolve_protocol generous nominal (.role (some "r")) ⟨none, none⟩ ()
    cases resolved
    obtain ⟨later, grown, sends⟩ := uses _ rfl _ (.single (.list ⟨"b", "p"⟩ ⟨none, none⟩))
    have total : 2 + 1 = 2 + later.length := (congrArg List.length grown).trans List.length_append
    exact ⟨_, _, _, later, rfl, rfl, grown, (Nat.add_left_cancel total).symm, sends⟩
  · obtain ⟨result, final, log, resolved, _, _, _, fails⟩ :=
      resolve_protocol (Service.unreachable "") nominal (.role (some "r")) ⟨none, none⟩ ()
    cases result with
    | ok client => cases resolved
    | error fault =>
      obtain ⟨deletion, transfer⟩ := fails fault rfl "s3://b/p" ⟨"b", "p"⟩ Transfer.loneFile.files
        (by decide)
      exact ⟨fault, final, log, resolved, deletion 1, transfer "f" 0 (by decide)⟩

end S3

end Haulage
