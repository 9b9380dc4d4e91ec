import Haulage.Proofs.S3.Sending

/-! What a client hears from the service: every request that is sent together with the reply to it, in
order. A call makes one exchange at most, and it fails unless the reply grants all that was asked. -/
namespace Haulage.S3

/-- A request as it was sent, and the reply to it. -/
structure Exchange where
  sent : Sent
  reply : Reply
  deriving DecidableEq

/-- Whether a reply is one to the request and leaves nothing of it undone. -/
def Request.grantedBy : Request → Reply → Bool
  | .list _ _ _ _, .listed _ _ _ => true
  | .delete _ _, .deleted _ [] => true
  | .put _ _ _ _, .stored _ => true
  | .callerIdentity, .identified (some _) => true
  | .assumeRole _ _, .assumed (some _) => true
  | _, _ => false

def Exchange.granted (exchange : Exchange) : Bool :=
  exchange.sent.request.grantedBy exchange.reply

/-- A reply as the client takes it. -/
def Reply.heard : Reply → Except String Reply
  | .failed words => .error words
  | reply => .ok reply

variable {σ : Type}

/-- A service that keeps a list of the exchanges. -/
def Service.logged (service : Service σ) : Service (σ × List Exchange) where
  toLibrary := service.toLibrary
  exchange sent := fun (state, log) =>
    let (reply, state) := service.exchange sent state
    (reply, state, log ++ [⟨sent, reply⟩])
  clock := fun (state, _) => service.clock state

theorem logs_logged (allowed : Sent → Prop) (service : Service σ) {sent : Sent}
    (permitted : allowed sent) (state : σ × List Exchange) :
    Logs (fun exchange : Exchange => allowed exchange.sent) state
      (service.logged.exchange sent state).2 :=
  ⟨[⟨sent, _⟩], rfl, by simpa using permitted⟩

/-- What is heard if a request is to be sent: nothing if it cannot be, or the reply. -/
inductive Heard (service : Service σ) (sent? : Option Sent) (state : σ) :
    List Exchange → Except String Reply → σ → Prop where
  | unsent (impossible : sent? = none) : Heard service sent? state [] (.error reason) state
  | replied (possible : sent? = some sent) (answered : service.exchange sent state = (reply, next)) :
      Heard service sent? state [⟨sent, reply⟩] reply.heard next

/-- What a call comes to that makes one request and reads the reply: a fault of its kind unless the
request can be sent and the reply be read. -/
inductive Answered (service : Service σ) {α Cause : Type} (kind : Cause → Fault)
    (read : Reply → Option α) (sent? : Option Sent) (state : σ) :
    List Exchange → Except Fault α → σ → Prop where
  | unsent (impossible : sent? = none) :
      Answered service kind read sent? state [] (.error (kind cause)) state
  | denied (possible : sent? = some sent) (answered : service.exchange sent state = (reply, next))
      (unread : read reply = none) :
      Answered service kind read sent? state [⟨sent, reply⟩] (.error (kind cause)) next
  | granted (possible : sent? = some sent) (answered : service.exchange sent state = (reply, next))
      (taken : read reply = some value) :
      Answered service kind read sent? state [⟨sent, reply⟩] (.ok value) next

variable {service : Service σ} {client : Client} {request : Request} {base : Base}
  {region : Option String} {credentials : Option Credentials} {sent : Sent} {sent? : Option Sent}
  {state next : σ} {log exchanges : List Exchange} {after : σ × List Exchange}
  {result : Except String Reply}

/-- Whether a request can be signed does not depend on what it asks for, if it has the same names in its
address. -/
theorem Request.exists_signed (signed : request.signed? base region credentials = some sent)
    {other : Request} (alike : other.addressNames = request.addressNames) :
    ∃ sent, other.signed? base region credentials = some sent := by
  obtain ⟨named, signing, keys, given, held, -⟩ := Request.signed?_eq_some_iff.mp signed
  exact ⟨_, Request.signed?_eq_some_iff.mpr ⟨by rw [alike, named], signing, keys, given, held, rfl⟩⟩

theorem heard_of_exchange
    (answered : exchange service.logged base region credentials request (state, log) =
      (result, after)) :
    ∃ exchanges, after.2 = log ++ exchanges ∧
      Heard service (request.signed? base region credentials) state exchanges result after.1 := by
  unfold exchange at answered
  split at answered
  · rename_i words failed
    have impossible : request.signed? base region credentials = none :=
      (service.build_signed _ _ _ _).symm.trans (congrArg Except.toOption failed)
    cases answered
    exact ⟨[], (List.append_nil _).symm, .unsent impossible⟩
  · rename_i sent built
    have possible : request.signed? base region credentials = some sent :=
      service.build_eq_ok_iff.mp built
    match replied : service.exchange sent state with
    | (reply, next) =>
      have logged : service.logged.exchange sent (state, log) =
          (reply, next, log ++ [⟨sent, reply⟩]) := by
        simp only [Service.logged, replied]
      have heard : Heard service (request.signed? base region credentials) state [⟨sent, reply⟩]
          reply.heard next := .replied possible replied
      refine ⟨[⟨sent, reply⟩], ?_⟩
      split at answered
      · rename_i words _ failed
        have same := logged.symm.trans failed
        cases same
        cases answered
        exact ⟨rfl, heard⟩
      · rename_i other _ whole succeeded
        have same := logged.symm.trans succeeded
        cases same
        cases answered
        have taken : reply.heard = .ok reply := by
          cases reply with
          | failed words => exact (whole words rfl).elim
          | _ => rfl
        rw [taken] at heard
        exact ⟨rfl, heard⟩

namespace Answered

variable {α Cause : Type} {kind : Cause → Fault} {read : Reply → Option α} {fault : Fault}
  {value : α} {outcome : Except Fault α}

theorem failed_of_unsent
    (answered : Answered service kind read sent? state exchanges outcome next)
    (impossible : sent? = none) : exchanges = [] ∧ ∃ cause, outcome = .error (kind cause) := by
  cases answered with
  | unsent _ => exact ⟨rfl, _, rfl⟩
  | denied possible _ _ | granted possible _ _ => cases impossible.symm.trans possible

variable (asks : ∀ sent, sent? = some sent → sent.request = request)
  (grants : ∀ reply, request.grantedBy reply = (read reply).isSome)

include asks grants

theorem denied_of_error
    (answered : Answered service kind read sent? state exchanges (.error fault) next)
    (possible : sent?.isSome) :
    ∃ exchange cause, exchanges = [exchange] ∧ exchange.sent.request = request ∧
      exchange.granted = false ∧ fault = kind cause := by
  cases answered with
  | unsent impossible =>
    rw [impossible] at possible
    cases possible
  | denied possible _ unread =>
    have asked := asks _ possible
    exact ⟨_, _, rfl, asked, by rw [Exchange.granted, asked, grants, unread, Option.isSome_none], rfl⟩

theorem granted_of_ok
    (answered : Answered service kind read sent? state exchanges (.ok value) next) :
    ∃ exchange, exchanges = [exchange] ∧ exchange.sent.request = request ∧
      exchange.granted = true ∧ read exchange.reply = some value := by
  cases answered with
  | granted possible _ taken =>
    have asked := asks _ possible
    exact ⟨_, rfl, asked, by rw [Exchange.granted, asked, grants, taken, Option.isSome_some], taken⟩

end Answered

/-! ## What is read from a reply -/

namespace Reply

def account? : Reply → Option String
  | .identified account => account
  | _ => none

def keys? : Reply → Option Credentials
  | .assumed credentials => credentials
  | _ => none

/-- The page that a reply brings. -/
def page? : Reply → Option Page
  | .listed objects truncated token => some {
      items := objects.filterMap Client.describe?
      truncated := truncated.getD false
      token := token }
  | _ => none

/-- The keys that a reply says are gone, if it refuses none. -/
def gone? : Reply → Option (List String)
  | .deleted keys [] => some (keys.filterMap id)
  | _ => none

theorem account?_eq_some {reply : Reply} {account : String} (told : reply.account? = some account) :
    reply = .identified (some account) := by
  cases reply with
  | identified _ => exact congrArg Reply.identified told
  | _ => cases told

theorem keys?_eq_some {reply : Reply} {keys : Credentials} (told : reply.keys? = some keys) :
    reply = .assumed (some keys) := by
  cases reply with
  | assumed _ => exact congrArg Reply.assumed told
  | _ => cases told

end Reply

namespace Request

theorem grantedBy_list (bucket : String) (keyPrefix : Option String) (maxKeys : Option Int)
    (token : Option String) (reply : Reply) :
    (Request.list bucket keyPrefix maxKeys token).grantedBy reply = reply.page?.isSome := by
  cases reply <;> rfl

theorem grantedBy_delete (bucket : String) (keys : List String) (reply : Reply) :
    (Request.delete bucket keys).grantedBy reply = reply.gone?.isSome := by
  cases reply with
  | deleted _ refusals => cases refusals <;> rfl
  | _ => rfl

theorem grantedBy_callerIdentity (reply : Reply) :
    Request.callerIdentity.grantedBy reply = reply.account?.isSome := by
  cases reply with
  | identified account => cases account <;> rfl
  | _ => rfl

theorem grantedBy_assumeRole (arn session : String) (reply : Reply) :
    (Request.assumeRole arn session).grantedBy reply = reply.keys?.isSome := by
  cases reply with
  | assumed credentials => cases credentials <;> rfl
  | _ => rfl

end Request

namespace Client

/-- The request as the client sends it; none if it cannot be built. -/
def build? (client : Client) (request : Request) : Option Sent :=
  request.signed? client.base client.region client.credentials

/-- All requests about a bucket can be built. -/
def Reaches (client : Client) (bucket : String) : Prop :=
  ∀ request, request.addressNames = [bucket] → (client.build? request).isSome

theorem build?_sends (built : client.build? request = some sent)
    (storing : request.forTokens = false) : sent.request = request ∧ client.Sends sent := by
  obtain ⟨same, bears, -⟩ := Request.signed?_bears built
  exact ⟨same, bears, by rw [same, storing]⟩

/-- If one request about a bucket can be built, then all of them can. -/
theorem reaches_iff_build? {bucket : String} (named : request.addressNames = [bucket]) :
    client.Reaches bucket ↔ (client.build? request).isSome := by
  refine ⟨fun reaches => reaches _ named, fun able other alike => ?_⟩
  obtain ⟨sent, built⟩ := Option.isSome_iff_exists.mp able
  obtain ⟨sent, signed⟩ := Request.exists_signed built (alike.trans named.symm)
  exact Option.isSome_iff_exists.mpr ⟨sent, signed⟩

/-- What stands in the way is an empty name, or that there is no region or no keys to sign for. -/
theorem reaches_iff {bucket : String} : client.Reaches bucket ↔
    bucket ≠ "" ∧ client.region.isSome ∧ client.credentials.isSome := by
  have built : client.Reaches bucket ↔ (client.build? (.delete bucket [])).isSome :=
    reaches_iff_build? rfl
  have named : (Request.delete bucket []).addressNames.contains "" = false ↔ bucket ≠ "" := by
    simp [Request.addressNames, eq_comm]
  rw [built, Option.isSome_iff_exists, Option.isSome_iff_exists, Option.isSome_iff_exists, build?]
  simp only [Request.signed?_eq_some_iff, named]
  constructor
  · rintro ⟨_, given, signing, keys, region, held, -⟩
    exact ⟨given, ⟨signing, region⟩, keys, held⟩
  · rintro ⟨given, ⟨signing, region⟩, keys, held⟩
    exact ⟨_, given, signing, keys, region, held, rfl⟩

theorem heard_of_ask
    (answered : client.ask service.logged request (state, log) = (result, after)) :
    ∃ exchanges, after.2 = log ++ exchanges ∧
      Heard service (client.build? request) state exchanges result after.1 :=
  heard_of_exchange answered

end Client

end Haulage.S3
