/-! What goes to and fro between a client and a service: signed requests, and replies with fields that
may be left out. -/
namespace Haulage.S3

/-- A pair of keys, with the token of a session if they were issued for one. -/
structure Credentials where
  accessKeyId : String
  secretAccessKey : String
  sessionToken : Option String
  deriving DecidableEq

def Credentials.withSecret (credentials : Credentials) (secret : String) : Credentials :=
  { credentials with secretAccessKey := secret }

inductive Request where
  | list (bucket : String) (keyPrefix : Option String) (maxKeys : Option Int)
      (token : Option String)
  | delete (bucket : String) (keys : List String)
  /-- A content type is only given where one is known. -/
  | put (bucket key : String) (contentType : Option String) (content : List UInt8)
  | callerIdentity
  | assumeRole (arn session : String)
  deriving DecidableEq

/-- Names that a request puts into its address; none of them may be empty. -/
def Request.addressNames : Request → List String
  | .list bucket _ _ _ => [bucket]
  | .delete bucket _ => [bucket]
  | .put bucket key _ _ => [bucket, key]
  | .callerIdentity => []
  | .assumeRole _ _ => []

/-- Where requests are sent: an endpoint of one's own, or the usual ones for storage and for
tokens. -/
inductive Base where
  | endpoint (url : String)
  | storage
  | tokens
  deriving DecidableEq

/-- A request with what it is signed for. It stands for one operation as it is asked for: if it is sent
again because an attempt has failed, that is the same operation. -/
structure Sent where
  base : Base
  request : Request
  region : String
  accessKeyId : String
  sessionToken : Option String
  deriving DecidableEq

/-- A request with a region and keys to sign it with; none without them, or if its address cannot be
made. -/
def Request.signed? (request : Request) (base : Base) (region : Option String)
    (credentials : Option Credentials) : Option Sent :=
  if request.addressNames.contains "" then none
  else
    match region, credentials with
    | some region, some keys => some ⟨base, request, region, keys.accessKeyId, keys.sessionToken⟩
    | _, _ => none

theorem Request.signed?_eq_some_iff {request : Request} {base : Base} {region : Option String}
    {credentials : Option Credentials} {sent : Sent} :
    request.signed? base region credentials = some sent ↔
      request.addressNames.contains "" = false ∧ ∃ signing keys, region = some signing ∧
        credentials = some keys ∧
          sent = ⟨base, request, signing, keys.accessKeyId, keys.sessionToken⟩ := by
  unfold signed?
  split
  · rename_i empty
    exact iff_of_false nofun fun ⟨named, _⟩ => nomatch empty.symm.trans named
  · rename_i named
    rw [Bool.not_eq_true] at named
    match region, credentials with
    | none, _ => exact iff_of_false nofun fun ⟨_, _, _, signing, _⟩ => nomatch signing
    | some _, none => exact iff_of_false nofun fun ⟨_, _, _, _, held, _⟩ => nomatch held
    | some signing, some keys =>
      refine ⟨fun same => ⟨named, signing, keys, rfl, rfl, (Option.some.inj same).symm⟩, ?_⟩
      rintro ⟨-, _, _, signed, held, rfl⟩
      cases signed
      cases held
      rfl

structure ListedObject where
  key : Option String
  size : Option Int
  lastModified : Option Int
  etag : Option String
  deriving DecidableEq

/-- Why one object of a deletion is still there. -/
structure Refusal where
  key : Option String
  code : Option String
  message : Option String
  deriving DecidableEq

/-- An operation fails, or is answered with fields that may be left out. -/
inductive Reply where
  | failed (words : String)
  | listed (objects : List ListedObject) (truncated : Option Bool) (token : Option String)
  | deleted (keys : List (Option String)) (refusals : List Refusal)
  | stored (etag : Option String)
  | identified (account : Option String)
  | assumed (credentials : Option Credentials)
  deriving DecidableEq

end Haulage.S3
