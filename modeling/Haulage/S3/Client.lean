import Haulage.S3.Service
import Haulage.Storage.Store
import Haulage.Text.Trim

/-! A remote store over the service. Each call is one request, save that deleting nothing asks for
nothing; a deletion that leaves any object behind fails. -/
namespace Haulage.S3

/-- What every request of a client has in common. -/
structure Client where
  endpoint : Option String
  region : Option String
  credentials : Option Credentials
  deriving DecidableEq

variable {σ : Type}

/-- Builds and sends a request; gives the reply, or the reason why there is none. -/
def exchange (service : Service σ) (base : Base) (region : Option String)
    (credentials : Option Credentials) (request : Request) (state : σ) : Except String Reply × σ :=
  match service.build base region credentials request with
  | .error words => (.error words, state)
  | .ok sent =>
    match service.exchange sent state with
    | (.failed words, state) => (.error words, state)
    | (reply, state) => (.ok reply, state)

namespace Client

def base (client : Client) : Base :=
  match client.endpoint with
  | some url => .endpoint url
  | none => .storage

/-- Sends a request to the storage service. -/
def ask (service : Service σ) (client : Client) (request : Request) (state : σ) :
    Except String Reply × σ :=
  exchange service client.base client.region client.credentials request state

private def unquoted (etag : String) : String :=
  String.ofList (Text.dropAround '"' etag.toList)

/-- Times that have a date of four digits, in seconds. -/
def datable (seconds : Int) : Bool :=
  decide (-377705023201 ≤ seconds ∧ seconds ≤ 253402207200)

/-- What a listing says of an object; nothing of one without a key. -/
def describe? (object : ListedObject) : Option ObjectInfo :=
  object.key.map fun key =>
    { ObjectInfo.file key (object.size.getD 0) with
      lastModified := object.lastModified.filter datable
      etag := object.etag.map unquoted }

/-- The failure of a deletion, if any object was refused. -/
def leftBehind? (bucket : String) (requested : Nat) (refusals : List Refusal) :
    Option RemoteFault :=
  refusals.head?.map fun first =>
    .leftBehind bucket refusals.length requested (first.key.getD "")
      ((first.message.or first.code).getD "unknown error")

/-- The client as a store. -/
def store (service : Service σ) (client : Client) : Store σ where
  list path options state :=
    let request := Request.list path.bucket (if path.key = "" then none else some path.key)
      options.maxKeys options.token
    match ask service client request state with
    | (.ok (.listed objects truncated token), state) =>
      (.ok {
        items := objects.filterMap describe?
        truncated := truncated.getD false
        token := token }, state)
    | (.ok _, state) => (.error (.remote (.listing path (service.words .unreadableReply))), state)
    | (.error reason, state) => (.error (.remote (.listing path reason)), state)
  delete bucket keys state :=
    if keys = [] then (.ok [], state)
    else
      match ask service client (.delete bucket keys) state with
      | (.ok (.deleted gone refusals), state) =>
        match leftBehind? bucket keys.length refusals with
        | some cause => (.error (.remote cause), state)
        | none => (.ok (gone.filterMap id), state)
      | (.ok _, state) =>
        (.error (.remote (.deleting bucket (service.words .unreadableReply))), state)
      | (.error reason, state) => (.error (.remote (.deleting bucket reason)), state)
  put path source files state :=
    match files.look source with
    | .error fault => (.error (.disk fault), state)
    | .ok (_, .file identity) =>
      let content := (files.files identity).content
      let request := Request.put path.bucket path.key (service.contentType? source) content
      match ask service client request state with
      | (.ok (.stored etag), state) =>
        (.ok { ObjectInfo.file path.key content.length with
          lastModified := some (service.clock state)
          etag := etag.map unquoted }, state)
      | (.ok _, state) =>
        (.error (.remote (.uploading path (service.words .unreadableReply))), state)
      | (.error reason, state) => (.error (.remote (.uploading path reason)), state)
    | .ok _ => (.error (.remote (.uploading path (service.words .notAFile))), state)

end Client

end Haulage.S3
