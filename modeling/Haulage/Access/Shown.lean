import Haulage.Access.Options
import Haulage.Text.Record

/-! Access options and what follows from them as one line of text. The secret is never shown. -/
namespace Haulage

open Text

/-- Stands for a secret. -/
def redacted : String := "<redacted>"

def AccessOptions.shown (options : AccessOptions) : String :=
  record "AccessFlags" [
    ("use_role", .boolean options.useRole),
    ("role_name", .ofOption options.roleName),
    ("access_key_id", .ofOption options.accessKeyId),
    ("secret_access_key", .ofOption (options.secretAccessKey.map fun _ => redacted)),
    ("endpoint_url", .ofOption options.endpointUrl),
    ("region", .ofOption options.region)]

def AccessMethod.shown : AccessMethod → String
  | .role name => record "AssumeRole" [("role_name", .ofOption name)]
  | .keys accessKeyId _ =>
    record "Static" [
      ("access_key_id", .text accessKeyId), ("secret_access_key", .text redacted)]
  | .missing => "Missing"

def Endpoint.shown (endpoint : Endpoint) : String :=
  record "EndpointConfig" [
    ("endpoint_url", .ofOption endpoint.url), ("region", .ofOption endpoint.region)]

end Haulage
