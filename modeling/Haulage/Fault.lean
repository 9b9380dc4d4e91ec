import Haulage.Files.Fault
import Haulage.Settings.Basic
import Haulage.Settings.Mismatch
import Haulage.Storage.Path
import Haulage.Url.Error

/-! Why a run fails: one cause for each way, and its words. Every kind also takes words that come
from elsewhere. -/
namespace Haulage

/-- Options that contradict each other or leave out what a remote destination needs. -/
inductive UsageFault where
  | roleWithOtherAccess
  | halfKeyPair
  | noMethod
  | roleNameWithKeyPair
  | reported (words : String)
  deriving DecidableEq

inductive ConfigurationFault where
  | newerVersion (version : Nat)
  | noMethod
  | reported (words : String)
  deriving DecidableEq

inductive ResolutionFault where
  | identityLookup (reason : String)
  | noAccount
  | assumption (arn reason : String)
  | noCredentials (arn : String)
  | reported (words : String)
  deriving DecidableEq

inductive NotFoundFault where
  | source (text : String)
  | reported (words : String)
  deriving DecidableEq

/-- A call to a remote store that failed, or a deletion that left objects behind. -/
inductive RemoteFault where
  | listing (path : RemotePath) (reason : String)
  | deleting (bucket reason : String)
  | uploading (path : RemotePath) (reason : String)
  | leftBehind (bucket : String) (left requested : Nat) (firstKey firstReason : String)
  | reported (words : String)
  deriving DecidableEq

inductive Fault where
  | usage (cause : UsageFault)
  | configuration (cause : ConfigurationFault)
  | resolution (cause : ResolutionFault)
  | notFound (cause : NotFoundFault)
  | remote (cause : RemoteFault)
  | disk (cause : Files.Fault)
  | settings (cause : Settings.Mismatch)
  | url (cause : Url.Error)

def UsageFault.message : UsageFault → String
  | .roleWithOtherAccess =>
    "When using IAM role (--use_role), access key, secret, and endpoint URL should not be specified."
  | .halfKeyPair =>
    "Both --aws_access_key_id and --aws_secret_access_key must be provided when using access key " ++
      "authentication."
  | .noMethod =>
    "Either --use_role or both --aws_access_key_id and --aws_secret_access_key must be provided " ++
      "for S3 operations."
  | .roleNameWithKeyPair =>
    "When using a specific role (--role_name), access key and secret should not be specified."
  | .reported words => words

def ConfigurationFault.message : ConfigurationFault → String
  | .newerVersion version =>
    "Configuration file version " ++ toString version ++ " is newer than supported version " ++
      toString Settings.currentVersion ++ ". Please upgrade objmove."
  | .noMethod => "no valid authentication method supplied"
  | .reported words => words

def ResolutionFault.message : ResolutionFault → String
  | .identityLookup reason => "caller identity lookup failed: " ++ reason
  | .noAccount => "caller identity has no account id"
  | .assumption arn reason => "assuming role " ++ arn ++ " failed: " ++ reason
  | .noCredentials arn => "assuming role " ++ arn ++ " returned no credentials"
  | .reported words => words

def NotFoundFault.message : NotFoundFault → String
  | .source text => "source file '" ++ text ++ "' does not exist or is not a file"
  | .reported words => words

def RemoteFault.message : RemoteFault → String
  | .listing path reason => "listing " ++ path.fullPath ++ ": " ++ reason
  | .deleting bucket reason => "deleting from bucket " ++ bucket ++ ": " ++ reason
  | .uploading path reason => "uploading to " ++ path.fullPath ++ ": " ++ reason
  | .leftBehind bucket left requested firstKey firstReason =>
    toString left ++ " of " ++ toString requested ++ " objects in bucket " ++ bucket ++
      " could not be deleted (first: " ++ firstKey ++ ": " ++ firstReason ++ ")"
  | .reported words => words

namespace Fault

def message : Fault → String
  | .usage cause => cause.message
  | .configuration cause => "Configuration error: " ++ cause.message
  | .resolution cause => "Credential resolution failed: " ++ cause.message
  | .notFound cause => "Not found: " ++ cause.message
  | .remote cause => "Remote operation failed: " ++ cause.message
  | .disk cause => "IO error: " ++ cause.message
  | .settings cause => "TOML parse error: " ++ cause.message
  | .url cause => "Invalid URL: " ++ cause.message

/-- Whether the fault lies in how the command was called. -/
def isUsage : Fault → Bool
  | .usage _ => true
  | .url _ => true
  | _ => false

end Fault

end Haulage
