import Haulage.Environment
import Haulage.S3.ContentType
import Haulage.S3.Message
import Haulage.Text.CodePoints

/-! The library through which a client speaks to a service. What it finds around a process and how it
words its complaints is its own affair. A client counts on this: variables go before anything else that
is found; a region or keys that are given go before those that are found; a request is built exactly if
there is all that it takes to address and to sign it; and secrets do not show. -/
namespace Haulage.S3

/-- Why no readable reply can come. -/
inductive Obstacle where
  | noRegion
  | noCredentials
  | emptyName
  | notAFile
  | unreadableReply
  deriving DecidableEq

/-- Where a configuration takes its region from. -/
inductive RegionSource where
  | named (region : String)
  | ambientOr (fallback : String)
  | ambient
  deriving DecidableEq

/-- The region, given the one that is found around the process. -/
def RegionSource.region (found : Option String) : RegionSource → Option String
  | .named region => some region
  | .ambientOr fallback => found.or (some fallback)
  | .ambient => found

/-- What all clients of a run are made of. -/
structure Configuration where
  region : Option String
  credentials : Option Credentials
  deriving DecidableEq

/-- The region that the variables name, one of them before the other. -/
def variableRegion? (environment : Environment) : Option String :=
  (environment.value? "AWS_REGION").or (environment.value? "AWS_DEFAULT_REGION")

structure Library where
  /-- The region found around a process: in its variables, or else wherever the library looks. -/
  region? : Environment → Option String
  /-- The keys that are found around a process. -/
  credentials? : Environment → Option Credentials
  /-- Loads a configuration, given where its region is to come from, and keys if there are any. -/
  load : Environment → RegionSource → Option Credentials → Configuration
  /-- Builds a request and signs it, or says why that cannot be done. -/
  build : Base → Option String → Option Credentials → Request → Except String Sent
  /-- The content type that the name of a file suggests. -/
  contentType? : String → Option String
  /-- The words in which an obstacle is reported. -/
  words : Obstacle → String
  variables_first : ∀ environment region,
    variableRegion? environment = some region → region? environment = some region
  load_region : ∀ environment source given,
    (load environment source given).region = source.region (region? environment)
  load_credentials : ∀ environment source given,
    (load environment source given).credentials = given.or (credentials? environment)
  build_signed : ∀ base region credentials request,
    (build base region credentials request).toOption = request.signed? base region credentials
  secret_unseen : ∀ base region (keys : Credentials) secret request,
    build base region (some (keys.withSecret secret)) request =
      build base region (some keys) request

namespace Library

theorem build_eq_ok_iff (library : Library) {base : Base} {region : Option String}
    {credentials : Option Credentials} {request : Request} {sent : Sent} :
    library.build base region credentials request = .ok sent ↔
      request.signed? base region credentials = some sent := by
  rw [← library.build_signed]
  cases library.build base region credentials request with
  | ok built =>
    exact ⟨congrArg Except.toOption, fun same => congrArg Except.ok (Option.some.inj same)⟩
  | error words => exact iff_of_false nofun nofun

private def blanks : CodePoints := .ofLines [
  "9-d 20 85 a0 1680 2000-200a 2028-2029 202f 205f 3000"]

private def filled? (value : Option String) : Option String :=
  value.filter fun text => !text.toList.all blanks.contains

/-- The keys that the variables hold; blank ones do not count. The secret one has an older name. -/
def variableCredentials? (environment : Environment) : Option Credentials := do
  let accessKeyId ← filled? (environment.value? "AWS_ACCESS_KEY_ID")
  let secretAccessKey ← filled? <| (environment.value? "AWS_SECRET_ACCESS_KEY").or
    (environment.value? "SECRET_ACCESS_KEY")
  pure {
    accessKeyId := accessKeyId
    secretAccessKey := secretAccessKey
    sessionToken := filled? (environment.value? "AWS_SESSION_TOKEN") }

/-- Builds a request, or names the obstacle. -/
def buildWith (words : Obstacle → String) (base : Base) (region : Option String)
    (credentials : Option Credentials) (request : Request) : Except String Sent :=
  if request.addressNames.contains "" then .error (words .emptyName)
  else
    match region, credentials with
    | none, _ => .error (words .noRegion)
    | some _, none => .error (words .noCredentials)
    | some region, some keys =>
      .ok ⟨base, request, region, keys.accessKeyId, keys.sessionToken⟩

/-- A library that looks at variables and nowhere else. -/
def ofVariables (words : Obstacle → String) : Library where
  region? := variableRegion?
  credentials? := variableCredentials?
  load environment source given := {
    region := source.region (variableRegion? environment)
    credentials := given.or (variableCredentials? environment) }
  build := buildWith words
  contentType? := commonContentType?
  words := words
  variables_first _ _ named := named
  load_region _ _ _ := rfl
  load_credentials _ _ _ := rfl
  build_signed base region credentials request := by
    unfold buildWith Request.signed?
    split
    · rfl
    · cases region with
      | none => rfl
      | some region => cases credentials <;> rfl
  secret_unseen _ region _ _ _ := by cases region <;> rfl

end Library

end Haulage.S3
