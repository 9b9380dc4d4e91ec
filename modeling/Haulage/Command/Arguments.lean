import Haulage.Command.Options
import Haulage.Command.Tool

/-! The arguments of a command. Options have long names, two dashes in front; a value follows an
equals sign or is the next argument. A few switches have a letter of their own, and letters may share
one dash. After two dashes alone every argument is told by its place. No option is given twice. -/
namespace Haulage

/-- Options that are there or not. -/
inductive Switch where
  | useRole
  | json
  | noColor
  | quiet
  | debug
  deriving DecidableEq

/-- Options with a value. -/
inductive Field where
  | roleName
  | accessKeyId
  | secretAccessKey
  | endpointUrl
  | region
  deriving DecidableEq

def Switch.name : Switch → String
  | .useRole => "use_role"
  | .json => "json"
  | .noColor => "no-color"
  | .quiet => "quiet"
  | .debug => "debug"

def Field.name : Field → String
  | .roleName => "role_name"
  | .accessKeyId => "aws_access_key_id"
  | .secretAccessKey => "aws_secret_access_key"
  | .endpointUrl => "endpoint_url"
  | .region => "region"

/-- What a name on the command line stands for. -/
inductive Named where
  | switch (switch : Switch)
  | field (field : Field)
  | help
  | version
  deriving DecidableEq

/-- Why there is nothing to run; the last two were asked for. -/
inductive ArgumentFault where
  | unknownArgument
  | repeatedArgument
  | missingValue
  | unexpectedValue
  | missingArgument
  | help
  | version
  deriving DecidableEq

namespace ArgumentFault

def isRequest : ArgumentFault → Bool
  | .help => true
  | .version => true
  | _ => false

/-- The number with which the run ends. -/
def exitNumber (fault : ArgumentFault) : Nat :=
  if fault.isRequest then 0 else 2

end ArgumentFault

/-- A command line as it is understood. -/
structure Invocation where
  access : AccessOptions
  report : ReportOptions
  places : List String
  deriving DecidableEq

namespace Arguments

def switches : List Switch := [.useRole, .json, .noColor, .quiet, .debug]

def fields : List Field := [.roleName, .accessKeyId, .secretAccessKey, .endpointUrl, .region]

/-- The long names. -/
def longNames : List (String × Named) :=
  switches.map (fun switch => (switch.name, .switch switch)) ++
    fields.map (fun field => (field.name, .field field)) ++
      [("help", .help), ("version", .version)]

/-- The letters. -/
def letters : List (Char × Named) := [('q', .switch .quiet), ('h', .help), ('V', .version)]

/-- What is understood so far. A value that follows its option belongs to it only when something else
is understood after it. -/
structure Progress where
  switches : List Switch
  values : List (Field × String)
  places : List String
  pending : Option (Field × Option String)
  deriving DecidableEq

abbrev Result := Except ArgumentFault

namespace Progress

def empty : Progress := { switches := [], values := [], places := [], pending := none }

/-- Gives an option its value. -/
def record (progress : Progress) (field : Field) (value : String) : Result Progress :=
  if (progress.values.lookup field).isSome then .error .repeatedArgument
  else .ok { progress with values := progress.values ++ [(field, value)] }

/-- Settles the option that a value was expected for. -/
def settle (progress : Progress) : Result Progress :=
  match progress.pending with
  | none => .ok progress
  | some (_, none) => .error .missingValue
  | some (field, some value) => { progress with pending := none }.record field value

def turnOn (progress : Progress) (switch : Switch) : Result Progress :=
  if progress.switches.contains switch then .error .repeatedArgument
  else .ok { progress with switches := progress.switches ++ [switch] }

/-- An argument told by its place; there are only so many places. -/
def place (limit : Nat) (progress : Progress) (text : String) : Result Progress :=
  if progress.places.length < limit then do
    let progress ← progress.settle
    pure { progress with places := progress.places ++ [text] }
  else .error .unknownArgument

/-- A name without a value attached to it. -/
def mention (progress : Progress) (named : Named) : Result Progress := do
  let progress ← progress.settle
  match named with
  | .switch switch => progress.turnOn switch
  | .field field => pure { progress with pending := some (field, none) }
  | .help => throw .help
  | .version => throw .version

/-- A long name, after its two dashes. -/
def long (progress : Progress) (text : List Char) : Result Progress :=
  let name := String.ofList (text.takeWhile (· != '='))
  match longNames.lookup name, text.dropWhile (· != '=') with
  | none, _ => .error .unknownArgument
  | some named, [] => progress.mention named
  | some (.field field), _ :: value => do
    let progress ← progress.settle
    progress.record field (String.ofList value)
  | some _, _ => .error .unexpectedValue

/-- Letters that share a dash, one after the other. -/
def short : Progress → List Char → Result Progress
  | progress, [] => .ok progress
  | progress, letter :: rest =>
    match letters.lookup letter with
    | none => .error .unknownArgument
    | some named => do short (← progress.mention named) rest

/-- An argument that is no name: a value if one is expected, otherwise told by its place. -/
def plain (limit : Nat) (progress : Progress) (text : String) : Result Progress :=
  match progress.pending with
  | some (field, none) => .ok { progress with pending := some (field, some text) }
  | _ => progress.place limit text

/-- Reads the arguments in order; `placed` says whether two dashes alone came before. -/
def read (limit : Nat) (placed : Bool) : Progress → List String → Result Progress
  | progress, [] => progress.settle
  | progress, argument :: rest =>
    if placed then do read limit true (← progress.place limit argument) rest
    else
      match argument.toList with
      | ['-', '-'] => read limit true progress rest
      | '-' :: '-' :: text => do read limit false (← progress.long text) rest
      | '-' :: letter :: more => do read limit false (← progress.short (letter :: more)) rest
      | _ => do read limit false (← progress.plain limit argument) rest

/-- The command line that was read. -/
def invocation (progress : Progress) : Invocation where
  access := {
    useRole := progress.switches.contains .useRole
    roleName := progress.values.lookup .roleName
    accessKeyId := progress.values.lookup .accessKeyId
    secretAccessKey := progress.values.lookup .secretAccessKey
    endpointUrl := progress.values.lookup .endpointUrl
    region := progress.values.lookup .region }
  report := {
    json := progress.switches.contains .json
    noColor := progress.switches.contains .noColor
    quiet := progress.switches.contains .quiet
    debug := progress.switches.contains .debug }
  places := progress.places

end Progress

/-- Understands the arguments of a tool; every place has to be filled. -/
def parse (tool : Tool) (arguments : List String) : Except ArgumentFault Invocation := do
  let progress ← Progress.empty.read tool.places.length false arguments
  if progress.places.length < tool.places.length then throw .missingArgument
  pure progress.invocation

end Arguments

end Haulage
