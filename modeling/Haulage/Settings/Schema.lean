import Haulage.Settings.Basic
import Haulage.Settings.Mismatch
import Haulage.Toml.Reader

/-! Settings as a document. Names outside the schema are passed over; a name of the schema holds its
own type or is left out. Of several faults the one whose name comes first is reported, and a version
that is left out last of all. -/
namespace Haulage.Settings

/-- Versions are unsigned numbers of 32 bits. -/
def greatestVersion : Int := 0xffffffff

private def readVersion (value : Toml.Value) : Except Mismatch Nat :=
  match value with
  | .integer number =>
    if 0 ≤ number ∧ number ≤ greatestVersion then .ok number.toNat
    else .error (.outOfRange number .version)
  | other => .error (.wrongType other .version)

private def readText (value : Toml.Value) : Except Mismatch String :=
  match value with
  | .string text => .ok text
  | other => .error (.wrongType other .text)

private def readSwitch (value : Toml.Value) : Except Mismatch Bool :=
  match value with
  | .boolean value => .ok value
  | other => .error (.wrongType other .switch)

/-- Reads a value that may be left out. -/
def optional {α : Type} (read : Toml.Value → Except Mismatch α) (fallback : α) :
    Option Toml.Value → Except Mismatch α
  | none => .ok fallback
  | some value => read value

/-- Defaults by name, the names in alphabetical order. -/
def defaultsByName (members : Toml.Document) : Except Mismatch Defaults := do
  let color ← optional readText Defaults.standard.color (members.lookup "color")
  let quiet ← optional readSwitch Defaults.standard.quiet (members.lookup "quiet")
  let region ← optional (fun value => some <$> readText value) Defaults.standard.region
    (members.lookup "region")
  pure { region := region, color := color, quiet := quiet }

/-- Defaults by place: region, color and quiet, any of which may be missing at the end. -/
def defaultsByPlace (elements : List Toml.Value) : Except Mismatch Defaults := do
  let region ← optional (fun value => some <$> readText value) Defaults.standard.region elements[0]?
  let color ← optional readText Defaults.standard.color elements[1]?
  let quiet ← optional readSwitch Defaults.standard.quiet elements[2]?
  pure { region := region, color := color, quiet := quiet }

/-- A date names none of the defaults. -/
def readDefaults (value : Toml.Value) : Except Mismatch Defaults :=
  match value with
  | .table members => defaultsByName members
  | .array elements => defaultsByPlace elements
  | .datetime _ => .ok .standard
  | other => .error (.wrongType other .section)

/-- Reads the document against the schema. -/
def ofDocument (document : Toml.Document) : Except Mismatch Settings := do
  let defaults ← optional readDefaults .standard (document.lookup "defaults")
  match document.lookup "schema_version" with
  | none => throw .missingVersion
  | some value => pure { schemaVersion := ← readVersion value, defaults := defaults }

private def unreadable : Toml.Value → Bool
  | .beyond _ => true
  | _ => false

private def wide : Toml.Value → Bool
  | .integer value => value < -0x8000000000000000 || 0x7fffffffffffffff < value
  | _ => false

/-- Whether the document holds a number that no format holds. -/
def holdsUnreadable (document : Toml.Document) : Bool :=
  Toml.Value.someMember unreadable document

/-- Whether the document holds a whole number of more than 64 bits. -/
def holdsWide (document : Toml.Document) : Bool :=
  Toml.Value.someMember wide document

/-- Reads settings from a text. Numbers of more than 64 bits pass where nothing reads them; a
document with such a number and any other fault counts as no document. -/
def ofText (text : String) : Except Mismatch Settings :=
  match Toml.Document.ofText? text with
  | none => .error .notADocument
  | some document =>
    if holdsUnreadable document then .error .notADocument
    else
      match ofDocument document with
      | .ok settings => .ok settings
      | .error mismatch => .error (if holdsWide document then .notADocument else mismatch)

/-! ## What is read -/

private theorem bind_eq_ok_iff {α β : Type} {result : Except Mismatch α}
    {next : α → Except Mismatch β} {value : β} :
    (result >>= next) = .ok value ↔ ∃ found, result = .ok found ∧ next found = .ok value := by
  cases result with
  | error mismatch => exact iff_of_false nofun nofun
  | ok found =>
    refine ⟨fun read => ⟨found, rfl, read⟩, ?_⟩
    rintro ⟨_, same, read⟩
    cases same
    exact read

private theorem readVersion_eq_ok_iff {value : Toml.Value} {version : Nat} :
    readVersion value = .ok version ↔ value = .integer version ∧ version ≤ greatestVersion := by
  constructor
  · intro read
    unfold readVersion at read
    split at read
    · rename_i number
      split at read
      · rename_i inside
        cases read
        rw [Int.toNat_of_nonneg inside.1]
        exact ⟨rfl, inside.2⟩
      · cases read
    · cases read
  · rintro ⟨rfl, fits⟩
    exact if_pos ⟨Int.natCast_nonneg version, fits⟩

private theorem readText_eq_ok_iff {value : Toml.Value} {text : String} :
    readText value = .ok text ↔ value = .string text := by
  cases value <;> simp [readText]

private theorem readSwitch_eq_ok_iff {value : Toml.Value} {switch : Bool} :
    readSwitch value = .ok switch ↔ value = .boolean switch := by
  cases value <;> simp [readSwitch]

private theorem optional_readText_eq_ok_iff {fallback text : String} {found : Option Toml.Value} :
    optional readText fallback found = .ok text ↔
      found.getD (.string fallback) = .string text := by
  cases found with
  | none => simp [optional]
  | some value => exact readText_eq_ok_iff

private theorem optional_readSwitch_eq_ok_iff {fallback switch : Bool} {found : Option Toml.Value} :
    optional readSwitch fallback found = .ok switch ↔
      found.getD (.boolean fallback) = .boolean switch := by
  cases found with
  | none => simp [optional]
  | some value => exact readSwitch_eq_ok_iff

private theorem optional_region_eq_ok_iff {region : Option String} {found : Option Toml.Value} :
    optional (fun value => some <$> readText value) Defaults.standard.region found = .ok region ↔
      found = region.map .string := by
  cases found with
  | none => cases region <;> simp [optional, Defaults.standard]
  | some value =>
    cases value <;> cases region <;> simp [optional, readText, Functor.map, Except.map, eq_comm]

/-- The values found for region, color and quiet are those of the defaults; one that is not found has
the standard value. -/
structure Fits (region color quiet : Option Toml.Value) (defaults : Defaults) : Prop where
  region : region = defaults.region.map .string
  color : color.getD (.string Defaults.standard.color) = .string defaults.color
  quiet : quiet.getD (.boolean Defaults.standard.quiet) = .boolean defaults.quiet

theorem defaultsByName_eq_ok_iff {members : Toml.Document} {defaults : Defaults} :
    defaultsByName members = .ok defaults ↔
      Fits (members.lookup "region") (members.lookup "color") (members.lookup "quiet")
        defaults := by
  simp only [defaultsByName, bind_eq_ok_iff, optional_readText_eq_ok_iff,
    optional_readSwitch_eq_ok_iff, optional_region_eq_ok_iff]
  constructor
  · rintro ⟨color, colored, quiet, quieted, region, placed, same⟩
    cases same
    exact ⟨placed, colored, quieted⟩
  · rintro ⟨placed, colored, quieted⟩
    exact ⟨_, colored, _, quieted, _, placed, rfl⟩

theorem defaultsByPlace_eq_ok_iff {elements : List Toml.Value} {defaults : Defaults} :
    defaultsByPlace elements = .ok defaults ↔
      Fits elements[0]? elements[1]? elements[2]? defaults := by
  simp only [defaultsByPlace, bind_eq_ok_iff, optional_readText_eq_ok_iff,
    optional_readSwitch_eq_ok_iff, optional_region_eq_ok_iff]
  constructor
  · rintro ⟨region, placed, color, colored, quiet, quieted, same⟩
    cases same
    exact ⟨placed, colored, quieted⟩
  · rintro ⟨placed, colored, quieted⟩
    exact ⟨_, placed, _, colored, _, quieted, rfl⟩

theorem ofDocument_eq_ok_iff {document : Toml.Document} {settings : Settings} :
    ofDocument document = .ok settings ↔
      optional readDefaults .standard (document.lookup "defaults") = .ok settings.defaults ∧
        document.lookup "schema_version" = some (.integer settings.schemaVersion) ∧
        settings.schemaVersion ≤ greatestVersion := by
  rw [ofDocument, bind_eq_ok_iff]
  cases document.lookup "schema_version" with
  | none =>
    refine iff_of_false ?_ nofun
    rintro ⟨defaults, -, failed⟩
    cases failed
  | some value =>
    simp only [bind_eq_ok_iff, readVersion_eq_ok_iff, Option.some.injEq]
    constructor
    · rintro ⟨defaults, fit, version, declared, same⟩
      cases same
      exact ⟨fit, declared⟩
    · rintro ⟨fit, declared⟩
      exact ⟨settings.defaults, fit, settings.schemaVersion, declared, rfl⟩

end Haulage.Settings
