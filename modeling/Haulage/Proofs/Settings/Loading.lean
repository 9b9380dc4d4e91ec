import Haulage.Proofs.Files.Leads
import Haulage.Proofs.Files.Spelling
import Haulage.Settings.Load

/-! What becomes of the text of a settings file: it is read as a document, the document against the
schema, and the version is looked at last. -/
namespace Haulage.Settings

open Files

/-- The text is this document, and each number in it has a format that holds it. -/
structure Spells (text : String) (document : Toml.Document) : Prop where
  read : Toml.Document.ofText? text = some document
  readable : holdsUnreadable document = false

/-- The path leads to a file that holds the text. -/
def Stores (files : FileTree) (path text : String) : Prop :=
  ∃ identity, files.fileAt? path = some identity ∧
    (files.files identity).content = text.toUTF8.data.toList

/-- The values for region, color and quiet are of their own types where they are not left out. -/
structure WellTyped (region color quiet : Option Toml.Value) : Prop where
  region : ∀ value, region = some value → ∃ text, value = .string text
  color : ∀ value, color = some value → ∃ text, value = .string text
  quiet : ∀ value, quiet = some value → ∃ switch, value = .boolean switch

variable {files : FileTree} {path text : String} {document : Toml.Document} {settings : Settings}

theorem load_of_stores (stores : Stores files path text) :
    load (some path) files = ofBytes text.toUTF8.data.toList := by
  obtain ⟨identity, found, held⟩ := stores
  obtain ⟨lies, looked⟩ := FileTree.fileAt?_eq_some_iff.mp found
  have read : files.read path = .ok (files.files identity).content := by
    rw [FileTree.read, looked]
    rfl
  rw [load, looked, read, held]

theorem fromUTF8?_toUTF8 (text : String) :
    String.fromUTF8? ⟨text.toUTF8.data.toList.toArray⟩ = some text :=
  dif_pos text.isValidUTF8

/-- Settings that fit the schema are refused for a newer version only. -/
theorem load_of_ok (stores : Stores files path text) (spells : Spells text document)
    (fit : ofDocument document = .ok settings) : load (some path) files = checkVersion settings := by
  rw [load_of_stores stores, ofBytes, fromUTF8?_toUTF8]
  dsimp only
  rw [ofText, spells.read]
  dsimp only
  rw [spells.readable, fit]
  rfl

/-- A document that does not fit the schema is a mistake whatever its version. -/
theorem load_of_error {mismatch : Mismatch} (stores : Stores files path text)
    (spells : Spells text document) (misfit : ofDocument document = .error mismatch) :
    ∃ reported, load (some path) files = .error (.settings reported) := by
  refine ⟨if holdsWide document then .notADocument else mismatch, ?_⟩
  rw [load_of_stores stores, ofBytes, fromUTF8?_toUTF8]
  dsimp only
  rw [ofText, spells.read]
  dsimp only
  rw [spells.readable, misfit]
  rfl

theorem load_eq_ok_iff (stores : Stores files path text) (spells : Spells text document) :
    load (some path) files = .ok settings ↔
      ofDocument document = .ok settings ∧ settings.schemaVersion ≤ currentVersion := by
  cases fit : ofDocument document with
  | error mismatch =>
    obtain ⟨reported, failed⟩ := load_of_error stores spells fit
    rw [failed]
    exact iff_of_false nofun nofun
  | ok found =>
    rw [load_of_ok stores spells fit, checkVersion]
    split
    · rename_i newer
      refine iff_of_false nofun ?_
      rintro ⟨same, known⟩
      cases same
      exact absurd known (Nat.not_le_of_lt newer)
    · rename_i known
      refine ⟨fun loaded => ?_, fun fitting => congrArg _ (Except.ok.inj fitting.1)⟩
      cases loaded
      exact ⟨rfl, Nat.le_of_not_lt known⟩

section Kinds

variable {α : Type} {make : α → Toml.Value} {found : Option Toml.Value}

private theorem exists_map_iff : (∃ kept : Option α, found = kept.map make) ↔
    ∀ value, found = some value → ∃ content, value = make content := by
  cases found with
  | none => exact iff_of_true ⟨none, rfl⟩ nofun
  | some value =>
    simp only [Option.some.injEq, forall_eq']
    constructor
    · rintro ⟨kept, same⟩
      obtain ⟨content, -, made⟩ := Option.map_eq_some_iff.mp same.symm
      exact ⟨content, made.symm⟩
    · rintro ⟨content, rfl⟩
      exact ⟨some content, rfl⟩

private theorem exists_getD_iff {fallback : α} :
    (∃ content, found.getD (make fallback) = make content) ↔
      ∀ value, found = some value → ∃ content, value = make content := by
  cases found with
  | none => exact iff_of_true ⟨fallback, rfl⟩ nofun
  | some value => simp only [Option.getD_some, Option.some.injEq, forall_eq']

end Kinds

/-- Some defaults fit the values exactly if none of these is of a wrong type. -/
theorem exists_fits_iff {region color quiet : Option Toml.Value} :
    (∃ defaults, Fits region color quiet defaults) ↔ WellTyped region color quiet := by
  constructor
  · rintro ⟨defaults, fits⟩
    exact ⟨exists_map_iff.mp ⟨_, fits.region⟩, exists_getD_iff.mp ⟨_, fits.color⟩,
      exists_getD_iff.mp ⟨_, fits.quiet⟩⟩
  · intro typed
    obtain ⟨region, placed⟩ := exists_map_iff.mpr typed.region
    obtain ⟨color, colored⟩ := exists_getD_iff.mpr typed.color
    obtain ⟨quiet, quieted⟩ := exists_getD_iff.mpr typed.quiet
    exact ⟨⟨region, color, quiet⟩, placed, colored, quieted⟩

/-- A tree with nothing but a settings file of the given text. -/
def holding (text : String) : FileTree where
  entries := [(["config"], .file 0)]
  files := fun _ => { FileTree.blankFile with content := text.toUTF8.data.toList }
  start := []

theorem holding_stores (text : String) : Stores (holding text) "config" text := by
  have spelled : Route.spell "config" = ⟨false, [.name "config"]⟩ := by decide +kernel
  have readable : Route.ofText "config" = .ok (Route.spell "config") :=
    Route.ofText_eq_ok_iff.mpr ⟨by decide, by decide, by decide⟩
  rw [spelled] at readable
  have leads : FileTree.Leads (holding text) .look FileTree.linkLimit [] [.name "config"]
      (.taken ["config"] (.file 0)) := .file ⟨by decide, by decide⟩ rfl
  have found := FileTree.find_eq_ok_iff.mpr ⟨_, readable, leads⟩
  exact ⟨0, FileTree.fileAt?_eq_some_iff.mpr ⟨_, found⟩, rfl⟩

end Haulage.Settings
