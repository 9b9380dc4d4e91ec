import Haulage.Proofs.Settings.Loading

/-! Settings for a newer schema. Their version is looked at when all that the current schema names has
been read, so they are known for what they are only where their defaults fit the current schema. -/
namespace Haulage.Settings

/-- What the current schema takes for the defaults: a table or a list of well-typed values, or a date,
which names none of them. -/
inductive Taken : Toml.Value → Prop
  | table {members : Toml.Document}
      (typed : WellTyped (members.lookup "region") (members.lookup "color")
        (members.lookup "quiet")) : Taken (.table members)
  | array {elements : List Toml.Value}
      (typed : WellTyped elements[0]? elements[1]? elements[2]?) : Taken (.array elements)
  | date (text : String) : Taken (.datetime text)

theorem exists_readDefaults_iff {value : Toml.Value} :
    (∃ defaults, readDefaults value = .ok defaults) ↔ Taken value := by
  cases value with
  | table members =>
    simp only [readDefaults, defaultsByName_eq_ok_iff, exists_fits_iff]
    refine ⟨.table, fun taken => ?_⟩
    cases taken with
    | table typed => exact typed
  | array elements =>
    simp only [readDefaults, defaultsByPlace_eq_ok_iff, exists_fits_iff]
    refine ⟨.array, fun taken => ?_⟩
    cases taken with
    | array typed => exact typed
  | datetime text => exact iff_of_true ⟨_, rfl⟩ (.date text)
  | string text => exact iff_of_false nofun nofun
  | integer number => exact iff_of_false nofun nofun
  | float number => exact iff_of_false nofun nofun
  | boolean switch => exact iff_of_false nofun nofun
  | beyond text => exact iff_of_false nofun nofun

theorem exists_defaults_iff {found : Option Toml.Value} :
    (∃ defaults, optional readDefaults .standard found = .ok defaults) ↔
      ∀ value, found = some value → Taken value := by
  cases found with
  | none => exact iff_of_true ⟨_, rfl⟩ nofun
  | some value =>
    simp only [optional, exists_readDefaults_iff, Option.some.injEq, forall_eq']

variable {files : FileTree} {path text : String} {document : Toml.Document} {version : Nat}

/-- Settings for a newer schema are refused for their version exactly if their defaults, where they have
any, are such as the current schema takes; otherwise they are refused as a mistake in the file. -/
theorem load_newer_iff (stores : Stores files path text) (spells : Spells text document)
    (declared : document.lookup "schema_version" = some (.integer version)) (newer : 1 < version)
    (fits : version ≤ greatestVersion) :
    (load (some path) files = .error (.configuration (.newerVersion version)) ↔
      ∀ value, document.lookup "defaults" = some value → Taken value) ∧
    ((∃ value, document.lookup "defaults" = some value ∧ ¬ Taken value) →
      ∃ mismatch, load (some path) files = .error (.settings mismatch)) := by
  have recognised (taken : ∀ value, document.lookup "defaults" = some value → Taken value) :
      load (some path) files = .error (.configuration (.newerVersion version)) := by
    obtain ⟨defaults, read⟩ := exists_defaults_iff.mpr taken
    have fit : ofDocument document = .ok ⟨version, defaults⟩ :=
      ofDocument_eq_ok_iff.mpr ⟨read, declared, fits⟩
    rw [load_of_ok stores spells fit]
    exact if_pos newer
  have mistaken (foreign : ¬ ∀ value, document.lookup "defaults" = some value → Taken value) :
      ∃ mismatch, load (some path) files = .error (.settings mismatch) := by
    cases fit : ofDocument document with
    | error mismatch => exact load_of_error stores spells fit
    | ok settings =>
      have read := (ofDocument_eq_ok_iff.mp fit).1
      exact absurd (exists_defaults_iff.mp ⟨_, read⟩) foreign
  refine ⟨⟨fun refused => Classical.byContradiction fun foreign => ?_, recognised⟩, ?_⟩
  · obtain ⟨mismatch, failed⟩ := mistaken foreign
    cases refused.symm.trans failed
  · rintro ⟨value, found, foreign⟩
    exact mistaken fun taken => foreign (taken value found)

/-- A newer file in which one of the defaults is of a type that the current schema does not take. -/
def venturous : String := "schema_version=2\n[defaults]\nquiet=\"errors\""

theorem venturous_spells : Spells venturous
    [("schema_version", .integer 2), ("defaults", .table [("quiet", .string "errors")])] :=
  ⟨by decide +kernel, by decide +kernel⟩

/-- Not every newer file is refused for its version. -/
theorem venturous_mistaken : ¬ ∀ (files : FileTree) (path text : String) (document : Toml.Document)
    (version : Nat), Stores files path text → Spells text document →
    document.lookup "schema_version" = some (.integer version) → 1 < version →
    version ≤ greatestVersion →
    load (some path) files = .error (.configuration (.newerVersion version)) := by
  intro recognised
  have stores := holding_stores venturous
  have refused := recognised _ _ _ _ 2 stores venturous_spells rfl (by decide) (by decide)
  obtain ⟨mismatch, mistaken⟩ := load_of_error stores venturous_spells rfl
  cases refused.symm.trans mistaken

/-- A newer file with nothing but its version and a name that the current schema does not have. -/
def frugal : String := "schema_version=2\nrules=[]"

theorem frugal_spells : Spells frugal [("schema_version", .integer 2), ("rules", .array [])] :=
  ⟨by decide +kernel, by decide +kernel⟩

theorem frugal_recognised :
    load (some "config") (holding frugal) = .error (.configuration (.newerVersion 2)) ∧
    ∃ mismatch, load (some "config") (holding venturous) = .error (.settings mismatch) := by
  constructor
  · have stores := holding_stores frugal
    exact (load_newer_iff stores frugal_spells rfl (by decide) (by decide)).1.mpr nofun
  · have stores := holding_stores venturous
    refine (load_newer_iff stores venturous_spells rfl (by decide) (by decide)).2 ⟨_, rfl, ?_⟩
    intro taken
    cases taken with
    | table typed =>
      obtain ⟨switch, same⟩ := typed.quiet _ rfl
      cases same

end Haulage.Settings
