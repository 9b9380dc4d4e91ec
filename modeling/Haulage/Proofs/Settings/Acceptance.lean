import Haulage.Proofs.Settings.Loading
import Haulage.Proofs.Toml.Agreement

/-! Which documents are settings, and which settings they are. A document is read by the names of the
schema alone, so it may hold other names besides and its members may stand in any order. -/
namespace Haulage.Settings

/-- The members of the table of defaults; without a table there are none. -/
inductive HasDefaults (document : Toml.Document) : Toml.Document → Prop
  | absent (missing : document.lookup "defaults" = none) : HasDefaults document []
  | table {members : Toml.Document} (found : document.lookup "defaults" = some (.table members)) :
      HasDefaults document members

/-- The documents have the same version, and the same defaults or tables of defaults that agree on the
names of the schema. Other names, what they stand for, and the order do not count. -/
structure Alike (left right : Toml.Document) : Prop where
  version : Toml.AgreeOn ["schema_version"] left right
  defaults : Toml.AgreeOn ["defaults"] left right ∨
    ∃ inner outer, ("defaults", .table inner) ∈ left ∧ ("defaults", .table outer) ∈ right ∧
      Toml.AgreeOn ["region", "color", "quiet"] inner outer

variable {files : FileTree} {path text : String} {document members other : Toml.Document}

theorem HasDefaults.optional_eq (has : HasDefaults document members) :
    optional readDefaults .standard (document.lookup "defaults") = defaultsByName members := by
  cases has with
  | absent missing =>
    rw [missing]
    rfl
  | table found =>
    rw [found]
    rfl

theorem defaultsByName_eq_of_agreeOn {inner outer : Toml.Document}
    (agree : Toml.AgreeOn ["region", "color", "quiet"] inner outer)
    (innerDistinct : (inner.map Prod.fst).Nodup) (outerDistinct : (outer.map Prod.fst).Nodup) :
    defaultsByName inner = defaultsByName outer := by
  unfold defaultsByName
  rw [agree.lookup_eq innerDistinct outerDistinct (by simp),
    agree.lookup_eq innerDistinct outerDistinct (by simp),
    agree.lookup_eq innerDistinct outerDistinct (by simp)]

/-- Where no name stands twice, documents that are alike are read alike. -/
theorem Alike.ofDocument_eq (alike : Alike document other)
    (documentDistinct : (Toml.Value.table document).Distinct)
    (otherDistinct : (Toml.Value.table other).Distinct) : ofDocument document = ofDocument other := by
  obtain ⟨names, inside⟩ := Toml.Value.distinct_table_iff.mp documentDistinct
  obtain ⟨otherNames, otherInside⟩ := Toml.Value.distinct_table_iff.mp otherDistinct
  have version := alike.version.lookup_eq names otherNames (List.mem_singleton_self _)
  have defaults : optional readDefaults .standard (document.lookup "defaults") =
      optional readDefaults .standard (other.lookup "defaults") := by
    rcases alike.defaults with agree | ⟨inner, outer, innerMember, outerMember, agree⟩
    · rw [agree.lookup_eq names otherNames (List.mem_singleton_self _)]
    · rw [(Toml.lookup_eq_some_iff_mem names).mpr innerMember,
        (Toml.lookup_eq_some_iff_mem otherNames).mpr outerMember]
      have innerDistinct := Toml.Value.distinct_table_iff.mp (inside _ innerMember)
      have outerDistinct := Toml.Value.distinct_table_iff.mp (otherInside _ outerMember)
      exact defaultsByName_eq_of_agreeOn agree innerDistinct.1 outerDistinct.1
  unfold ofDocument
  rw [version, defaults]

/-- Two texts whose documents are alike give the same settings, wherever they are stored. -/
theorem Alike.load_eq_ok {otherFiles : FileTree} {otherPath otherText : String} {settings : Settings}
    (alike : Alike document other) (stores : Stores files path text) (spells : Spells text document)
    (held : Stores otherFiles otherPath otherText) (spelled : Spells otherText other)
    (loaded : load (some path) files = .ok settings) :
    load (some otherPath) otherFiles = .ok settings := by
  obtain ⟨fit, known⟩ := (load_eq_ok_iff stores spells).mp loaded
  have same := alike.ofDocument_eq (Toml.distinct_of_ofText? spells.read)
    (Toml.distinct_of_ofText? spelled.read)
  exact (load_eq_ok_iff held spelled).mpr ⟨same.symm.trans fit, known⟩

theorem load_eq_ok_iff_fits {settings : Settings} (stores : Stores files path text)
    (spells : Spells text document) (has : HasDefaults document members) :
    load (some path) files = .ok settings ↔
      Fits (members.lookup "region") (members.lookup "color") (members.lookup "quiet")
        settings.defaults ∧
      document.lookup "schema_version" = some (.integer settings.schemaVersion) ∧
      settings.schemaVersion ≤ 1 := by
  rw [load_eq_ok_iff stores spells, ofDocument_eq_ok_iff, has.optional_eq, defaultsByName_eq_ok_iff]
  constructor
  · rintro ⟨⟨fits, declared, -⟩, known⟩
    exact ⟨fits, declared, known⟩
  · rintro ⟨fits, declared, known⟩
    refine ⟨⟨fits, declared, ?_⟩, known⟩
    unfold greatestVersion
    omega

/-- The versions up to the current one. -/
theorem exists_version_iff {found : Option Toml.Value} :
    (∃ version : Nat, found = some (.integer version) ∧ version ≤ 1) ↔
      found = some (.integer 0) ∨ found = some (.integer 1) := by
  constructor
  · rintro ⟨version, declared, known⟩
    rcases Nat.le_one_iff_eq_zero_or_eq_one.mp known with rfl | rfl
    · exact .inl declared
    · exact .inr declared
  · rintro (zero | one)
    · exact ⟨0, zero, Nat.zero_le 1⟩
    · exact ⟨1, one, Nat.le_refl 1⟩

/-- A document whose defaults, if it has any, are a table is accepted exactly if it is of version 0 or 1
and none of the three defaults is of a wrong type; each setting is then the value for its own name, or
the standard one where there is none. Further names and another order change nothing about that. -/
theorem load_eq_ok_iff_declared (stores : Stores files path text) (spells : Spells text document)
    (has : HasDefaults document members) :
    ((∃ settings, load (some path) files = .ok settings) ↔
      (document.lookup "schema_version" = some (.integer 0) ∨
        document.lookup "schema_version" = some (.integer 1)) ∧
      WellTyped (members.lookup "region") (members.lookup "color") (members.lookup "quiet")) ∧
    (∀ settings, load (some path) files = .ok settings ↔
      document.lookup "schema_version" = some (.integer settings.schemaVersion) ∧
      settings.schemaVersion ≤ 1 ∧
      members.lookup "region" = settings.defaults.region.map .string ∧
      (members.lookup "color").getD (.string "auto") = .string settings.defaults.color ∧
      (members.lookup "quiet").getD (.boolean false) = .boolean settings.defaults.quiet) ∧
    ∀ settings, load (some path) files = .ok settings →
      ∀ {otherFiles : FileTree} {otherPath otherText : String} {other : Toml.Document},
        Stores otherFiles otherPath otherText → Spells otherText other → Alike document other →
        load (some otherPath) otherFiles = .ok settings := by
  refine ⟨?_, fun settings => ?_, ?_⟩
  · rw [← exists_version_iff, ← exists_fits_iff]
    simp only [load_eq_ok_iff_fits stores spells has]
    constructor
    · rintro ⟨settings, fits, declared⟩
      exact ⟨⟨settings.schemaVersion, declared⟩, settings.defaults, fits⟩
    · rintro ⟨⟨version, declared⟩, defaults, fits⟩
      exact ⟨⟨version, defaults⟩, fits, declared⟩
  · rw [load_eq_ok_iff_fits stores spells has]
    constructor
    · rintro ⟨fits, declared, known⟩
      exact ⟨declared, known, fits.region, fits.color, fits.quiet⟩
    · rintro ⟨declared, known, region, color, quiet⟩
      exact ⟨⟨region, color, quiet⟩, declared, known⟩
  · intro settings loaded otherFiles otherPath otherText other held spelled alike
    exact alike.load_eq_ok stores spells held spelled loaded

/-- A file of the current version that sets one of the defaults. -/
def modest : String := "schema_version=1\n[defaults]\ncolor=\"never\""

/-- The same with names that are not of the schema, at the top and among the defaults. -/
def ample : String := "new=[]\nschema_version=1\n[defaults]\nzone=2\ncolor=\"never\""

theorem modest_spells : Spells modest
    [("schema_version", .integer 1), ("defaults", .table [("color", .string "never")])] :=
  ⟨by decide +kernel, by decide +kernel⟩

theorem ample_spells : Spells ample
    [("new", .array []), ("schema_version", .integer 1),
      ("defaults", .table [("zone", .integer 2), ("color", .string "never")])] :=
  ⟨by decide +kernel, by decide +kernel⟩

theorem ample_accepted :
    Stores (holding modest) "config" modest ∧ Stores (holding ample) "config" ample ∧
    load (some "config") (holding modest) = .ok ⟨1, ⟨none, "never", false⟩⟩ ∧
    load (some "config") (holding ample) = .ok ⟨1, ⟨none, "never", false⟩⟩ := by
  have has : HasDefaults
      [("schema_version", .integer 1), ("defaults", .table [("color", .string "never")])]
      [("color", .string "never")] := .table rfl
  have stores := holding_stores modest
  have others := holding_stores ample
  obtain ⟨-, declared, same⟩ := load_eq_ok_iff_declared stores modest_spells has
  have loaded : load (some "config") (holding modest) = .ok ⟨1, ⟨none, "never", false⟩⟩ :=
    (declared _).mpr ⟨rfl, Nat.le_refl 1, rfl, rfl, rfl⟩
  refine ⟨stores, others, loaded, same _ loaded others ample_spells ⟨?_, .inr ?_⟩⟩
  · intro name known value
    rw [List.mem_singleton.mp known]
    simp
  · refine ⟨_, _, List.mem_cons_of_mem _ List.mem_cons_self,
      List.mem_cons_of_mem _ (List.mem_cons_of_mem _ List.mem_cons_self), ?_⟩
    exact .of_perm_append (List.Perm.swap ..) (by simp)

end Haulage.Settings
