import Haulage.Proofs.Files.Change
import Haulage.Proofs.Files.Leads

/-! Trees that gain entries and lose none. Whatever a text named in the smaller tree it names in the
larger one. -/
namespace Haulage.FileTree

open Files

/-- What lies somewhere stays there, and relative paths begin where they did. -/
structure Grows (before after : FileTree) : Prop where
  start : after.start = before.start
  kept : ∀ location entry, before.get? location = some entry → after.get? location = some entry

theorem Grows.refl (tree : FileTree) : Grows tree tree := ⟨rfl, fun _ _ found => found⟩

theorem Grows.trans {before middle after : FileTree} (first : Grows before middle)
    (last : Grows middle after) : Grows before after :=
  ⟨last.start.trans first.start,
    fun location entry found => last.kept location entry (first.kept location entry found)⟩

theorem grows_insert {tree : FileTree} {location : Location} (absent : tree.get? location = none)
    (entry : Entry) : Grows tree (tree.insert location entry) := by
  refine ⟨rfl, fun other kept found => ?_⟩
  rw [get?_insert_of_ne]
  · exact found
  · rintro rfl
    cases absent.symm.trans found

theorem grows_setFile (tree : FileTree) (identity : Nat) (record : FileRecord) :
    Grows tree (tree.setFile identity record) :=
  ⟨rfl, fun _ _ found => found⟩

/-- A walk meets in the larger tree everything it met in the smaller one. -/
theorem Leads.grow {before after : FileTree} {purpose : Purpose} {links : Nat}
    {location lies : Location} {steps : List Step} {entry : Entry}
    (leads : Leads before purpose links location steps (.taken lies entry))
    (grows : Grows before after) : Leads after purpose links location steps (.taken lies entry) := by
  generalize same : Place.taken lies entry = reached at leads ⊢
  induction leads with
  | arrived => exact .arrived
  | here _ ih => exact .here (ih same)
  | closing _ ih => exact .closing (ih same)
  | up _ ih => exact .up (ih same)
  | vacant => cases same
  | vacantDirectory => cases same
  | entered passable found _ ih => exact .entered passable (grows.kept _ _ found) (ih same)
  | file passable found => exact .file passable (grows.kept _ _ found)
  | link passable peeking found => exact .link passable peeking (grows.kept _ _ found)
  | followed passable found through _ ih =>
    exact .followed passable (grows.kept _ _ found) through (ih same)

/-- What is put under a free name is what the steps then lead to. -/
theorem Leads.insert {tree : FileTree} {purpose : Purpose} {links : Nat}
    {location parent : Location} {steps : List Step} {name : String}
    (leads : Leads tree purpose links location steps (.free parent name false)) (identity : Nat) :
    Leads (tree.insert (parent ++ [name]) (.file identity)) purpose links location steps
      (.taken (parent ++ [name]) (.file identity)) := by
  have grows := grows_insert leads.seen.1 (.file identity)
  generalize same : Place.free parent name false = reached at leads
  induction leads with
  | arrived => cases same
  | here _ ih => exact .here (ih same)
  | closing _ ih => exact .closing (ih same)
  | up _ ih => exact .up (ih same)
  | vacant passable =>
    cases same
    exact .file passable (get?_insert_self tree (by simp) _)
  | vacantDirectory => cases same
  | entered passable found _ ih => exact .entered passable (grows.kept _ _ found) (ih same)
  | file => cases same
  | link => cases same
  | followed passable found through _ ih =>
    exact .followed passable (grows.kept _ _ found) through (ih same)

/-- A text leads to what it led to. -/
theorem Grows.find {before after : FileTree} {purpose : Purpose} {text : String} {lies : Location}
    {entry : Entry} (grows : Grows before after)
    (found : before.find purpose text = .ok (lies, entry)) :
    after.find purpose text = .ok (lies, entry) := by
  obtain ⟨route, readable, leads⟩ := find_eq_ok_iff.mp found
  refine find_eq_ok_iff.mpr ⟨route, readable, ?_⟩
  rw [grows.start]
  exact leads.grow grows

/-- A file keeps every text that led to it. -/
theorem Grows.fileAt? {before after : FileTree} {text : String} {identity : Nat}
    (grows : Grows before after) (found : before.fileAt? text = some identity) :
    after.fileAt? text = some identity := by
  obtain ⟨lies, looked⟩ := fileAt?_eq_some_iff.mp found
  exact fileAt?_eq_some_iff.mpr ⟨lies, grows.find looked⟩

open Change

theorem perform_putNew (parent : Location) (name : String) (entry : Entry) (tree : FileTree) :
    (putNew parent name entry).perform tree =
      if tree.get? parent = some .directory then (.ok (), tree.insert (parent ++ [name]) entry)
      else (.error (.system .missing), tree) := by
  rw [putNew, perform_get_bind]
  split
  · rfl
  · rfl

end Haulage.FileTree
