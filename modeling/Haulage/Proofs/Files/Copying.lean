import Haulage.Proofs.Files.Growth

/-! Opening a file to write and copying another one into it. A file that is in use can only lose its
bytes to a text that leads to it. -/
namespace Haulage.FileTree

open Files Change

/-- Some name leads to the file. -/
def InUse (tree : FileTree) (identity : Nat) : Prop :=
  ∃ location, tree.get? location = some (.file identity)

theorem inUse_of_fileAt? {tree : FileTree} {text : String} {identity : Nat}
    (found : tree.fileAt? text = some identity) : tree.InUse identity := by
  obtain ⟨lies, looked⟩ := fileAt?_eq_some_iff.mp found
  obtain ⟨route, readable, leads⟩ := find_eq_ok_iff.mp looked
  exact ⟨lies, leads.seen⟩

theorem InUse.ne_freshIdentity {tree : FileTree} {identity : Nat} (used : tree.InUse identity) :
    identity ≠ tree.freshIdentity := by
  obtain ⟨location, found⟩ := used
  rw [get?] at found
  split at found
  · cases found
  · obtain ⟨earlier, later, same, _⟩ := List.lookup_eq_some_iff.mp found
    have member : (location, .file identity) ∈ tree.entries := by simp [same]
    exact Nat.ne_of_lt (lt_freshIdentity member)

/-- Growth by one file at most, the one that the text leads to afterwards. No other file changes. -/
structure Writes (text : String) (written : Nat) (before after : FileTree) : Prop
    extends Grows before after where
  files : ∀ identity, identity ≠ written → after.files identity = before.files identity
  gained : ∃ place, after.look text = .ok (place, .file written) ∧
    ∀ location entry, after.get? location = some entry →
      before.get? location = some entry ∨ location = place ∧ entry = .file written

namespace Writes

variable {before after : FileTree} {text : String} {written : Nat}

theorem fileAt? (writes : Writes text written before after) : after.fileAt? text = some written := by
  obtain ⟨place, looked, -⟩ := writes.gained
  exact fileAt?_eq_some_iff.mpr ⟨place, looked⟩

theorem setFile (writes : Writes text written before after) (record : FileRecord) :
    Writes text written before (after.setFile written record) := by
  obtain ⟨place, looked, only⟩ := writes.gained
  have grows := grows_setFile after written record
  refine ⟨writes.toGrows.trans grows, fun identity other => ?_, place, grows.find looked, only⟩
  rw [files_setFile_of_ne _ other]
  exact writes.files identity other

end Writes

/-- There is a file to write to, or a directory that has the name free. -/
def Accepts (tree : FileTree) (text : String) : Prop :=
  (∃ identity, tree.fileAt? text = some identity) ∨
    ∃ parent name, tree.place .write text = .ok (.free parent name false) ∧
      tree.get? parent = some .directory

/-- What opening a file to write gives, and the tree after it. -/
inductive Opened (tree : FileTree) (text : String) (mode : Nat) : Except Fault Nat × FileTree → Prop
  | failed (fault : Fault) (shut : ¬ tree.Accepts text) : Opened tree text mode (.error fault, tree)
  | emptied {identity : Nat} (found : tree.fileAt? text = some identity) :
      Opened tree text mode
        (.ok identity, tree.setFile identity { tree.files identity with content := [] })
  | made {parent : Location} {name : String}
      (free : tree.place .write text = .ok (.free parent name false))
      (standing : tree.get? parent = some .directory) :
      Opened tree text mode
        (.ok tree.freshIdentity,
          (tree.insert (parent ++ [name]) (.file tree.freshIdentity)).setFile tree.freshIdentity
            { blankFile with mode := mode })

private theorem fileAt?_eq_none_of_place {tree : FileTree} {text : String}
    {placed : Except Fault Place} (found : tree.place .write text = placed)
    (other : ∀ lies identity, placed ≠ .ok (.taken lies (.file identity))) :
    tree.fileAt? text = none := by
  refine Option.eq_none_iff_forall_ne_some.mpr fun identity led => ?_
  obtain ⟨lies, taken⟩ := fileAt?_eq_some_iff_write.mp led
  exact other lies identity (found.symm.trans taken)

private theorem not_accepts_of_place {tree : FileTree} {text : String}
    {placed : Except Fault Place} (found : tree.place .write text = placed)
    (other : ∀ lies identity, placed ≠ .ok (.taken lies (.file identity)))
    (closed : ∀ parent name, placed = .ok (.free parent name false) →
      tree.get? parent ≠ some .directory) : ¬ tree.Accepts text := by
  rintro (⟨identity, led⟩ | ⟨parent, name, free, standing⟩)
  · cases (fileAt?_eq_none_of_place found other).symm.trans led
  · exact closed parent name (found.symm.trans free) standing

theorem openToWrite_opened (text : String) (mode : Nat) (tree : FileTree) :
    Opened tree text mode ((openToWrite text mode).perform tree) := by
  rw [openToWrite, perform_get_bind, perform_liftM_bind]
  match placed : tree.place .write text with
  | .error fault => exact .failed fault (not_accepts_of_place placed nofun nofun)
  | .ok (.taken lies .directory) => exact .failed _ (not_accepts_of_place placed nofun nofun)
  | .ok (.taken lies (.link target)) => exact .failed _ (not_accepts_of_place placed nofun nofun)
  | .ok (.taken lies (.file identity)) =>
    exact .emptied (fileAt?_eq_some_iff_write.mpr ⟨lies, placed⟩)
  | .ok (.free parent name asDirectory) =>
    dsimp only
    rw [perform_bind, perform_putNew]
    by_cases standing : tree.get? parent = some .directory
    · rw [if_pos standing]
      obtain ⟨route, readable, leads⟩ := place_eq_ok_iff.mp placed
      cases leads.seen.2 rfl
      exact .made placed standing
    · rw [if_neg standing]
      refine .failed _ (not_accepts_of_place placed nofun fun upper last same => ?_)
      cases same
      exact standing

namespace Opened

variable {tree after : FileTree} {text : String} {mode identity : Nat}
  {result : Except Fault Nat × FileTree}

theorem eq_of_error {fault : Fault} (opened : Opened tree text mode (.error fault, after)) :
    after = tree := by
  cases opened
  rfl

theorem exists_ok_iff (opened : Opened tree text mode result) :
    (∃ identity, result.1 = .ok identity) ↔ tree.Accepts text := by
  cases opened with
  | failed _ shut => exact iff_of_false nofun shut
  | emptied found => exact iff_of_true ⟨_, rfl⟩ (.inl ⟨_, found⟩)
  | made free standing => exact iff_of_true ⟨_, rfl⟩ (.inr ⟨_, _, free, standing⟩)

/-- What has been opened is what the text leads to. -/
theorem writes (opened : Opened tree text mode (.ok identity, after)) :
    Writes text identity tree after := by
  cases opened with
  | emptied found =>
    obtain ⟨place, looked⟩ := fileAt?_eq_some_iff.mp found
    exact .setFile ⟨.refl tree, fun _ _ => rfl, place, looked, fun _ _ kept => .inl kept⟩ _
  | @made parent name free standing =>
    obtain ⟨route, readable, leads⟩ := place_eq_ok_iff.mp free
    refine .setFile ⟨grows_insert leads.seen.1 _, fun _ _ => rfl, parent ++ [name], ?_, ?_⟩ _
    · exact look_eq_ok_file_iff.mpr (place_eq_ok_iff.mpr ⟨route, readable, leads.insert _⟩)
    · intro location entry found
      by_cases here : location = parent ++ [name]
      · subst here
        rw [get?_insert_self tree (by simp)] at found
        exact .inr ⟨rfl, (Option.some.inj found).symm⟩
      · rw [get?_insert_of_ne tree here] at found
        exact .inl found

/-- A file in use is neither opened nor changed unless the text leads to it. -/
theorem files_eq (opened : Opened tree text mode result) (used : tree.InUse identity)
    (apart : tree.fileAt? text ≠ some identity) :
    result.1 ≠ .ok identity ∧ result.2.files identity = tree.files identity := by
  cases opened with
  | failed => exact ⟨nofun, rfl⟩
  | emptied found =>
    have other : identity ≠ _ := fun same => apart (same ▸ found)
    exact ⟨fun same => other (Except.ok.inj same).symm, files_setFile_of_ne _ other _⟩
  | made =>
    have other := used.ne_freshIdentity
    exact ⟨fun same => other (Except.ok.inj same).symm, files_setFile_of_ne _ other _⟩

/-- A file that the text leads to is opened, and empty then. -/
theorem of_fileAt? (opened : Opened tree text mode result)
    (found : tree.fileAt? text = some identity) :
    result = (.ok identity, tree.setFile identity { tree.files identity with content := [] }) := by
  cases opened with
  | failed _ shut => exact absurd (.inl ⟨_, found⟩) shut
  | emptied led =>
    cases led.symm.trans found
    rfl
  | made free => cases (fileAt?_eq_none_of_place free nofun).symm.trans found

end Opened

/-! ## Copying -/

/-- What copying gives once the source is found, and the tree after it. The bytes are read when the
target is open already. -/
inductive Filled (tree : FileTree) (origin : Nat) (target : String) (before : FileRecord) :
    Except Fault Nat × FileTree → Prop
  | unopened {fault : Fault} {after : FileTree}
      (opened : Opened tree target (tree.files origin).mode (.error fault, after)) :
      Filled tree origin target before (.error fault, after)
  | written {identity : Nat} {emptied : FileTree}
      (opened : Opened tree target (tree.files origin).mode (.ok identity, emptied)) :
      Filled tree origin target before
        (.ok (emptied.files origin).content.length,
          emptied.setFile identity
            { content := (emptied.files origin).content
              mode := (emptied.files origin).mode
              modified := before.modified
              accessed := before.accessed })

theorem copy_filled {source : String} {tree : FileTree} {origin : Nat}
    (found : tree.fileAt? source = some origin) (target : String) (before : FileRecord) :
    Filled tree origin target before ((copy source target before).perform tree) := by
  obtain ⟨lies, looked⟩ := fileAt?_eq_some_iff.mp found
  rw [copy, perform_get_bind, perform_liftM_bind, looked]
  dsimp only
  rw [perform_get_bind, perform_bind]
  have opened := openToWrite_opened target (tree.files origin).mode tree
  rcases performed : (openToWrite target (tree.files origin).mode).perform tree with
    ⟨fault | identity, emptied⟩
  · rw [performed] at opened
    exact .unopened opened
  · rw [performed] at opened
    exact .written opened

namespace Filled

variable {tree after : FileTree} {target : String} {origin identity size : Nat}
  {before : FileRecord} {result : Except Fault Nat × FileTree}

theorem eq_of_error {fault : Fault} (filled : Filled tree origin target before (.error fault, after)) :
    after = tree := by
  cases filled with
  | unopened opened => exact opened.eq_of_error

theorem exists_ok_iff (filled : Filled tree origin target before result) :
    (∃ size, result.1 = .ok size) ↔ tree.Accepts target := by
  cases filled with
  | unopened opened => exact iff_of_false nofun fun accepts => nomatch opened.exists_ok_iff.mpr accepts
  | written opened => exact iff_of_true ⟨_, rfl⟩ (opened.exists_ok_iff.mp ⟨_, rfl⟩)

theorem writes (filled : Filled tree origin target before (.ok size, after)) :
    ∃ written, Writes target written tree after := by
  cases filled with
  | written opened => exact ⟨_, opened.writes.setFile _⟩

theorem grows (filled : Filled tree origin target before result) : Grows tree result.2 := by
  match result with
  | (.error fault, after) =>
    cases filled.eq_of_error
    exact .refl tree
  | (.ok size, after) =>
    obtain ⟨written, writes⟩ := filled.writes
    exact writes.toGrows

/-- A file in use keeps its record unless the target leads to it. -/
theorem files_eq (filled : Filled tree origin target before result) (used : tree.InUse identity)
    (apart : tree.fileAt? target ≠ some identity) :
    result.2.files identity = tree.files identity := by
  cases filled with
  | unopened opened => exact (opened.files_eq used apart).2
  | written opened =>
    obtain ⟨other, kept⟩ := opened.files_eq used apart
    rw [files_setFile_of_ne]
    · exact kept
    · rintro rfl
      exact other rfl

/-- A copy that succeeds leads to the file it wrote, and that is an old one only if the target led
to it before. -/
theorem fileAt?_iff (filled : Filled tree origin target before (.ok size, after))
    (used : tree.InUse identity) :
    after.fileAt? target = some identity ↔ tree.fileAt? target = some identity := by
  refine ⟨fun led => Classical.byContradiction fun apart => ?_, filled.grows.fileAt?⟩
  cases filled with
  | written opened =>
    cases led.symm.trans (opened.writes.setFile _).fileAt?
    exact (opened.files_eq used apart).1 rfl

/-- Away from the file that is copied, the target leads to what that file held. -/
theorem faithful (filled : Filled tree origin target before (.ok size, after))
    (used : tree.InUse origin) (apart : tree.fileAt? target ≠ some origin) :
    size = (tree.files origin).content.length ∧
      ∃ identity, after.fileAt? target = some identity ∧ after.files identity =
        { content := (tree.files origin).content
          mode := (tree.files origin).mode
          modified := before.modified
          accessed := before.accessed } := by
  cases filled with
  | @written identity emptied opened =>
    have kept := (opened.files_eq used apart).2
    dsimp only at kept
    refine ⟨by rw [kept], identity, (opened.writes.setFile _).fileAt?, ?_⟩
    rw [files_setFile_self, kept]

/-- Copied onto itself a file is empty by the time it is read. -/
theorem onto_itself (filled : Filled tree origin target before result)
    (meets : tree.fileAt? target = some origin) :
    result.1 = .ok 0 ∧ result.2.files origin =
      { content := []
        mode := (tree.files origin).mode
        modified := before.modified
        accessed := before.accessed } := by
  cases filled with
  | unopened opened => cases opened.of_fileAt? meets
  | written opened =>
    cases opened.of_fileAt? meets
    simp

end Filled

/-- Copying onto a file that is alike already changes nothing. -/
theorem copy_of_alike {tree : FileTree} {source target : String} {origin written : Nat}
    (found : tree.fileAt? source = some origin) (led : tree.fileAt? target = some written)
    (apart : written ≠ origin) (alike : tree.files written = tree.files origin) :
    (copy source target (tree.files origin)).perform tree =
      (.ok (tree.files origin).content.length, tree) := by
  have filled := copy_filled found target (tree.files origin)
  generalize (copy source target (tree.files origin)).perform tree = result at filled ⊢
  cases filled with
  | unopened opened => cases opened.of_fileAt? led
  | written opened =>
    cases opened.of_fileAt? led
    rw [files_setFile_of_ne _ apart.symm, setFile_setFile, ← alike]
    exact congrArg (Except.ok _, ·) (setFile_files tree written)

end Haulage.FileTree
