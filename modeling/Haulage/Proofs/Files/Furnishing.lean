import Haulage.Proofs.Files.Passing

/-! Making the directories above a place. Whether that succeeds or fails on the way, each directory that
is new is one that was asked for and that was not there before; nothing else changes. -/
namespace Haulage.FileTree

open Files Change

variable {texts : List String} {before middle after tree : FileTree} {text : String}
  {location : Location}

/-- A directory that one of the texts leads to, and that text led to no directory before. -/
def MadeFor (texts : List String) (before after : FileTree) (location : Location)
    (entry : Entry) : Prop :=
  entry = .directory ∧ ∃ text ∈ texts, before.isDirectory text = false ∧
    after.look text = .ok (location, .directory)

/-- Growth by directories alone, each of them made for one of the texts. -/
structure Furnishes (texts : List String) (before after : FileTree) : Prop
    extends Grows before after where
  files : after.files = before.files
  gained : ∀ location entry, after.get? location = some entry →
    before.get? location = some entry ∨ MadeFor texts before after location entry

theorem isDirectory_iff : tree.isDirectory text = true ↔
    ∃ location, tree.look text = .ok (location, .directory) := by
  rw [isDirectory]
  match looked : tree.look text with
  | .error fault => simp
  | .ok (location, .directory) => simp
  | .ok (location, .file identity) => simp
  | .ok (location, .link target) => simp

theorem Grows.isDirectory (grows : Grows before after)
    (standing : before.isDirectory text = true) : after.isDirectory text = true := by
  obtain ⟨location, found⟩ := isDirectory_iff.mp standing
  exact isDirectory_iff.mpr ⟨location, grows.find found⟩

theorem Grows.isDirectory_eq_false (grows : Grows before after)
    (missing : after.isDirectory text = false) : before.isDirectory text = false := by
  rw [← Bool.not_eq_true] at missing ⊢
  exact mt grows.isDirectory missing

theorem MadeFor.grow {entry : Entry} (made : MadeFor texts before middle location entry)
    (grows : Grows middle after) : MadeFor texts before after location entry := by
  obtain ⟨directory, text, asked, missing, leads⟩ := made
  exact ⟨directory, text, asked, missing, grows.find leads⟩

namespace Furnishes

theorem refl (texts : List String) (tree : FileTree) : Furnishes texts tree tree :=
  ⟨.refl tree, rfl, fun _ _ found => .inl found⟩

theorem trans (first : Furnishes texts before middle) (last : Furnishes texts middle after) :
    Furnishes texts before after := by
  refine ⟨first.toGrows.trans last.toGrows, last.files.trans first.files, ?_⟩
  intro location entry found
  rcases last.gained location entry found with earlier | ⟨directory, text, asked, missing, leads⟩
  · exact (first.gained location entry earlier).imp_right (·.grow last.toGrows)
  · exact .inr ⟨directory, text, asked, first.toGrows.isDirectory_eq_false missing, leads⟩

instance : Std.Refl (Furnishes texts) := ⟨refl texts⟩

instance : IsTrans FileTree (Furnishes texts) := ⟨fun _ _ _ => trans⟩

end Furnishes

/-- Where a name is free its text leads to no directory. -/
private theorem isDirectory_eq_false_of_free {parent : Location} {name : String}
    (held : tree.holder text = .ok (parent, some (.name name)))
    (free : tree.get? (parent ++ [name]) = none) : tree.isDirectory text = false := by
  rw [← Bool.not_eq_true, isDirectory_iff]
  rintro ⟨location, found⟩
  obtain ⟨parent, left, again, leads⟩ :=
    exists_holder_of_find found (holder_eq_ok_iff.mp held).2.1
  cases held.symm.trans again
  generalize Route.behind text = rest at leads
  cases leads with
  | entered _ taken => cases free.symm.trans taken
  | followed _ taken => cases free.symm.trans taken

/-- A directory that is put under a free name is what its text leads to. -/
theorem look_insert_directory {parent : Location} {name : String}
    (held : tree.holder text = .ok (parent, some (.name name)))
    (short : name.utf8ByteSize ≤ Route.nameLimit)
    (free : tree.get? (parent ++ [name]) = none) :
    (tree.insert (parent ++ [name]) .directory).look text =
      .ok (parent ++ [name], .directory) := by
  have seen : (tree.insert (parent ++ [name]) .directory).get? (parent ++ [name]) =
      some .directory := get?_insert_self tree (by simp) .directory
  exact find_of_holder (holder_grow held (grows_insert free .directory)) short seen nofun

private theorem furnishes_insert {parent : Location} {name : String} (asked : text ∈ texts)
    (held : tree.holder text = .ok (parent, some (.name name)))
    (short : name.utf8ByteSize ≤ Route.nameLimit)
    (free : tree.get? (parent ++ [name]) = none) :
    Furnishes texts tree (tree.insert (parent ++ [name]) .directory) := by
  refine ⟨grows_insert free .directory, rfl, fun location entry found => ?_⟩
  by_cases here : location = parent ++ [name]
  · subst here
    rw [get?_insert_self tree (by simp)] at found
    exact .inr ⟨(Option.some.inj found).symm, text, asked, isDirectory_eq_false_of_free held free,
      look_insert_directory held short free⟩
  · rw [get?_insert_of_ne tree here] at found
    exact .inl found

/-- What making one directory gives, and the tree after it. -/
inductive DirectoryMade (tree : FileTree) (text : String) : Except Fault Unit × FileTree → Prop
  | failed (fault : Fault) : DirectoryMade tree text (.error fault, tree)
  | made {parent : Location} {name : String}
      (held : tree.holder text = .ok (parent, some (.name name)))
      (short : name.utf8ByteSize ≤ Route.nameLimit) (free : tree.get? (parent ++ [name]) = none) :
      DirectoryMade tree text (.ok (), tree.insert (parent ++ [name]) .directory)

theorem makeDirectory_made (text : String) (tree : FileTree) :
    DirectoryMade tree text ((makeDirectory text).perform tree) := by
  rw [makeDirectory, perform_get_bind, perform_liftM_bind]
  match held : tree.holder text with
  | .error fault => exact .failed _
  | .ok (parent, none) => exact .failed _
  | .ok (parent, some .here) => exact .failed _
  | .ok (parent, some .up) => exact .failed _
  | .ok (parent, some .closing) => exact .failed _
  | .ok (parent, some (.name name)) =>
    dsimp only
    split
    · exact .failed _
    · rename_i short
      split
      · exact .failed _
      · rename_i free
        rw [perform_putNew]
        split
        · exact .made held (Nat.le_of_not_lt short) (Option.not_isSome_iff_eq_none.mp free)
        · exact .failed _

theorem makeDirectory_furnishes (asked : text ∈ texts) :
    (makeDirectory text).Keeps (Furnishes texts) := by
  intro tree
  have made := makeDirectory_made text tree
  generalize (makeDirectory text).perform tree = result at made ⊢
  cases made with
  | failed => exact .refl texts tree
  | made held short free => exact furnishes_insert asked held short free

theorem ensureDirectory_furnishes (asked : text ∈ texts) :
    (ensureDirectory text).Keeps (Furnishes texts) := by
  refine .tryCatch (makeDirectory_furnishes asked) fun fault => .of_unchanged fun tree => ?_
  rw [perform_get_bind]
  split
  · rfl
  · rfl

theorem missingBelow_furnishes {nearestFirst : List String} (asked : nearestFirst ⊆ texts) :
    (missingBelow nearestFirst).Keeps (Furnishes texts) := by
  induction nearestFirst with
  | nil => exact .of_unchanged fun _ => rfl
  | cons nearest above ih =>
    obtain ⟨first, rest⟩ := List.cons_subset.mp asked
    refine .bind (.tryCatch (.bind (ensureDirectory_furnishes first) ?_) ?_) fun missing => ?_
    · exact fun _ => .of_unchanged fun _ => rfl
    · refine fun fault => .of_unchanged fun tree => ?_
      split
      · rfl
      · rfl
    · split
      · exact .bind (ih rest) fun _ => .of_unchanged fun _ => rfl
      · exact .of_unchanged fun _ => rfl

/-- No other directories are found missing than those that were looked for. -/
theorem missingBelow_subset {nearestFirst missing : List String}
    (performed : (missingBelow nearestFirst).perform tree = (.ok missing, after)) :
    missing ⊆ nearestFirst := by
  induction nearestFirst generalizing tree after missing with
  | nil =>
    cases performed
    exact List.nil_subset _
  | cons nearest above ih =>
    rw [missingBelow, perform_bind] at performed
    split at performed
    · rename_i lacking found looked
      cases lacking with
      | false =>
        cases performed
        exact List.nil_subset _
      | true =>
        rw [if_pos rfl, perform_bind] at performed
        split at performed
        · rename_i farther reached searched
          cases performed
          exact List.append_subset.mpr
            ⟨List.Subset.trans (ih searched) (List.subset_cons_self ..),
              List.cons_subset.mpr ⟨List.mem_cons_self, List.nil_subset _⟩⟩
        · cases performed
    · cases performed

/-- Whether it succeeds or fails on the way, making directories adds some of these at most. -/
theorem makeDirectories_furnishes (nearestFirst : List String) :
    (makeDirectories nearestFirst).Keeps (Furnishes nearestFirst) := by
  refine .bind_of_ok (missingBelow_furnishes (List.Subset.refl _)) fun performed => .forM ?_
  intro text missing
  exact ensureDirectory_furnishes (missingBelow_subset performed missing)

end Haulage.FileTree
