import Haulage.Proofs.Storage.Keys

/-! Where below a remote path an upload goes. A path that stands for what lies below it takes the name
of the file, and the slashes that end its key give way to a single one: so the new key begins with
the old one, unless that took a slash away. -/
namespace Haulage

namespace RemotePath

/-- The key ends in two slashes, or is nothing but one. -/
def Folds (path : RemotePath) : Prop :=
  ['/', '/'] <:+ path.key.toList ∨ path.key.toList = ['/']

instance : DecidablePred Folds := fun path =>
  inferInstanceAs (Decidable (['/', '/'] <:+ path.key.toList ∨ path.key.toList = ['/']))

variable {path : RemotePath} {child : String}

theorem toList_key_join (path : RemotePath) (child : String) :
    (path.join child).key.toList =
      if Text.dropTrailing '/' path.key.toList = [] then child.toList
      else Text.dropTrailing '/' path.key.toList ++ '/' :: child.toList := by
  simp only [join, List.isEmpty_iff]
  split
  · rfl
  · rw [String.toList_ofList]

theorem isDirectory_iff : path.isDirectory = true ↔
    path.key.toList = [] ∨ path.key.toList.getLast? = some '/' := by
  rw [isDirectory]
  cases last : path.key.toList.getLast? with
  | none => simp [List.getLast?_eq_none_iff.mp last]
  | some letter =>
    have inside : path.key.toList ≠ [] := by
      intro empty
      rw [empty] at last
      cases last
    simp [inside]

theorem Folds.isDirectory (folds : path.Folds) : path.isDirectory = true := by
  rw [isDirectory_iff]
  right
  rcases folds with ⟨first, whole⟩ | single
  · rw [← whole]
    simp
  · rw [single]
    rfl

/-- Joining keeps what the key begins with exactly if it takes no slash away. -/
theorem covers_join_iff (plain : '/' ∉ child.toList) (directory : path.isDirectory = true) :
    path.Covers (path.join child).key ↔ ¬ path.Folds := by
  rw [Covers, Folds, toList_key_join]
  rw [isDirectory_iff] at directory
  obtain ⟨count, whole⟩ := Text.exists_eq_dropTrailing_append '/' path.key.toList
  have ended := Text.getLast?_dropTrailing '/' path.key.toList
  generalize Text.dropTrailing '/' path.key.toList = base at whole ended ⊢
  rw [whole] at directory ⊢
  have apart (more : Nat) : ¬ List.replicate (more + 1) '/' <+: child.toList := fun begins =>
    plain (begins.subset List.mem_cons_self)
  match count with
  | 0 =>
    rw [List.replicate_zero, List.append_nil] at directory
    simp [directory.resolve_right ended]
  | 1 =>
    rw [List.replicate_one]
    by_cases empty : base = []
    · subst empty
      simpa using apart 0
    · have single : ¬ ['/', '/'] <:+ base ++ ['/'] := by
        rintro ⟨first, same⟩
        rw [List.append_cons] at same
        rw [← List.append_cancel_right same, List.getLast?_concat] at ended
        exact ended rfl
      rw [if_neg empty, List.prefix_append_right_inj]
      simp [single, empty]
  | more + 2 =>
    have folded : ['/', '/'] <:+ base ++ List.replicate (more + 2) '/' :=
      ⟨base ++ List.replicate more '/', by simp [List.replicate_add]⟩
    refine iff_of_false (fun begins => ?_) fun kept => kept (.inl folded)
    by_cases empty : base = []
    · rw [if_pos empty, empty, List.nil_append] at begins
      exact apart (more + 1) begins
    · rw [if_neg empty, List.prefix_append_right_inj, List.replicate_succ,
        List.cons_prefix_cons] at begins
      exact apart more begins.2

end RemotePath

end Haulage
