import Haulage.Files.Route
import Haulage.Text.Trim
import Mathlib.Data.List.Induction

/-! Slashes at the end of a path text. They ask for a directory and say nothing else. -/
namespace Haulage.Files

/-- The text without the slashes it ends in. -/
def PathText.trimmed (text : String) : String :=
  String.ofList (Text.dropTrailing '/' text.toList)

namespace PathText

variable {text : String}

theorem getLast?_trimmed (text : String) : (trimmed text).toList.getLast? ≠ some '/' := by
  rw [trimmed, String.toList_ofList]
  exact Text.getLast?_dropTrailing '/' text.toList

theorem trimmed_of_plain (plain : text.toList.getLast? ≠ some '/') : trimmed text = text := by
  rw [trimmed]
  cases text.toList.eq_nil_or_concat with
  | inl empty =>
    rw [String.toList_eq_nil_iff.mp empty]
    rfl
  | inr ended =>
    obtain ⟨start, last, whole⟩ := ended
    rw [List.concat_eq_append] at whole
    rw [whole, List.getLast?_concat] at plain
    rw [whole, Text.dropTrailing_append_other _ _ _ fun same => plain (congrArg some same), ← whole,
      String.ofList_toList]

end PathText

namespace Route

open PathText

variable {text : String}

private theorem withoutClosing_spell_dropTrailing {text : List Char}
    (nonempty : Text.dropTrailing '/' text ≠ []) :
    (spell (String.ofList text)).withoutClosing =
      (spell (String.ofList (Text.dropTrailing '/' text))).withoutClosing := by
  induction text using List.reverseRecOn with
  | nil => exact absurd rfl nonempty
  | append_singleton text last ih =>
    by_cases slash : last = '/'
    · subst slash
      rw [Text.dropTrailing_append_mark] at nonempty ⊢
      have inside : text ≠ [] := by
        rintro rfl
        exact nonempty rfl
      rw [withoutClosing_spell_append_slash inside]
      exact ih nonempty
    · rw [Text.dropTrailing_append_other _ _ _ slash]

/-- Slashes alone spell no step. -/
theorem trimmed_ne_empty_of_steps (stepping : (spell text).withoutClosing.steps ≠ []) :
    trimmed text ≠ "" := by
  intro empty
  obtain ⟨count, whole⟩ := Text.exists_eq_dropTrailing_append '/' text.toList
  rw [trimmed, String.ofList_eq_empty_iff] at empty
  rw [empty, List.nil_append] at whole
  have silent (count : Nat) :
      (spell (String.ofList (List.replicate count '/'))).withoutClosing.steps = [] := by
    induction count with
    | zero => rfl
    | succ fewer ih =>
      cases fewer with
      | zero => decide
      | succ fewer =>
        rw [List.replicate_succ', withoutClosing_spell_append_slash (by simp)]
        exact ih
  rw [← String.ofList_toList (s := text), whole] at stepping
  exact stepping (silent count)

theorem spell_of_plain (plain : text.toList.getLast? ≠ some '/') :
    (spell text).withoutClosing = spell text := by
  have steps := steps_spell text
  rw [if_neg fun slashed => plain slashed.1] at steps
  calc (spell text).withoutClosing
    _ = { spell text with steps := (spell text).withoutClosing.steps } := rfl
    _ = spell text := by rw [← steps]

theorem withoutClosing_spell_eq (nonempty : trimmed text ≠ "") :
    (spell text).withoutClosing = spell (trimmed text) := by
  rw [← spell_of_plain (getLast?_trimmed text)]
  have inside : Text.dropTrailing '/' text.toList ≠ [] := by
    intro empty
    exact nonempty (congrArg String.ofList empty)
  rw [trimmed, ← withoutClosing_spell_dropTrailing inside, String.ofList_toList]

/-- A text that has steps has a last one before the slash behind it. -/
theorem exists_getLast?_of_steps (stepping : (spell text).steps ≠ []) :
    ∃ step, (spell text).withoutClosing.steps.getLast? = some step := by
  have inside : (spell text).withoutClosing.steps ≠ [] := by
    intro none
    rw [steps_spell, none] at stepping
    simp at stepping
  exact ⟨_, List.getLast?_eq_some_getLast inside⟩

/-- With slashes behind it a text that has steps spells the same, and asks for a directory. -/
theorem spell_of_slash (slashed : text.toList.getLast? = some '/')
    (stepping : (spell (trimmed text)).steps ≠ []) :
    spell text = { spell (trimmed text) with steps := (spell (trimmed text)).steps ++ [.closing] } := by
  have nonempty : trimmed text ≠ "" := by
    intro empty
    rw [empty] at stepping
    exact stepping rfl
  have same := withoutClosing_spell_eq nonempty
  have steps := steps_spell text
  rw [same, if_pos ⟨slashed, stepping⟩] at steps
  calc spell text
    _ = { (spell text).withoutClosing with steps := (spell text).steps } := rfl
    _ = _ := by rw [steps, same]

/-- A text can be read if it has no NUL in it and is neither empty nor too long. -/
theorem ofText_eq_ok_iff : ofText text = .ok (spell text) ↔
    '\x00' ∉ text.toList ∧ text ≠ "" ∧ text.utf8ByteSize ≤ textLimit := by
  rw [← List.contains_iff_mem, ← Nat.not_lt, Ne, ← String.toList_eq_nil_iff, ← List.isEmpty_iff]
  unfold ofText
  split
  · rename_i nul
    exact iff_of_false nofun fun clean => clean.1 nul
  · rename_i clean
    split
    · rename_i empty
      exact iff_of_false nofun fun filled => filled.2.1 empty
    · rename_i filled
      split
      · rename_i long
        exact iff_of_false nofun fun short => short.2.2 long
      · rename_i short
        exact iff_of_true rfl ⟨clean, filled, short⟩

/-- A text can be read without the slashes it ends in too, if anything is left of it. -/
theorem ofText_trimmed (readable : ofText text = .ok (spell text)) (nonempty : trimmed text ≠ "") :
    ofText (trimmed text) = .ok (spell (trimmed text)) := by
  obtain ⟨clean, -, short⟩ := ofText_eq_ok_iff.mp readable
  obtain ⟨count, whole⟩ := Text.exists_eq_dropTrailing_append '/' text.toList
  have parts : text = trimmed text ++ String.ofList (List.replicate count '/') := by
    rw [trimmed, ← String.ofList_append, ← whole, String.ofList_toList]
  rw [parts] at clean short
  rw [String.toList_append] at clean
  rw [String.utf8ByteSize_append] at short
  refine ofText_eq_ok_iff.mpr ⟨fun nul => clean (List.mem_append_left _ nul), nonempty, ?_⟩
  exact Nat.le_trans (Nat.le_add_right ..) short

/-- What stands behind the last step of a text. -/
def behind (text : String) : List Step :=
  if text.toList.getLast? = some '/' then [.closing] else []

theorem behind_trimmed (text : String) : behind (trimmed text) = [] :=
  if_neg (getLast?_trimmed text)

theorem steps_spell_of_getLast? {step : Step}
    (ended : (spell text).withoutClosing.steps.getLast? = some step) :
    (spell text).steps = (spell text).withoutClosing.steps.dropLast ++ step :: behind text := by
  obtain ⟨parents, whole⟩ := List.getLast?_eq_some_iff.mp ended
  have steps := steps_spell text
  rw [whole] at steps ⊢
  rw [List.dropLast_concat, steps, behind]
  by_cases slashed : text.toList.getLast? = some '/'
  · rw [if_pos ⟨slashed, by simp⟩, if_pos slashed, List.append_assoc]
    rfl
  · rw [if_neg fun both => slashed both.1, if_neg slashed]

theorem steps_ne_nil {step : Step}
    (ended : (spell text).withoutClosing.steps.getLast? = some step) : (spell text).steps ≠ [] := by
  rw [steps_spell_of_getLast? ended]
  simp

end Route

end Haulage.Files
