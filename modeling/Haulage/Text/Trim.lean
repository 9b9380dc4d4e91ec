/-! Text without the copies of one character that stand at its ends. -/
namespace Haulage.Text

/-- The text without the marks it ends in. -/
def dropTrailing (mark : Char) (text : List Char) : List Char :=
  (text.reverse.dropWhile (· == mark)).reverse

/-- The text without the marks on either end. -/
def dropAround (mark : Char) (text : List Char) : List Char :=
  dropTrailing mark (text.dropWhile (· == mark))

@[simp]
theorem dropTrailing_nil (mark : Char) : dropTrailing mark [] = [] := rfl

theorem dropTrailing_append_mark (mark : Char) (text : List Char) :
    dropTrailing mark (text ++ [mark]) = dropTrailing mark text := by
  simp [dropTrailing]

theorem dropTrailing_append_other (mark : Char) (text : List Char) (last : Char)
    (other : last ≠ mark) : dropTrailing mark (text ++ [last]) = text ++ [last] := by
  simp [dropTrailing, other]

theorem dropTrailing_of_getLast?_ne (mark : Char) (text : List Char)
    (ended : text.getLast? ≠ some mark) : dropTrailing mark text = text := by
  obtain empty | ⟨start, last, rfl⟩ := List.eq_nil_or_concat text
  · rw [empty, dropTrailing_nil]
  · rw [List.concat_eq_append, List.getLast?_concat] at ended
    rw [List.concat_eq_append]
    exact dropTrailing_append_other mark start last fun same => ended (congrArg some same)

theorem getLast?_dropTrailing (mark : Char) (text : List Char) :
    (dropTrailing mark text).getLast? ≠ some mark := by
  have stopped := List.head?_dropWhile_not (· == mark) text.reverse
  intro ended
  rw [dropTrailing, List.getLast?_reverse] at ended
  rw [ended] at stopped
  simp at stopped

/-- What is dropped are marks only. -/
theorem exists_eq_dropTrailing_append (mark : Char) (text : List Char) :
    ∃ count, text = dropTrailing mark text ++ List.replicate count mark := by
  refine ⟨(text.reverse.takeWhile (· == mark)).length, ?_⟩
  have marks : text.reverse.takeWhile (· == mark) =
      List.replicate (text.reverse.takeWhile (· == mark)).length mark := by
    rw [List.eq_replicate_iff]
    refine ⟨rfl, fun letter member => ?_⟩
    simpa using List.all_eq_true.mp List.all_takeWhile letter member
  rw [← List.reverse_replicate, ← marks, dropTrailing, ← List.reverse_append,
    List.takeWhile_append_dropWhile, List.reverse_reverse]

end Haulage.Text
