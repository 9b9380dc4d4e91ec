import Haulage.Files.Fault

/-! Path texts. A route is the list of steps that a text spells: names, a dot that stays, two dots
that go up, and at the very end a slash that asks for a directory. The parts of a text between
slashes say which directories lie above it. -/
namespace Haulage.Files

inductive Step where
  | here
  | up
  | name (text : String)
  /-- A slash that ends the text. -/
  | closing
  deriving DecidableEq

structure Route where
  absolute : Bool
  steps : List Step
  deriving DecidableEq

namespace Route

/-- The longest name of an entry, in bytes. -/
def nameLimit : Nat := 255

/-- The longest path text, in bytes. -/
def textLimit : Nat := 4095

private def stepOf (part : List Char) : Step :=
  if part = ['.'] then .here
  else if part = ['.', '.'] then .up
  else .name (String.ofList part)

/-- The steps of a text, whatever its length. -/
def spell (text : String) : Route :=
  let parts := (text.toList.splitOn '/').filter (· ≠ [])
  let named := parts.map stepOf
  { absolute := text.toList.head? = some '/'
    steps :=
      if text.toList.getLast? = some '/' ∧ named ≠ [] then named ++ [.closing] else named }

/-- Reads a path text. -/
def ofText (text : String) : Except Fault Route :=
  if text.toList.contains '\x00' then .error .nulInPath
  else if text.toList.isEmpty then .error (.system .missing)
  else if textLimit < text.utf8ByteSize then .error (.system .nameTooLong)
  else .ok (spell text)

theorem eq_spell_of_ofText {text : String} {route : Route} (readable : ofText text = .ok route) :
    route = spell text := by
  unfold ofText at readable
  split at readable
  · cases readable
  · split at readable
    · cases readable
    · split at readable
      · cases readable
      · exact (Except.ok.inj readable).symm

/-- The route without slashes at its end. -/
def withoutClosing (route : Route) : Route :=
  { route with steps := route.steps.filter (· ≠ .closing) }

private theorem stepOf_ne_closing (part : List Char) : stepOf part ≠ .closing := by
  unfold stepOf
  split
  · exact nofun
  · split
    · exact nofun
    · exact nofun

private theorem of_stepOf_eq_name {part : List Char} {name : String}
    (named : stepOf part = .name name) :
    part ≠ ['.'] ∧ part ≠ ['.', '.'] ∧ name = String.ofList part := by
  unfold stepOf at named
  split at named
  · cases named
  · split at named
    · cases named
    · rename_i stays goes
      exact ⟨stays, goes, (Step.name.inj named).symm⟩

private theorem withoutClosing_spell (text : String) :
    (spell text).withoutClosing.steps =
      ((text.toList.splitOn '/').filter (· ≠ [])).map stepOf := by
  have named (parts : List (List Char)) :
      (parts.map stepOf).filter (· ≠ .closing) = parts.map stepOf := by
    rw [List.filter_eq_self]
    intro step member
    obtain ⟨part, -, rfl⟩ := List.mem_map.mp member
    exact decide_eq_true (stepOf_ne_closing part)
  simp only [withoutClosing, spell]
  split
  · rw [List.filter_append, named]
    simp
  · rw [named]

/-- A slash at the end adds one step to a text that has steps. -/
theorem steps_spell (text : String) :
    (spell text).steps =
      if text.toList.getLast? = some '/' ∧ (spell text).withoutClosing.steps ≠ [] then
        (spell text).withoutClosing.steps ++ [.closing]
      else (spell text).withoutClosing.steps := by
  rw [withoutClosing_spell]
  rfl

theorem withoutClosing_spell_append_slash {text : List Char} (nonempty : text ≠ []) :
    (spell (String.ofList (text ++ ['/']))).withoutClosing =
      (spell (String.ofList text)).withoutClosing := by
  have steps : (spell (String.ofList (text ++ ['/']))).withoutClosing.steps =
      (spell (String.ofList text)).withoutClosing.steps := by
    rw [withoutClosing_spell, withoutClosing_spell, String.toList_ofList, String.toList_ofList,
      List.splitOn_append_cons_self, List.filter_append]
    simp
  have absolute : (spell (String.ofList (text ++ ['/']))).absolute =
      (spell (String.ofList text)).absolute := by
    obtain ⟨first, rest, rfl⟩ := List.exists_cons_of_ne_nil nonempty
    simp [spell]
  simp only [withoutClosing] at steps ⊢
  rw [steps, absolute]

end Route

/-! ## Parts of a text -/

namespace PathText

/-- Whether a part between slashes says something; a dot does so only in first place. -/
private def significant (first : Bool) (part : List Char) : Bool :=
  !part.isEmpty && (first || part != ['.'])

/-- The beginnings of a text that end in a part that says something, shortest first. -/
def beginnings (text : String) : List String :=
  let parts := text.toList.splitOn '/'
  (List.range parts.length).filterMap fun count =>
    if (parts[count]?).any (significant (count == 0)) then
      some (String.ofList (['/'].intercalate (parts.take (count + 1))))
    else none

/-- The directories above the place a text names, nearest first. -/
def above (text : String) : List String :=
  (beginnings text).reverse.drop 1

/-- The last name of a text, unless the text ends in a dot or in two. -/
def fileName? (text : String) : Option String :=
  let parts := text.toList.splitOn '/'
  let significantParts := parts.zipIdx.filterMap fun (part, index) =>
    if significant (index == 0) part then some part else none
  match significantParts.getLast? with
  | some part => if part = ['.'] ∨ part = ['.', '.'] then none else some (String.ofList part)
  | none => none

/-- The last name that a text spells is its last name, if no other step comes after it. -/
theorem fileName?_of_spell {text name : String}
    (named : (Route.spell text).withoutClosing.steps.getLast? = some (.name name)) :
    fileName? text = some name := by
  rw [Route.withoutClosing_spell, List.getLast?_map, Option.map_eq_some_iff] at named
  obtain ⟨part, last, step⟩ := named
  obtain ⟨stays, goes, rfl⟩ := Route.of_stepOf_eq_name step
  rw [List.getLast?_filter, List.find?_eq_some_iff_append] at last
  obtain ⟨filled, after, before, reversed, empty⟩ := last
  have whole : text.toList.splitOn '/' = before.reverse ++ part :: after.reverse := by
    rw [← List.reverse_reverse (text.toList.splitOn '/'), reversed]
    simp
  have nonempty : part ≠ [] := of_decide_eq_true filled
  have spoken (first : Bool) : significant first part = true := by
    simp [significant, nonempty, stays]
  -- behind the last part that is not empty nothing says anything
  have silent : (after.reverse.zipIdx (before.reverse.length + 1)).filterMap
      (fun entry => if significant (entry.2 == 0) entry.1 then some entry.1 else none) = [] := by
    rw [List.filterMap_eq_nil_iff]
    rintro ⟨other, index⟩ member
    have inside := List.mem_reverse.mp (List.fst_mem_of_mem_zipIdx member)
    have void : other = [] := by simpa using empty other inside
    simp [void, significant]
  rw [fileName?, whole]
  dsimp only
  rw [List.zipIdx_append, List.zipIdx_cons, Nat.zero_add, List.filterMap_append,
    List.filterMap_cons, silent]
  simp [spoken, stays, goes]

private theorem slash_not_mem_of_mem_splitOn {text part : List Char}
    (member : part ∈ text.splitOn '/') : '/' ∉ part := by
  induction size : text.length using Nat.strongRecOn generalizing text with
  | ind size shorter =>
    by_cases slashed : '/' ∈ text
    · obtain ⟨first, rest, rfl, plain⟩ := List.eq_append_cons_of_mem slashed
      rw [List.splitOn_append_cons_self_of_not_mem plain] at member
      rcases List.mem_cons.mp member with same | later
      · rwa [same]
      · refine shorter rest.length ?_ later rfl
        rw [← size, List.length_append, List.length_cons]
        omega
    · rw [List.splitOn_eq_singleton slashed] at member
      rwa [List.mem_singleton.mp member]

/-- A slash never belongs to a name. -/
theorem slash_not_mem_fileName? {text name : String} (found : fileName? text = some name) :
    '/' ∉ name.toList := by
  unfold fileName? at found
  dsimp only at found
  split at found
  · rename_i part last
    obtain ⟨⟨other, index⟩, member, kept⟩ := List.mem_filterMap.mp (List.mem_of_getLast? last)
    have same : other = part := by
      dsimp only at kept
      split at kept
      · exact Option.some.inj kept
      · cases kept
    split at found
    · cases found
    · rw [← Option.some.inj found, String.toList_ofList, ← same]
      exact slash_not_mem_of_mem_splitOn (List.fst_mem_of_mem_zipIdx member)
  · cases found

theorem slash_not_mem_fileName?_getD (text : String) :
    '/' ∉ ((fileName? text).getD "").toList := by
  cases named : fileName? text with
  | none => exact nofun
  | some name => exact slash_not_mem_fileName? named

/-- The text is a name, alone or behind a slash. -/
structure EndsIn (text name : String) : Prop where
  filled : name ≠ ""
  plain : '/' ∉ name.toList
  behind : ∃ above, text = above ++ name ∧ (above = "" ∨ above.toList.getLast? = some '/')

private theorem exists_last_of_splitOn (text : List Char) : ∃ above last,
    text = above ++ last ∧ (above = [] ∨ above.getLast? = some '/') ∧ '/' ∉ last ∧
      ∃ earlier, text.splitOn '/' = earlier ++ [last] := by
  by_cases slashed : '/' ∈ text.reverse
  · obtain ⟨last, above, reversed, plain⟩ := List.eq_append_cons_of_mem slashed
    have whole : text = above.reverse ++ '/' :: last.reverse := by
      rw [← List.reverse_reverse text, reversed]
      simp
    have alone : '/' ∉ last.reverse := mt List.mem_reverse.mp plain
    refine ⟨above.reverse ++ ['/'], last.reverse, by simp [whole], .inr (by simp), alone,
      above.reverse.splitOn '/', ?_⟩
    rw [whole, List.splitOn_append_cons_self, List.splitOn_eq_singleton alone]
  · have plain : '/' ∉ text := mt List.mem_reverse.mpr slashed
    exact ⟨[], text, rfl, .inl rfl, plain, [], List.splitOn_eq_singleton plain⟩

/-- A text that spells a name last, with no slash behind it, ends in that name. -/
theorem endsIn_of_spell {text name : String} (ended : text.toList.getLast? ≠ some '/')
    (named : (Route.spell text).withoutClosing.steps.getLast? = some (.name name)) :
    EndsIn text name := by
  obtain ⟨above, last, whole, behind, plain, earlier, parts⟩ := exists_last_of_splitOn text.toList
  rw [Route.withoutClosing_spell] at named
  have filled : last ≠ [] := by
    rintro rfl
    rw [List.append_nil] at whole
    rw [whole] at ended named
    rw [behind.resolve_right ended] at named
    simp at named
  have kept : [last].filter (· ≠ []) = [last] := by simp [filled]
  rw [parts, List.filter_append, kept, List.map_append, List.map_singleton, List.getLast?_concat,
    Option.some.injEq] at named
  obtain ⟨-, -, rfl⟩ := Route.of_stepOf_eq_name named
  refine ⟨by simpa using filled, by rwa [String.toList_ofList], String.ofList above, ?_, ?_⟩
  · rw [← String.ofList_append, ← whole, String.ofList_toList]
  · simpa using behind

/-- A name below the directory that a text names. -/
def join (directory name : String) : String :=
  match directory.toList.getLast? with
  | none => name
  | some '/' => directory ++ name
  | some _ => directory ++ "/" ++ name

end PathText

end Haulage.Files
