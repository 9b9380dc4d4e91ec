import Haulage.Json.Reader
import Mathlib.Data.List.Basic

/-! A document that is printed is read as the value that it was printed from. Each reader takes back what
is printed of its kind, whatever follows it; only behind a number no digit may follow. -/
namespace Haulage.Json

/-- The value nests at most as deep as given. -/
def Within : Nat → Json → Prop
  | limit + 1, .array elements => ∀ element ∈ elements, Within limit element
  | limit + 1, .object members => ∀ named ∈ members, Within limit named.2
  | 0, .array _ => False
  | 0, .object _ => False
  | _, _ => True

@[simp]
theorem within_string (limit : Nat) (text : String) : (string text).Within limit := by
  cases limit <;> trivial

@[simp]
theorem within_integer (limit : Nat) (number : Int) : (integer number).Within limit := by
  cases limit <;> trivial

theorem within_object {limit : Nat} {members : List (String × Json)}
    (inside : ∀ named ∈ members, named.2.Within limit) : (object members).Within (limit + 1) :=
  inside

namespace Reader

/-! ## Texts -/

theorem hexValue?_hexDigit : ∀ digit < 16, hexValue? (hexDigit digit) = some digit := by decide

theorem unit?_of_lt {code : Nat} (low : code < 32) (rest : List Char) :
    unit? ('0' :: '0' :: hexDigit (code / 16) :: hexDigit (code % 16) :: rest) =
      some (code, rest) := by
  have zero : hexValue? '0' = some 0 := by decide
  have whole : 16 * (code / 16) + code % 16 = code := Nat.div_add_mod code 16
  simp [unit?, zero, hexValue?_hexDigit (code / 16) (by omega),
    hexValue?_hexDigit (code % 16) (by omega), whole]

theorem character?_escaped (c : Char) (rest : List Char) :
    character? (escaped c ++ rest) = some (c, rest) := by
  have same {code : Nat} (numbered : c.toNat = code) : c = Char.ofNat code := by
    rw [← numbered, Char.ofNat_toNat]
  unfold escaped
  -- five characters have a name of their own, and two are named by their number
  iterate 5
    split
    · subst c
      rfl
  iterate 2
    split
    · rename_i numbered
      rw [same numbered]
      rfl
  split
  · rename_i low
    show numbered? _ = _
    simp [numbered?, unit?_of_lt low, show c.toNat < 0xd800 by omega]
  · rename_i quote slash _ _ _ _ _ control
    show character? (c :: rest) = _
    unfold character?
    split
    · rename_i empty
      cases empty
    · rename_i same
      exact absurd (List.cons.inj same).1 slash
    · rename_i same
      cases same
      rw [if_neg (not_or.mpr ⟨quote, control⟩)]

theorem exists_escaped (c : Char) : ∃ first more, escaped c = first :: more ∧ first ≠ '"' := by
  unfold escaped
  split_ifs <;> first | exact ⟨_, _, rfl, by decide⟩ | exact ⟨c, [], rfl, by assumption⟩

theorem characters_escaped {text : List Char} {fuel : Nat} (enough : text.length < fuel)
    (rest : List Char) :
    characters fuel (text.flatMap escaped ++ '"' :: rest) = some (text, rest) := by
  induction text generalizing fuel with
  | nil =>
    obtain ⟨fewer, rfl⟩ := Nat.exists_eq_add_of_lt enough
    simp [characters]
  | cons c text ih =>
    obtain ⟨fewer, rfl⟩ : ∃ fewer, fuel = fewer + 1 := ⟨fuel - 1, by omega⟩
    obtain ⟨first, more, spelled, apart⟩ := exists_escaped c
    have front : (escaped c ++ (text.flatMap escaped ++ '"' :: rest)).head? ≠ some '"' := by
      rw [spelled]
      simpa using apart
    rw [List.flatMap_cons, List.append_assoc, characters, if_neg front, character?_escaped]
    simp [ih (show text.length < fewer by simpa using enough)]

theorem length_le_flatMap_escaped (text : List Char) :
    text.length ≤ (text.flatMap escaped).length := by
  induction text with
  | nil => exact Nat.le_refl _
  | cons c text ih =>
    obtain ⟨first, more, spelled, -⟩ := exists_escaped c
    rw [List.flatMap_cons, spelled, List.length_append, List.length_cons, List.length_cons]
    omega

theorem string?_quoted (text : String) (rest : List Char) :
    string? (quoted text ++ rest) = some (text, rest) := by
  have enough := length_le_flatMap_escaped text.toList
  have whole : quoted text ++ rest = '"' :: (text.toList.flatMap escaped ++ '"' :: rest) := by
    simp [quoted]
  rw [whole, string?, characters_escaped (by rw [List.length_append]; omega)]
  simp

/-! ## Numbers -/

/-- No digit comes next. -/
def Stops (rest : List Char) : Prop := ∀ c ∈ rest.head?, c.isDigit = false

theorem natural?_toDigits (number : Nat) {rest : List Char} (stops : Stops rest) :
    natural? (Nat.toDigits 10 number ++ rest) = some (number, rest) := by
  have digits : ∀ c ∈ Nat.toDigits 10 number, c.isDigit = true := fun c member =>
    Nat.isDigit_of_mem_toDigits (by decide) (by decide) member
  obtain ⟨taken, left⟩ : rest.takeWhile Char.isDigit = [] ∧ rest.dropWhile Char.isDigit = rest := by
    cases rest with
    | nil => exact ⟨rfl, rfl⟩
    | cons c rest => simp [stops c rfl]
  have read : Nat.ofDigitChars 10 (Nat.toDigits 10 number) 0 = number :=
    Nat.ofDigitChars_toDigits (by decide) (by decide)
  unfold natural?
  rw [List.takeWhile_append_of_pos digits, List.dropWhile_append_of_pos digits, taken, left,
    List.append_nil]
  simp only [read, if_true]

theorem exists_toDigits (number : Nat) :
    ∃ first more, Nat.toDigits 10 number = first :: more ∧ first.isDigit = true := by
  obtain ⟨first, more, spelled⟩ := List.exists_cons_of_ne_nil (@Nat.toDigits_ne_nil number 10)
  refine ⟨first, more, spelled, Nat.isDigit_of_mem_toDigits (n := number) (b := 10) (by decide)
    (by decide) ?_⟩
  rw [spelled]
  exact List.mem_cons_self

theorem integer?_toString (number : Int) {rest : List Char} (stops : Stops rest) :
    integer? ((toString number).toList ++ rest) = some (number, rest) := by
  cases number with
  | ofNat number =>
    have spelled : (toString (Int.ofNat number)).toList = Nat.toDigits 10 number := Nat.toList_repr
    have read := natural?_toDigits number stops
    obtain ⟨first, more, front, digit⟩ := exists_toDigits number
    rw [spelled]
    rw [front] at read ⊢
    unfold integer?
    split
    · rename_i same
      cases (List.cons.inj same).1
      cases digit
    · rw [read]
      rfl
  | negSucc number =>
    have spelled : (toString (Int.negSucc number)).toList = '-' :: Nat.toDigits 10 (number + 1) := by
      show ("-" ++ Nat.repr (number + 1)).toList = _
      rw [String.toList_append, Nat.toList_repr]
      rfl
    rw [spelled, List.cons_append, integer?, natural?_toDigits _ stops]
    rfl

/-- A number begins with a digit or a sign. -/
theorem exists_toString (number : Int) : ∃ first more,
    (toString number).toList = first :: more ∧ (first.isDigit = true ∨ first = '-') := by
  cases number with
  | ofNat number =>
    obtain ⟨first, more, front, digit⟩ := exists_toDigits number
    exact ⟨first, more, Nat.toList_repr.trans front, .inl digit⟩
  | negSucc number =>
    refine ⟨'-', (Nat.repr (number + 1)).toList, ?_, .inr rfl⟩
    show ("-" ++ Nat.repr (number + 1)).toList = _
    rw [String.toList_append]
    rfl

/-! ## Fronts -/

/-- Blanks in front of something else. -/
theorem skipBlanks_append {lead : List Char} (blanks : ∀ c ∈ lead, blank c = true)
    (text : List Char) : skipBlanks (lead ++ text) = skipBlanks text :=
  List.dropWhile_append_of_pos blanks

theorem blank_of_mem_newline {depth : Nat} : ∀ c ∈ newline depth, blank c = true := by
  intro c member
  rcases List.mem_cons.mp member with rfl | member
  · rfl
  · rw [List.eq_of_mem_replicate member]
    rfl

/-- What a text begins with is not passed over, nor does it close anything. -/
def Solid (text : List Char) : Prop := ∃ first more, text = first :: more ∧ blank first = false ∧
  first ≠ ']' ∧ first ≠ '\x7d'

theorem Solid.skipBlanks_eq {text : List Char} (solid : Solid text) (rest : List Char) :
    skipBlanks (text ++ rest) = text ++ rest := by
  obtain ⟨first, more, rfl, unskipped, -⟩ := solid
  exact List.dropWhile_cons_of_neg (by simp [unskipped])

theorem solid_quoted (text : String) : Solid (quoted text) :=
  ⟨_, _, rfl, rfl, by decide, by decide⟩

theorem solid_of_isDigit {c : Char} (digit : c.isDigit = true) (more : List Char) :
    Solid (c :: more) := by
  refine ⟨c, more, rfl, ?_, ?_, ?_⟩
  · rw [Bool.eq_false_iff]
    intro skipped
    simp only [blank, Bool.or_eq_true, beq_iff_eq] at skipped
    rcases skipped with ((rfl | rfl) | rfl) | rfl <;> cases digit
  · rintro rfl
    cases digit
  · rintro rfl
    cases digit

theorem solid_print (depth : Nat) (value : Json) : Solid (print depth value) := by
  have named {first : Char} {more : List Char} (unskipped : blank first = false)
      (opens : first ≠ ']' ∧ first ≠ '\x7d') : Solid (first :: more) :=
    ⟨first, more, rfl, unskipped, opens⟩
  cases value with
  | null => exact named rfl (by decide)
  | boolean value => cases value <;> exact named rfl (by decide)
  | integer number =>
    obtain ⟨first, more, front, digit | rfl⟩ := exists_toString number
    · rw [print, front]
      exact solid_of_isDigit digit more
    · rw [print, front]
      exact named rfl (by decide)
  | string text => exact solid_quoted text
  | array elements => cases elements <;> exact named rfl (by decide)
  | object members => cases members <;> exact named rfl (by decide)

/-! ## Items -/

section Items

variable {α : Type} {item : List Char → Option (α × List Char)} {shown : α → List Char}
  {close : Char} {inner outer : Nat}

/-- What is printed behind the first item: the others on lines of their own, then the closing mark. -/
def closing (shown : α → List Char) (close : Char) (inner outer : Nat) (more : List α)
    (rest : List Char) : List Char :=
  more.flatMap (fun other => ',' :: newline inner ++ shown other) ++ newline outer ++ close :: rest

theorem closing_cons (other : α) (more : List α) (rest : List Char) :
    closing shown close inner outer (other :: more) rest =
      ',' :: (newline inner ++ (shown other ++ closing shown close inner outer more rest)) := by
  simp [closing]

theorem stops_closing (more : List α) (rest : List Char) :
    Stops (closing shown close inner outer more rest) := by
  intro c first
  cases more with
  | nil =>
    cases first
    rfl
  | cons other more =>
    rw [closing_cons] at first
    cases first
    rfl

/-- Items that are read one by one are read together. -/
theorem items_closing {first : α} {more : List α} {fuel : Nat}
    (closes : close = ']' ∨ close = '\x7d') (solid : ∀ other ∈ first :: more, Solid (shown other))
    (reads : ∀ other ∈ first :: more, ∀ rest, Stops rest →
      item (shown other ++ rest) = some (other, rest))
    (enough : more.length < fuel) (rest : List Char) :
    items item close fuel
        (newline inner ++ (shown first ++ closing shown close inner outer more rest)) =
      some (first :: more, rest) := by
  induction more generalizing first fuel with
  | nil =>
    obtain ⟨fewer, rfl⟩ : ∃ fewer, fuel = fewer + 1 := ⟨fuel - 1, by omega⟩
    have behind : skipBlanks (closing shown close inner outer [] rest) = close :: rest := by
      show skipBlanks (newline outer ++ close :: rest) = _
      rw [skipBlanks_append blank_of_mem_newline]
      rcases closes with rfl | rfl <;> rfl
    rw [items, skipBlanks_append blank_of_mem_newline,
      (solid first List.mem_cons_self).skipBlanks_eq,
      reads first List.mem_cons_self _ (stops_closing [] rest)]
    simp [behind]
  | cons other more ih =>
    obtain ⟨fewer, rfl⟩ : ∃ fewer, fuel = fewer + 1 := ⟨fuel - 1, by omega⟩
    have apart : ',' ≠ close := by rcases closes with rfl | rfl <;> decide
    have later := @ih other fewer
      (fun item member => solid item (List.mem_cons_of_mem _ member))
      (fun item member => reads item (List.mem_cons_of_mem _ member))
      (by simpa using enough)
    have comma (text : List Char) : skipBlanks (',' :: text) = ',' :: text :=
      List.dropWhile_cons_of_neg (by decide)
    rw [items, skipBlanks_append blank_of_mem_newline,
      (solid first List.mem_cons_self).skipBlanks_eq,
      reads first List.mem_cons_self _ (stops_closing (other :: more) rest)]
    simp [closing_cons, comma, later, apart]

theorem length_le_closing (more : List α) (rest : List Char) :
    more.length ≤ (closing shown close inner outer more rest).length := by
  induction more with
  | nil => exact Nat.zero_le _
  | cons other more ih =>
    rw [closing_cons]
    simp only [List.length_cons, List.length_append]
    omega

theorem contents_closing {first : α} {more : List α} (closes : close = ']' ∨ close = '\x7d')
    (solid : ∀ other ∈ first :: more, Solid (shown other))
    (reads : ∀ other ∈ first :: more, ∀ rest, Stops rest →
      item (shown other ++ rest) = some (other, rest)) (rest : List Char) :
    contents item close
        (newline inner ++ (shown first ++ closing shown close inner outer more rest)) =
      some (first :: more, rest) := by
  have enough := @length_le_closing α shown close inner outer more rest
  have opens : (shown first ++ closing shown close inner outer more rest).head? ≠ some close := by
    obtain ⟨letter, letters, front, -, unclosed⟩ := solid first List.mem_cons_self
    rw [front]
    rcases closes with rfl | rfl
    · simpa using unclosed.1
    · simpa using unclosed.2
  rw [contents, skipBlanks_append blank_of_mem_newline,
    (solid first List.mem_cons_self).skipBlanks_eq, if_neg opens]
  refine items_closing closes solid reads ?_ rest
  simp only [List.length_append]
  omega

theorem contents_empty (closes : close = ']' ∨ close = '\x7d') (rest : List Char) :
    contents item close (close :: rest) = some ([], rest) := by
  have kept : skipBlanks (close :: rest) = close :: rest := by
    rcases closes with rfl | rfl <;> rfl
  simp [contents, kept]

end Items

/-! ## Values -/

theorem value_of_front {first : Char} (unbracketed : first ≠ '[') (unbraced : first ≠ '\x7b')
    (limit : Nat) (more : List Char) : value limit (first :: more) = scalar? (first :: more) := by
  unfold value
  split
  · rename_i same
    exact absurd (List.cons.inj same).1 unbracketed
  · rename_i same
    exact absurd (List.cons.inj same).1 unbraced
  · rfl

theorem value_quoted (limit : Nat) (text : String) (rest : List Char) :
    value limit (quoted text ++ rest) = some (.string text, rest) := by
  have read := string?_quoted text rest
  rw [quoted, List.cons_append, List.cons_append] at read ⊢
  rw [value_of_front (by decide) (by decide), scalar?, read]
  rfl

theorem scalar?_of_front {first : Char} (apart : first ∉ ['n', 't', 'f', '"']) (more : List Char) :
    scalar? (first :: more) =
      (integer? (first :: more)).map fun (number, rest) => (.integer number, rest) := by
  unfold scalar?
  split
  case h_5 => rfl
  all_goals
    rename_i same
    rw [(List.cons.inj same).1] at apart
    exact absurd (by decide) apart

theorem value_integer (limit : Nat) (number : Int) {rest : List Char} (stops : Stops rest) :
    value limit ((toString number).toList ++ rest) = some (.integer number, rest) := by
  have read := integer?_toString number stops
  obtain ⟨first, more, front, starts⟩ := exists_toString number
  have apart {other : Char} (neither : other.isDigit = false ∧ other ≠ '-') : first ≠ other := by
    rintro rfl
    rcases starts with digit | rfl
    · exact Bool.false_ne_true (neither.1.symm.trans digit)
    · exact neither.2 rfl
  have unnamed : first ∉ ['n', 't', 'f', '"'] := by
    simp only [List.mem_cons, List.not_mem_nil, or_false, not_or]
    exact ⟨apart (by decide), apart (by decide), apart (by decide), apart (by decide)⟩
  rw [front, List.cons_append] at read ⊢
  rw [value_of_front (apart (by decide)) (apart (by decide)), scalar?_of_front unnamed, read]
  rfl

theorem printElements_eq (depth : Nat) (elements : List Json) : printElements depth elements =
    elements.flatMap fun element => ',' :: newline depth ++ print depth element := by
  induction elements with
  | nil => rfl
  | cons element rest ih =>
    rw [printElements, ih, List.flatMap_cons]

/-- A name with its value as it is printed. -/
def printMember (depth : Nat) (named : String × Json) : List Char :=
  quoted named.1 ++ [':', ' '] ++ print depth named.2

theorem printMembers_eq (depth : Nat) (members : List (String × Json)) :
    printMembers depth members =
      members.flatMap fun named => ',' :: newline depth ++ printMember depth named := by
  induction members with
  | nil => rfl
  | cons named rest ih =>
    rw [printMembers, ih, List.flatMap_cons]
    simp [printMember]

theorem solid_printMember (depth : Nat) (named : String × Json) :
    Solid (printMember depth named) :=
  ⟨_, _, rfl, rfl, by decide, by decide⟩

theorem member_printMember {limit depth : Nat} {named : String × Json} {rest : List Char}
    (read : value limit (print depth named.2 ++ rest) = some (named.2, rest)) :
    member (value limit) (printMember depth named ++ rest) = some (named, rest) := by
  have whole : printMember depth named ++ rest =
      quoted named.1 ++ (':' :: ([' '] ++ (print depth named.2 ++ rest))) := by
    simp [printMember]
  have colon (text : List Char) : skipBlanks (':' :: text) = ':' :: text :=
    List.dropWhile_cons_of_neg (by decide)
  have space : skipBlanks ([' '] ++ (print depth named.2 ++ rest)) = print depth named.2 ++ rest := by
    rw [skipBlanks_append (List.forall_mem_singleton.mpr rfl)]
    exact (solid_print depth named.2).skipBlanks_eq rest
  rw [whole, member, string?_quoted]
  simp only [Option.bind_eq_bind, Option.bind_some, colon, List.head?_cons, if_true, List.tail_cons,
    space, read, Option.map_some]

/-- What holds no other value is read at any depth. -/
theorem value_print_of_flat (limit depth : Nat) {given : Json} (flat : given.Within 0)
    {rest : List Char} (stops : Stops rest) :
    value limit (print depth given ++ rest) = some (given, rest) := by
  cases given with
  | null => exact value_of_front (by decide) (by decide) limit _
  | boolean truth => cases truth <;> exact value_of_front (by decide) (by decide) limit _
  | integer number => exact value_integer limit number stops
  | string text => exact value_quoted limit text rest
  | array elements => exact flat.elim
  | object members => exact flat.elim

/-- The printed form of a value is read as that value. -/
theorem value_print {limit : Nat} {given : Json} (within : given.Within limit) (depth : Nat)
    {rest : List Char} (stops : Stops rest) :
    value limit (print depth given ++ rest) = some (given, rest) := by
  induction limit generalizing given depth rest with
  | zero => exact value_print_of_flat 0 depth within stops
  | succ limit ih =>
    cases given with
    | null | boolean | integer | string => exact value_print_of_flat _ depth (by trivial) stops
    | array elements =>
      cases elements with
      | nil =>
        show (contents (value limit) ']' (']' :: rest)).map _ = _
        rw [contents_empty (.inl rfl)]
        rfl
      | cons first more =>
        have whole : print depth (.array (first :: more)) ++ rest = '[' :: (newline (depth + 1) ++
            (print (depth + 1) first ++
              closing (print (depth + 1)) ']' (depth + 1) depth more rest)) := by
          simp [print, closing, printElements_eq]
        rw [whole, value, contents_closing (.inl rfl) (fun other _ => solid_print _ other)
          fun other member rest stops => ih (within other member) (depth + 1) stops]
        rfl
    | object members =>
      cases members with
      | nil =>
        show (contents (member (value limit)) '\x7d' ('\x7d' :: rest)).map _ = _
        rw [contents_empty (.inr rfl)]
        rfl
      | cons first more =>
        have whole : print depth (.object (first :: more)) ++ rest =
            '\x7b' :: (newline (depth + 1) ++ (printMember (depth + 1) first ++
              closing (printMember (depth + 1)) '\x7d' (depth + 1) depth more rest)) := by
          simp [print, closing, printMembers_eq, printMember]
        rw [whole, value, contents_closing (.inr rfl) (fun other _ => solid_printMember _ other)
          fun other member rest stops =>
            member_printMember (ih (within other member) (depth + 1) stops)]
        rfl

end Reader

/-- A document is read as the value that it was printed from, unless that nests too deep. -/
theorem ofText?_pretty {given : Json} (within : given.Within nestingLimit) :
    ofText? (given.pretty ++ "\n") = some given := by
  have whole : (given.pretty ++ "\n").toList = print 0 given ++ ['\n'] := by
    rw [pretty, String.toList_append, String.toList_ofList]
    rfl
  have stops : Reader.Stops ['\n'] := by
    rintro c first
    cases first
    rfl
  rw [ofText?, whole, (Reader.solid_print 0 given).skipBlanks_eq, Reader.value_print within 0 stops]
  rfl

/-- Other writings of a value are read as it too. -/
example : (ofText? " [true,\"\\u00e9\\/\" , 10 ]").map pretty =
    some "[\n  true,\n  \"é/\",\n  10\n]" := by decide +kernel

end Haulage.Json
