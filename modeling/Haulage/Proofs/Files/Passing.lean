import Haulage.Proofs.Files.Growth
import Haulage.Proofs.Files.Spelling

/-! Walks in two parts. The first part passes from directory to directory and uses up links; what is
asked for at the end is looked up from there. In a smaller tree a walk ends where it did, or it comes
upon something that is missing. -/
namespace Haulage.FileTree

open Files

/-- The steps lead from one directory to another, and then so many links may still be followed. -/
inductive Passes (tree : FileTree) : Nat → Location → List Step → Nat → Location → Prop where
  | stayed : Passes tree links location [] links location
  | here (later : Passes tree links location rest left last) :
      Passes tree links location (.here :: rest) left last
  | closing (later : Passes tree links location rest left last) :
      Passes tree links location (.closing :: rest) left last
  | up (later : Passes tree links location.dropLast rest left last) :
      Passes tree links location (.up :: rest) left last
  | entered (short : name.utf8ByteSize ≤ Route.nameLimit)
      (found : tree.get? (location ++ [name]) = some .directory)
      (later : Passes tree links (location ++ [name]) rest left last) :
      Passes tree links location (.name name :: rest) left last
  | followed (short : name.utf8ByteSize ≤ Route.nameLimit)
      (found : tree.get? (location ++ [name]) = some (.link target))
      (later : Passes tree links (linkStart location target) ((Route.spell target).steps ++ rest)
        left last) :
      Passes tree (links + 1) location (.name name :: rest) left last

variable {tree smaller larger : FileTree} {purpose : Purpose} {links left : Nat}
  {location last lies : Location} {first rest steps : List Step} {reached : Place} {entry : Entry}

/-- A walk to something that is there passes its first steps, if they are not all. -/
theorem Leads.passes (leads : Leads tree purpose links location (first ++ rest) (.taken lies entry))
    (more : rest ≠ []) : ∃ left last, Passes tree links location first left last ∧
      Leads tree purpose left last rest (.taken lies entry) := by
  generalize whole : first ++ rest = steps at leads
  generalize same : Place.taken lies entry = reached at leads
  induction leads generalizing first with
  | arrived => exact absurd (List.append_eq_nil_iff.mp whole).2 more
  | vacant => cases same
  | vacantDirectory => cases same
  | here later ih =>
    cases first with
    | nil => cases whole; cases same; exact ⟨_, _, .stayed, .here later⟩
    | cons step first =>
      cases whole
      obtain ⟨left, last, passes, leads⟩ := ih rfl same
      exact ⟨left, last, .here passes, leads⟩
  | closing later ih =>
    cases first with
    | nil => cases whole; cases same; exact ⟨_, _, .stayed, .closing later⟩
    | cons step first =>
      cases whole
      obtain ⟨left, last, passes, leads⟩ := ih rfl same
      exact ⟨left, last, .closing passes, leads⟩
  | up later ih =>
    cases first with
    | nil => cases whole; cases same; exact ⟨_, _, .stayed, .up later⟩
    | cons step first =>
      cases whole
      obtain ⟨left, last, passes, leads⟩ := ih rfl same
      exact ⟨left, last, .up passes, leads⟩
  | entered passable found later ih =>
    cases first with
    | nil => cases whole; cases same; exact ⟨_, _, .stayed, .entered passable found later⟩
    | cons step first =>
      cases whole
      obtain ⟨left, last, passes, leads⟩ := ih rfl same
      exact ⟨left, last, .entered passable.2 found passes, leads⟩
  | file passable found =>
    cases first with
    | nil => cases whole; cases same; exact ⟨_, _, .stayed, .file passable found⟩
    | cons step first => exact absurd (List.append_eq_nil_iff.mp (List.cons.inj whole).2).2 more
  | link passable peeking found =>
    cases first with
    | nil => cases whole; cases same; exact ⟨_, _, .stayed, .link passable peeking found⟩
    | cons step first => exact absurd (List.append_eq_nil_iff.mp (List.cons.inj whole).2).2 more
  | followed passable found through later ih =>
    cases first with
    | nil => cases whole; cases same; exact ⟨_, _, .stayed, .followed passable found through later⟩
    | cons step first =>
      cases whole
      obtain ⟨left, last, passes, leads⟩ := ih (List.append_assoc ..) same
      exact ⟨left, last, .followed passable.2 found passes, leads⟩

/-- Nothing stands behind the first steps that would keep a link among them from being followed. -/
theorem Passes.leads (passes : Passes tree links location first left last)
    (leads : Leads tree purpose left last rest reached) (unwritten : purpose ≠ .write)
    (more : rest ≠ []) : Leads tree purpose links location (first ++ rest) reached := by
  induction passes with
  | stayed => exact leads
  | here _ ih => exact .here (ih leads)
  | closing _ ih => exact .closing (ih leads)
  | up _ ih => exact .up (ih leads)
  | entered short found _ ih =>
    exact .entered ⟨fun writing => unwritten writing.1, short⟩ found (ih leads)
  | followed short found _ ih =>
    refine .followed ⟨fun writing => unwritten writing.1, short⟩ found ?_ ?_
    · exact fun ended => more (List.append_eq_nil_iff.mp ended.1).2
    · have later := ih leads
      rwa [List.append_assoc] at later

theorem Leads.append_closing (leads : Leads tree purpose links location steps (.taken lies .directory))
    (unwritten : purpose ≠ .write) :
    Leads tree purpose links location (steps ++ [.closing]) (.taken lies .directory) := by
  generalize same : Place.taken lies .directory = reached at leads ⊢
  induction leads with
  | arrived => exact .closing .arrived
  | here _ ih => exact .here (ih same)
  | closing _ ih => exact .closing (ih same)
  | up _ ih => exact .up (ih same)
  | vacant => cases same
  | vacantDirectory => cases same
  | entered passable found _ ih =>
    exact .entered ⟨fun writing => unwritten writing.1, passable.2⟩ found (ih same)
  | file => cases same
  | link => cases same
  | followed passable found through _ ih =>
    refine .followed ⟨fun writing => unwritten writing.1, passable.2⟩ found (by simp) ?_
    have later := ih same
    rwa [List.append_assoc] at later

theorem Leads.eq_of_closing (leads : Leads tree purpose links location [.closing] reached) :
    reached = .taken location .directory := by
  cases leads with
  | closing later =>
    cases later
    rfl

/-! ## Smaller trees -/

/-- Nothing is where the walk came to look. -/
def Misses (found : Except Failure Place) : Prop :=
  found = .error .missing ∨ ∃ parent name asDirectory, found = .ok (.free parent name asDirectory)

private theorem walk_name_of_directory {name : String} (passable : Passable purpose name rest)
    (found : tree.get? (location ++ [name]) = some .directory) :
    tree.walk purpose links location (.name name :: rest) =
      tree.walk purpose links (location ++ [name]) rest := by
  cases links with
  | zero => rw [walk, advance, if_neg passable.1, if_neg (Nat.not_lt_of_le passable.2), found]
  | succ => rw [walk, advance, if_neg passable.1, if_neg (Nat.not_lt_of_le passable.2), found]

private theorem walk_name_of_link {name target : String} (passable : Passable purpose name rest)
    (found : tree.get? (location ++ [name]) = some (.link target))
    (through : ¬ (rest = [] ∧ purpose = .peek)) :
    tree.walk purpose (links + 1) location (.name name :: rest) =
      tree.walk purpose links (linkStart location target) ((Route.spell target).steps ++ rest) := by
  rw [walk, advance, if_neg passable.1, if_neg (Nat.not_lt_of_le passable.2), found]
  exact if_neg through

private theorem misses_of_absent {name : String} (passable : Passable purpose name rest)
    (absent : tree.get? (location ++ [name]) = none) :
    Misses (tree.walk purpose links location (.name name :: rest)) := by
  have looked : tree.walk purpose links location (.name name :: rest) =
      if rest = [] then .ok (.free location name false)
      else if rest = [.closing] then .ok (.free location name true) else .error .missing := by
    cases links with
    | zero => rw [walk, advance, if_neg passable.1, if_neg (Nat.not_lt_of_le passable.2), absent]
    | succ => rw [walk, advance, if_neg passable.1, if_neg (Nat.not_lt_of_le passable.2), absent]
  rw [looked]
  split
  · exact .inr ⟨_, _, _, rfl⟩
  · split
    · exact .inr ⟨_, _, _, rfl⟩
    · exact .inl rfl

theorem Grows.get?_eq_or (grows : Grows smaller larger) (found : larger.get? location = some entry) :
    smaller.get? location = some entry ∨ smaller.get? location = none := by
  match kept : smaller.get? location with
  | none => exact .inr rfl
  | some other =>
    cases (grows.kept location other kept).symm.trans found
    exact .inl rfl

/-- A walk to something that is there ends there in a smaller tree too, unless it comes upon a name
that is free now. -/
theorem Leads.shrink (leads : Leads larger purpose links location steps (.taken lies entry))
    (grows : Grows smaller larger) :
    smaller.walk purpose links location steps = .ok (.taken lies entry) ∨
      Misses (smaller.walk purpose links location steps) := by
  generalize same : Place.taken lies entry = reached at leads ⊢
  induction leads with
  | @arrived links =>
    left
    cases links with
    | zero => rfl
    | succ => rfl
  | @here links _ _ _ _ ih =>
    cases links with
    | zero => exact ih same
    | succ => exact ih same
  | @closing links _ _ _ _ ih =>
    cases links with
    | zero => exact ih same
    | succ => exact ih same
  | @up links _ _ _ _ ih =>
    cases links with
    | zero => exact ih same
    | succ => exact ih same
  | vacant => cases same
  | vacantDirectory => cases same
  | entered passable found _ ih =>
    rcases grows.get?_eq_or found with kept | gone
    · rw [walk_name_of_directory passable kept]
      exact ih same
    · exact .inr (misses_of_absent passable gone)
  | file passable found =>
    rcases grows.get?_eq_or found with kept | gone
    · exact .inl (Leads.file passable kept).walk_eq
    · exact .inr (misses_of_absent passable gone)
  | link passable peeking found =>
    rcases grows.get?_eq_or found with kept | gone
    · exact .inl (Leads.link passable peeking kept).walk_eq
    · exact .inr (misses_of_absent passable gone)
  | followed passable found through _ ih =>
    rcases grows.get?_eq_or found with kept | gone
    · rw [walk_name_of_link passable kept through]
      exact ih same
    · exact .inr (misses_of_absent passable gone)

/-- A text that led to something leads there in a smaller tree too, or nothing is found by it. -/
theorem Grows.find_eq_or {text : String} (grows : Grows smaller larger)
    (found : larger.find purpose text = .ok (lies, entry)) :
    smaller.find purpose text = .ok (lies, entry) ∨
      smaller.find purpose text = .error (.system .missing) := by
  obtain ⟨route, readable, leads⟩ := find_eq_ok_iff.mp found
  rw [grows.start] at leads
  rcases leads.shrink grows with kept | misses
  · exact .inl (find_eq_ok_iff.mpr ⟨route, readable, leads_of_walk kept⟩)
  · right
    rw [FileTree.find, place, readable]
    show (Except.mapError Fault.system (smaller.walk purpose linkLimit _ route.steps) >>= _) = _
    rcases misses with failed | ⟨parent, name, asDirectory, free⟩
    · rw [failed]
      rfl
    · rw [free]
      rfl

/-! ## The directory that holds the last step -/

theorem walkDirectory_eq_ok_iff_walk {absolute : Bool} :
    tree.walkDirectory absolute steps = .ok last ↔
      ∃ entry, tree.walk .look linkLimit (if absolute then [] else tree.start)
        (steps ++ [.closing]) = .ok (.taken last entry) := by
  rw [walkDirectory]
  generalize tree.walk .look linkLimit (if absolute then [] else tree.start)
    (steps ++ [.closing]) = found
  match found with
  | .error failure => exact ⟨nofun, nofun⟩
  | .ok (.free parent name asDirectory) => exact ⟨nofun, nofun⟩
  | .ok (.taken lies entry) =>
    exact ⟨fun same => by cases same; exact ⟨entry, rfl⟩, fun ⟨_, same⟩ => by cases same; rfl⟩

private theorem walkDirectory_of_misses {absolute : Bool}
    (misses : Misses (tree.walk .look linkLimit (if absolute then [] else tree.start)
      (steps ++ [.closing]))) : tree.walkDirectory absolute steps = .error .missing := by
  rw [walkDirectory]
  rcases misses with failed | ⟨parent, name, asDirectory, free⟩
  · rw [failed]
    rfl
  · rw [free]
    rfl

/-- A directory is walked to exactly by passing all of the steps. -/
theorem walkDirectory_eq_ok_iff {absolute : Bool} :
    tree.walkDirectory absolute steps = .ok last ↔
      ∃ left, Passes tree linkLimit (if absolute then [] else tree.start) steps left last := by
  rw [walkDirectory_eq_ok_iff_walk]
  constructor
  · rintro ⟨entry, found⟩
    obtain ⟨left, last, passes, leads⟩ := (leads_of_walk found).passes (by simp)
    cases leads.eq_of_closing
    exact ⟨left, passes⟩
  · rintro ⟨left, passes⟩
    have leads : Leads tree .look left last [.closing] (.taken last .directory) := .closing .arrived
    exact ⟨.directory, (passes.leads leads nofun (by simp)).walk_eq⟩

theorem walkDirectory_shrink {absolute : Bool}
    (walked : larger.walkDirectory absolute steps = .ok last) (grows : Grows smaller larger) :
    smaller.walkDirectory absolute steps = .ok last ∨
      smaller.walkDirectory absolute steps = .error .missing := by
  obtain ⟨entry, found⟩ := walkDirectory_eq_ok_iff_walk.mp walked
  rw [grows.start] at found
  rcases (leads_of_walk found).shrink grows with kept | misses
  · exact .inl (walkDirectory_eq_ok_iff_walk.mpr ⟨entry, kept⟩)
  · exact .inr (walkDirectory_of_misses misses)

theorem holder_eq {text : String} (readable : Route.ofText text = .ok (Route.spell text)) :
    tree.holder text =
      ((tree.walkDirectory (Route.spell text).absolute
        (Route.spell text).withoutClosing.steps.dropLast).mapError .system).map
        fun parent => (parent, (Route.spell text).withoutClosing.steps.getLast?) := by
  rw [holder, readable]
  show (Except.mapError _ (tree.walkDirectory (Route.spell text).absolute _) >>= _) = _
  cases tree.walkDirectory (Route.spell text).absolute
    (Route.spell text).withoutClosing.steps.dropLast <;> rfl

theorem holder_eq_ok_iff {text : String} {step : Option Step} :
    tree.holder text = .ok (last, step) ↔
      Route.ofText text = .ok (Route.spell text) ∧
        (Route.spell text).withoutClosing.steps.getLast? = step ∧
        ∃ left, Passes tree linkLimit (if (Route.spell text).absolute then [] else tree.start)
          (Route.spell text).withoutClosing.steps.dropLast left last := by
  rw [← walkDirectory_eq_ok_iff]
  match read : Route.ofText text with
  | .error fault =>
    rw [holder, read]
    exact ⟨nofun, nofun⟩
  | .ok route =>
    cases Route.eq_spell_of_ofText read
    rw [holder_eq read]
    generalize tree.walkDirectory _ _ = found
    match found with
    | .error failure => exact ⟨nofun, nofun⟩
    | .ok parent =>
      exact ⟨fun same => by cases same; exact ⟨rfl, rfl, rfl⟩,
        fun ⟨_, ended, same⟩ => by cases same; cases ended; rfl⟩

/-- In a smaller tree the directory is the same, or something on the way there is missing. -/
theorem holder_shrink {text : String} {step : Option Step}
    (held : larger.holder text = .ok (last, step)) (grows : Grows smaller larger) :
    smaller.holder text = .ok (last, step) ∨ smaller.holder text = .error (.system .missing) := by
  obtain ⟨readable, ended, walked⟩ := holder_eq_ok_iff.mp held
  rcases walkDirectory_shrink (walkDirectory_eq_ok_iff.mpr walked) grows with kept | missing
  · exact .inl (holder_eq_ok_iff.mpr ⟨readable, ended, walkDirectory_eq_ok_iff.mp kept⟩)
  · right
    rw [holder_eq readable, missing]
    rfl

/-- In a larger tree the directory is the same. -/
theorem holder_grow {text : String} {step : Option Step}
    (held : smaller.holder text = .ok (last, step)) (grows : Grows smaller larger) :
    larger.holder text = .ok (last, step) := by
  obtain ⟨readable, ended, walked⟩ := holder_eq_ok_iff.mp held
  refine holder_eq_ok_iff.mpr ⟨readable, ended, walkDirectory_eq_ok_iff.mp ?_⟩
  obtain ⟨entry, found⟩ :=
    walkDirectory_eq_ok_iff_walk.mp (walkDirectory_eq_ok_iff.mpr walked)
  refine walkDirectory_eq_ok_iff_walk.mpr ⟨entry, ?_⟩
  rw [grows.start]
  exact ((leads_of_walk found).grow grows).walk_eq

/-! ## Texts that end in a name -/

variable {text name : String} {parent : Location}

/-- What is found is looked up by the last step in the directory that holds it. -/
theorem exists_holder_of_find {step : Step} (found : tree.find purpose text = .ok (lies, entry))
    (ended : (Route.spell text).withoutClosing.steps.getLast? = some step) :
    ∃ parent left, tree.holder text = .ok (parent, some step) ∧
      Leads tree purpose left parent (step :: Route.behind text) (.taken lies entry) := by
  obtain ⟨route, readable, leads⟩ := find_eq_ok_iff.mp found
  cases Route.eq_spell_of_ofText readable
  rw [Route.steps_spell_of_getLast? ended] at leads
  obtain ⟨left, parent, passes, leads⟩ := leads.passes nofun
  exact ⟨parent, left, holder_eq_ok_iff.mpr ⟨readable, ended, left, passes⟩, leads⟩

/-- A text without steps names the root, or nothing. -/
theorem holder_of_stepless (readable : Route.ofText text = .ok (Route.spell text))
    (ended : (Route.spell text).withoutClosing.steps.getLast? = none) :
    tree.holder text = .ok (if (Route.spell text).absolute then [] else tree.start, none) := by
  refine holder_eq_ok_iff.mpr ⟨readable, ended, linkLimit, ?_⟩
  rw [List.getLast?_eq_none_iff.mp ended]
  exact .stayed

/-- A directory under a last name is found by it. -/
theorem find_of_holder (held : tree.holder text = .ok (parent, some (.name name)))
    (short : name.utf8ByteSize ≤ Route.nameLimit)
    (found : tree.get? (parent ++ [name]) = some .directory) (unwritten : purpose ≠ .write) :
    tree.find purpose text = .ok (parent ++ [name], .directory) := by
  obtain ⟨readable, named, left, passes⟩ := holder_eq_ok_iff.mp held
  have leads : Leads tree purpose left parent (.name name :: Route.behind text)
      (.taken (parent ++ [name]) .directory) := by
    refine .entered ⟨fun writing => unwritten writing.1, short⟩ found ?_
    unfold Route.behind
    split
    · exact .closing .arrived
    · exact .arrived
  refine find_eq_ok_iff.mpr ⟨_, readable, ?_⟩
  rw [Route.steps_spell_of_getLast? named]
  exact passes.leads leads unwritten nofun

/-- To one that peeks, a name at the end is the entry itself. -/
theorem Leads.of_last_name (leads : Leads tree .peek links parent [.name name] (.taken lies entry)) :
    lies = parent ++ [name] ∧ name.utf8ByteSize ≤ Route.nameLimit ∧
      tree.get? (parent ++ [name]) = some entry := by
  cases leads with
  | entered passable found later =>
    cases later
    exact ⟨rfl, passable.2, found⟩
  | file passable found => exact ⟨rfl, passable.2, found⟩
  | link passable _ found => exact ⟨rfl, passable.2, found⟩
  | followed _ _ through => exact absurd ⟨rfl, rfl⟩ through

/-- An entry is what its name at the end leads one to that peeks. -/
theorem leads_of_last_name (short : name.utf8ByteSize ≤ Route.nameLimit)
    (found : tree.get? (parent ++ [name]) = some entry) :
    Leads tree .peek links parent [.name name] (.taken (parent ++ [name]) entry) := by
  cases entry with
  | directory => exact .entered ⟨nofun, short⟩ found .arrived
  | file identity => exact .file ⟨nofun, short⟩ found
  | link target => exact .link ⟨nofun, short⟩ rfl found

/-- What a walk comes to by one step is what the step alone leads to. -/
theorem Leads.exists_first {step : Step}
    (leads : Leads tree purpose links parent (step :: rest) (.taken lies entry)) :
    ∃ place own, ∀ links, Leads tree .peek links parent [step] (.taken place own) := by
  cases leads with
  | here => exact ⟨parent, .directory, fun _ => .here .arrived⟩
  | closing => exact ⟨parent, .directory, fun _ => .closing .arrived⟩
  | up => exact ⟨parent.dropLast, .directory, fun _ => .up .arrived⟩
  | entered passable found => exact ⟨_, _, fun _ => leads_of_last_name passable.2 found⟩
  | file passable found => exact ⟨_, _, fun _ => leads_of_last_name passable.2 found⟩
  | link passable _ found => exact ⟨_, _, fun _ => leads_of_last_name passable.2 found⟩
  | followed passable found => exact ⟨_, _, fun _ => leads_of_last_name passable.2 found⟩

/-- Only a name leads to anything but a directory. -/
theorem Leads.exists_name (leads : Leads tree purpose links location steps (.taken lies entry))
    (lone : entry ≠ .directory) : ∃ name, steps.getLast? = some (.name name) := by
  rcases steps.eq_nil_or_concat with rfl | ⟨first, last, rfl⟩
  · cases leads
    exact absurd rfl lone
  · rw [List.concat_eq_append] at leads ⊢
    obtain ⟨left, parent, -, leads⟩ := leads.passes (by simp)
    cases last with
    | name name => exact ⟨name, List.getLast?_concat ..⟩
    | here => cases leads with | here later => cases later; exact absurd rfl lone
    | up => cases leads with | up later => cases later; exact absurd rfl lone
    | closing => cases leads with | closing later => cases later; exact absurd rfl lone

/-- A text that leads to a file spells a name last, with no slash behind it. -/
theorem exists_name_of_fileAt? {identity : Nat} (found : tree.fileAt? text = some identity) :
    ∃ name, (Route.spell text).withoutClosing.steps.getLast? = some (.name name) ∧
      text.toList.getLast? ≠ some '/' := by
  obtain ⟨lies, looked⟩ := fileAt?_eq_some_iff.mp found
  obtain ⟨route, readable, leads⟩ := find_eq_ok_iff.mp looked
  cases Route.eq_spell_of_ofText readable
  obtain ⟨name, named⟩ := leads.exists_name nofun
  have steps := Route.steps_spell text
  split at steps
  · rw [steps, List.getLast?_concat] at named
    cases named
  · rename_i ended
    rw [steps] at named
    refine ⟨name, named, fun slashed => ended ⟨slashed, fun empty => ?_⟩⟩
    rw [empty] at named
    cases named

/-- A text that leads to a file has a last name. -/
theorem exists_fileName_of_fileAt? {identity : Nat} (found : tree.fileAt? text = some identity) :
    ∃ name, PathText.fileName? text = some name := by
  obtain ⟨name, named, -⟩ := exists_name_of_fileAt? found
  exact ⟨name, PathText.fileName?_of_spell named⟩

/-! ## Slashes behind a text -/

/-- A directory is found by a text with slashes behind it too, if that is not too long. -/
theorem find_of_trimmed (readable : Route.ofText text = .ok (Route.spell text))
    (stepping : (Route.spell (PathText.trimmed text)).steps ≠ [])
    (found : tree.find purpose (PathText.trimmed text) = .ok (lies, .directory))
    (unwritten : purpose ≠ .write) : tree.find purpose text = .ok (lies, .directory) := by
  by_cases slashed : text.toList.getLast? = some '/'
  · obtain ⟨route, trimmed, leads⟩ := find_eq_ok_iff.mp found
    rw [Route.eq_spell_of_ofText trimmed] at leads
    have spelled := Route.spell_of_slash slashed stepping
    have start : (Route.spell text).absolute = (Route.spell (PathText.trimmed text)).absolute := by
      rw [spelled]
    have steps : (Route.spell text).steps =
        (Route.spell (PathText.trimmed text)).steps ++ [.closing] := by
      rw [spelled]
    refine find_eq_ok_iff.mpr ⟨_, readable, ?_⟩
    rw [start, steps]
    exact leads.append_closing unwritten
  · rwa [PathText.trimmed_of_plain slashed] at found

/-- Nothing but a directory is found by a text with slashes behind it. -/
theorem eq_directory_of_slash (slashed : text.toList.getLast? = some '/')
    (stepping : (Route.spell (PathText.trimmed text)).steps ≠ [])
    (found : tree.find purpose text = .ok (lies, entry)) : entry = .directory := by
  obtain ⟨route, readable, leads⟩ := find_eq_ok_iff.mp found
  cases Route.eq_spell_of_ofText readable
  rw [Route.spell_of_slash slashed stepping] at leads
  obtain ⟨left, last, -, leads⟩ := leads.passes (by simp)
  cases leads.eq_of_closing
  rfl

theorem trimmed_ne_empty (found : tree.find purpose (PathText.trimmed text) = .ok (lies, entry)) :
    PathText.trimmed text ≠ "" := by
  obtain ⟨route, readable, -⟩ := find_eq_ok_iff.mp found
  intro empty
  rw [empty] at readable
  cases readable

/-- The directory that holds the last step is the same without the slashes behind it. -/
theorem holder_trimmed (readable : Route.ofText text = .ok (Route.spell text))
    (nonempty : PathText.trimmed text ≠ "") :
    tree.holder (PathText.trimmed text) = tree.holder text := by
  have same := Route.withoutClosing_spell_eq nonempty
  have plain := Route.spell_of_plain (PathText.getLast?_trimmed text)
  have start : (Route.spell text).absolute = (Route.spell (PathText.trimmed text)).absolute := by
    rw [← same]
    rfl
  rw [holder_eq (Route.ofText_trimmed readable nonempty), holder_eq readable, plain, same, start]

/-- What a text names, slashes behind it aside, is looked up by its last step alone. -/
theorem exists_holder_of_find_trimmed {step : Step}
    (readable : Route.ofText text = .ok (Route.spell text))
    (ended : (Route.spell text).withoutClosing.steps.getLast? = some step)
    (found : tree.find purpose (PathText.trimmed text) = .ok (lies, entry)) :
    ∃ parent left, tree.holder text = .ok (parent, some step) ∧
      Leads tree purpose left parent [step] (.taken lies entry) := by
  have nonempty := trimmed_ne_empty found
  have same := Route.withoutClosing_spell_eq nonempty
  have plain := Route.spell_of_plain (PathText.getLast?_trimmed text)
  obtain ⟨parent, left, held, leads⟩ := exists_holder_of_find found (by rwa [plain, ← same])
  rw [holder_trimmed readable nonempty] at held
  rw [Route.behind_trimmed] at leads
  exact ⟨parent, left, held, leads⟩

/-- What the last step alone leads to is what the text names, slashes behind it aside. -/
theorem find_trimmed_of_holder {step : Step} (held : tree.holder text = .ok (parent, some step))
    (leads : ∀ links, Leads tree purpose links parent [step] (.taken lies entry))
    (unwritten : purpose ≠ .write) :
    tree.find purpose (PathText.trimmed text) = .ok (lies, entry) := by
  obtain ⟨readable, ended, -⟩ := holder_eq_ok_iff.mp held
  have nonempty : PathText.trimmed text ≠ "" := by
    refine Route.trimmed_ne_empty_of_steps fun none => ?_
    rw [none] at ended
    cases ended
  rw [← holder_trimmed readable nonempty] at held
  obtain ⟨trimmed, ended, left, passes⟩ := holder_eq_ok_iff.mp held
  refine find_eq_ok_iff.mpr ⟨_, trimmed, ?_⟩
  rw [Route.steps_spell_of_getLast? ended, Route.behind_trimmed]
  exact passes.leads (leads left) unwritten nofun

/-- The entry that a text names, slashes behind it aside, lies in the directory that holds the last
step of the text. -/
theorem exists_holder_of_peek_trimmed (readable : Route.ofText text = .ok (Route.spell text))
    (found : tree.peek (PathText.trimmed text) = .ok (lies, entry))
    (named : (Route.spell text).withoutClosing.steps.getLast? = some (.name name)) :
    ∃ parent, tree.holder text = .ok (parent, some (.name name)) ∧ lies = parent ++ [name] ∧
      name.utf8ByteSize ≤ Route.nameLimit ∧ tree.get? lies = some entry := by
  obtain ⟨parent, left, held, leads⟩ := exists_holder_of_find_trimmed readable named found
  obtain ⟨rfl, short, seen⟩ := leads.of_last_name
  exact ⟨parent, held, rfl, short, seen⟩

end Haulage.FileTree
