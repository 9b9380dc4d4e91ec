import Haulage.Files.Walk

/-! Walks that end somewhere, one form for each step they can take. The executable walk finds exactly
these, so a fact about walks is shown step by step, with links followed like any other step. -/
namespace Haulage

open Files

/-- What a walk has seen of the place it ends at. A directory may be where it began. -/
def Place.Seen (tree : FileTree) (purpose : Purpose) : Place → Prop
  | .taken _ .directory => True
  | .taken lies entry => tree.get? lies = some entry
  | .free parent name asDirectory =>
    tree.get? (parent ++ [name]) = none ∧ (purpose = .write → asDirectory = false)

namespace FileTree

/-- Whether a name can be looked up at all with these steps behind it. -/
def Passable (purpose : Purpose) (name : String) (rest : List Step) : Prop :=
  ¬ (purpose = .write ∧ rest = [.closing]) ∧ name.utf8ByteSize ≤ Route.nameLimit

/-- The directory where the target of a link begins. -/
def linkStart (location : Location) (target : String) : Location :=
  if (Route.spell target).absolute then [] else location

/-- The steps lead from a directory to a place, over at most so many links. -/
inductive Leads (tree : FileTree) (purpose : Purpose) :
    Nat → Location → List Step → Place → Prop where
  | arrived : Leads tree purpose links location [] (.taken location .directory)
  | here (later : Leads tree purpose links location rest reached) :
      Leads tree purpose links location (.here :: rest) reached
  | closing (later : Leads tree purpose links location rest reached) :
      Leads tree purpose links location (.closing :: rest) reached
  | up (later : Leads tree purpose links location.dropLast rest reached) :
      Leads tree purpose links location (.up :: rest) reached
  | vacant (passable : Passable purpose name [])
      (absent : tree.get? (location ++ [name]) = none) :
      Leads tree purpose links location [.name name] (.free location name false)
  | vacantDirectory (passable : Passable purpose name [.closing])
      (absent : tree.get? (location ++ [name]) = none) :
      Leads tree purpose links location [.name name, .closing] (.free location name true)
  | entered (passable : Passable purpose name rest)
      (found : tree.get? (location ++ [name]) = some .directory)
      (later : Leads tree purpose links (location ++ [name]) rest reached) :
      Leads tree purpose links location (.name name :: rest) reached
  | file (passable : Passable purpose name [])
      (found : tree.get? (location ++ [name]) = some (.file identity)) :
      Leads tree purpose links location [.name name] (.taken (location ++ [name]) (.file identity))
  | link (passable : Passable purpose name []) (peeking : purpose = .peek)
      (found : tree.get? (location ++ [name]) = some (.link target)) :
      Leads tree purpose links location [.name name] (.taken (location ++ [name]) (.link target))
  | followed (passable : Passable purpose name rest)
      (found : tree.get? (location ++ [name]) = some (.link target))
      (through : ¬ (rest = [] ∧ purpose = .peek))
      (later : Leads tree purpose links (linkStart location target)
        ((Route.spell target).steps ++ rest) reached) :
      Leads tree purpose (links + 1) location (.name name :: rest) reached

variable {tree : FileTree} {purpose : Purpose} {links : Nat} {location : Location}
  {steps : List Step} {reached : Place}

/-! ## The executable walk -/

/-- How a walk goes on behind a link. -/
private def follow (tree : FileTree) (purpose : Purpose) :
    Nat → Location → List Step → Except Failure Place
  | 0 => fun _ _ => .error .linkLoop
  | links + 1 => tree.walk purpose links

private theorem walk_eq_advance (links : Nat) :
    tree.walk purpose links = tree.advance purpose (follow tree purpose links) := by
  cases links <;> rfl

/-- The walks that go on behind the next link are known to lead where they end. -/
private def LeadsBehind (tree : FileTree) (purpose : Purpose) (links : Nat) : Prop :=
  ∀ fewer, links = fewer + 1 → ∀ {location steps reached},
    tree.walk purpose fewer location steps = .ok reached →
    Leads tree purpose fewer location steps reached

private theorem leads_of_name {name : String} {rest : List Step}
    (behind : LeadsBehind tree purpose links)
    (inside : tree.advance purpose (follow tree purpose links) (location ++ [name]) rest =
      .ok reached → Leads tree purpose links (location ++ [name]) rest reached)
    (walked : tree.advance purpose (follow tree purpose links) location (.name name :: rest) =
      .ok reached) : Leads tree purpose links location (.name name :: rest) reached := by
  rw [advance] at walked
  by_cases slashed : purpose = .write ∧ rest = [.closing]
  · rw [if_pos slashed] at walked
    cases walked
  by_cases long : Route.nameLimit < name.utf8ByteSize
  · rw [if_neg slashed, if_pos long] at walked
    cases walked
  have passable : Passable purpose name rest := ⟨slashed, Nat.le_of_not_lt long⟩
  rw [if_neg slashed, if_neg long] at walked
  cases found : tree.get? (location ++ [name]) with
  | none =>
    rw [found] at walked
    dsimp only at walked
    split at walked
    · rename_i last
      subst last
      cases walked
      exact .vacant passable found
    · split at walked
      · rename_i last
        subst last
        cases walked
        exact .vacantDirectory passable found
      · cases walked
  | some entry =>
    rw [found] at walked
    cases entry with
    | directory => exact .entered passable found (inside walked)
    | file identity =>
      dsimp only at walked
      split at walked
      · rename_i last
        subst last
        cases walked
        exact .file passable found
      · cases walked
    | link target =>
      dsimp only at walked
      split at walked
      · rename_i last
        obtain ⟨rfl, peeking⟩ := last
        cases walked
        exact .link passable peeking found
      · rename_i through
        cases links with
        | zero => cases walked
        | succ fewer => exact .followed passable found through (behind fewer rfl walked)

private theorem leads_of_advance (behind : LeadsBehind tree purpose links)
    (walked : tree.advance purpose (follow tree purpose links) location steps = .ok reached) :
    Leads tree purpose links location steps reached := by
  induction steps generalizing location with
  | nil =>
    cases walked
    exact .arrived
  | cons step rest ih =>
    cases step with
    | here => exact .here (ih walked)
    | closing => exact .closing (ih walked)
    | up => exact .up (ih walked)
    | name name => exact leads_of_name behind ih walked

theorem leads_of_walk (walked : tree.walk purpose links location steps = .ok reached) :
    Leads tree purpose links location steps reached := by
  induction links generalizing location steps reached with
  | zero =>
    rw [walk_eq_advance] at walked
    exact leads_of_advance (fun _ impossible => nomatch impossible) walked
  | succ links ih =>
    rw [walk_eq_advance] at walked
    exact leads_of_advance (fun fewer same => by cases same; exact ih) walked

theorem Leads.walk_eq (leads : Leads tree purpose links location steps reached) :
    tree.walk purpose links location steps = .ok reached := by
  rw [walk_eq_advance]
  induction leads with
  | arrived => rfl
  | here _ ih => exact ih
  | closing _ ih => exact ih
  | up _ ih => exact ih
  | vacant passable absent =>
    rw [advance, if_neg passable.1, if_neg (Nat.not_lt_of_le passable.2), absent]
    rfl
  | vacantDirectory passable absent =>
    rw [advance, if_neg passable.1, if_neg (Nat.not_lt_of_le passable.2), absent]
    rfl
  | entered passable found _ ih =>
    rw [advance, if_neg passable.1, if_neg (Nat.not_lt_of_le passable.2), found]
    exact ih
  | file passable found =>
    rw [advance, if_neg passable.1, if_neg (Nat.not_lt_of_le passable.2), found]
    rfl
  | link passable peeking found =>
    rw [advance, if_neg passable.1, if_neg (Nat.not_lt_of_le passable.2), found]
    exact if_pos ⟨rfl, peeking⟩
  | followed passable found through _ ih =>
    rw [advance, if_neg passable.1, if_neg (Nat.not_lt_of_le passable.2), found]
    refine (if_neg through).trans ?_
    rw [← walk_eq_advance] at ih
    exact ih

/-- A walk ends somewhere exactly when its steps lead there. -/
theorem walk_eq_ok_iff : tree.walk purpose links location steps = .ok reached ↔
    Leads tree purpose links location steps reached :=
  ⟨leads_of_walk, Leads.walk_eq⟩

private theorem getLast?_of_cons {step : Step} {rest : List Step}
    (slashed : (step :: rest).getLast? = some .closing) (other : step ≠ .closing) :
    rest.getLast? = some .closing := by
  cases rest with
  | nil => exact absurd (Option.some.inj slashed) other
  | cons next rest => rwa [List.getLast?_cons_cons] at slashed

namespace Leads

/-- What is asked for as a directory is no file, however many links stand before the slash. -/
theorem ne_file_of_getLast? (leads : Leads tree purpose links location steps reached)
    (slashed : steps.getLast? = some .closing) (lies : Location) (identity : Nat) :
    reached ≠ .taken lies (.file identity) := by
  induction leads with
  | arrived => cases slashed
  | here _ ih => exact ih (getLast?_of_cons slashed nofun)
  | closing later ih =>
    cases later with
    | arrived => exact nofun
    | _ => exact ih slashed
  | up _ ih => exact ih (getLast?_of_cons slashed nofun)
  | vacant => cases slashed
  | vacantDirectory => exact nofun
  | entered _ _ _ ih => exact ih (getLast?_of_cons slashed nofun)
  | file => cases slashed
  | link => cases slashed
  | followed _ _ _ _ ih =>
    refine ih ?_
    rw [List.getLast?_append, getLast?_of_cons slashed nofun]
    rfl

/-- A file is reached for one purpose just as for any other that follows links. -/
theorem file_of_ne_peek {lies : Location} {identity : Nat} {other : Purpose}
    (leads : Leads tree purpose links location steps (.taken lies (.file identity)))
    (follows : other ≠ .peek) :
    Leads tree other links location steps (.taken lies (.file identity)) := by
  have passes {links location name rest}
      (later : Leads tree purpose links location (.name name :: rest) (.taken lies (.file identity)))
      (passable : Passable purpose name rest) : Passable other name rest := by
    refine ⟨?_, passable.2⟩
    rintro ⟨-, rfl⟩
    exact later.ne_file_of_getLast? rfl lies identity rfl
  generalize same : Place.taken lies (.file identity) = reached at leads
  induction leads with
  | arrived => cases same
  | here _ ih => exact .here (ih same)
  | closing _ ih => exact .closing (ih same)
  | up _ ih => exact .up (ih same)
  | vacant => cases same
  | vacantDirectory => cases same
  | entered passable found later ih =>
    subst same
    exact .entered (passes (.entered passable found later) passable) found (ih rfl)
  | file passable found =>
    cases same
    exact .file ⟨fun shut => (nomatch shut.2), passable.2⟩ found
  | link => cases same
  | followed passable found through later ih =>
    subst same
    exact .followed (passes (.followed passable found through later) passable) found
      (fun peeked => follows peeked.2) (ih rfl)

theorem seen (leads : Leads tree purpose links location steps reached) : reached.Seen tree purpose := by
  induction leads with
  | arrived => trivial
  | here _ ih => exact ih
  | closing _ ih => exact ih
  | up _ ih => exact ih
  | vacant _ absent => exact ⟨absent, fun _ => rfl⟩
  | vacantDirectory passable absent =>
    exact ⟨absent, fun writing => absurd ⟨writing, rfl⟩ passable.1⟩
  | entered _ _ _ ih => exact ih
  | file _ found => exact found
  | link _ _ found => exact found
  | followed _ _ _ _ ih => exact ih

end Leads

/-! ## The files that texts name -/

theorem place_eq_ok_iff {text : String} : tree.place purpose text = .ok reached ↔
    ∃ route, Route.ofText text = .ok route ∧
      Leads tree purpose linkLimit (if route.absolute then [] else tree.start) route.steps
        reached := by
  rw [place]
  match read : Route.ofText text with
  | .error fault => exact ⟨nofun, fun ⟨_, readable, _⟩ => nomatch readable⟩
  | .ok route =>
    refine Iff.trans ?_ ⟨fun leads => ⟨route, rfl, leads⟩, fun ⟨_, same, leads⟩ => ?_⟩
    · rw [← walk_eq_ok_iff]
      show Except.mapError _ _ = _ ↔ _
      cases tree.walk purpose linkLimit _ route.steps with
      | error failure => exact ⟨nofun, nofun⟩
      | ok found => exact ⟨fun same => by cases same; rfl, fun same => by cases same; rfl⟩
    · cases same
      exact leads

theorem find_eq_ok_iff {text : String} {lies : Location} {entry : Entry} :
    tree.find purpose text = .ok (lies, entry) ↔
      ∃ route, Route.ofText text = .ok route ∧
        Leads tree purpose linkLimit (if route.absolute then [] else tree.start) route.steps
          (.taken lies entry) := by
  rw [← place_eq_ok_iff, find]
  match tree.place purpose text with
  | .error fault => exact ⟨nofun, nofun⟩
  | .ok (.free parent name asDirectory) => exact ⟨nofun, nofun⟩
  | .ok (.taken location found) =>
    exact ⟨fun same => by cases same; rfl, fun same => by cases same; rfl⟩

theorem fileAt?_eq_some_iff {text : String} {identity : Nat} :
    tree.fileAt? text = some identity ↔ ∃ lies, tree.look text = .ok (lies, .file identity) := by
  rw [fileAt?]
  match tree.look text with
  | .error fault => simp
  | .ok (lies, .directory) => simp
  | .ok (lies, .file other) => simp
  | .ok (lies, .link target) => simp

/-- The file to write to is the file that is there to read. -/
theorem look_eq_ok_file_iff {text : String} {lies : Location} {identity : Nat} :
    tree.look text = .ok (lies, .file identity) ↔
      tree.place .write text = .ok (.taken lies (.file identity)) := by
  rw [look, find_eq_ok_iff, place_eq_ok_iff]
  constructor
  · rintro ⟨route, readable, leads⟩
    exact ⟨route, readable, leads.file_of_ne_peek nofun⟩
  · rintro ⟨route, readable, leads⟩
    exact ⟨route, readable, leads.file_of_ne_peek nofun⟩

theorem fileAt?_eq_some_iff_write {text : String} {identity : Nat} :
    tree.fileAt? text = some identity ↔
      ∃ lies, tree.place .write text = .ok (.taken lies (.file identity)) := by
  simp only [fileAt?_eq_some_iff, look_eq_ok_file_iff]

end FileTree

end Haulage
