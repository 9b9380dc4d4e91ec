import Haulage.Proofs.Files.Furnishing

/-! Directories that are there already. Making one again is no failure and changes nothing, and once the
directories above a place have been made, making them anew finds the nearest one there and is done. -/
namespace Haulage.FileTree

open Files Change

variable {tree middle after : FileTree} {text nearest : String} {above missing : List String}

/-! ## One directory -/

/-- What is there by a text is in the way of making a directory by it. -/
private theorem makeDirectory_of_found {lies : Location} {entry : Entry}
    (found : tree.look text = .ok (lies, entry)) :
    (makeDirectory text).perform tree = (.error (.system .exists), tree) := by
  rw [makeDirectory, perform_get_bind, perform_liftM_bind]
  cases ended : (Route.spell text).withoutClosing.steps.getLast? with
  | none =>
    obtain ⟨route, readable, -⟩ := find_eq_ok_iff.mp found
    cases Route.eq_spell_of_ofText readable
    rw [holder_of_stepless readable ended]
    rfl
  | some step =>
    obtain ⟨parent, left, held, leads⟩ := exists_holder_of_find found ended
    rw [held]
    cases step with
    | here => rfl
    | up => rfl
    | closing => rfl
    | name name =>
      obtain ⟨place, own, alone⟩ := leads.exists_first
      obtain ⟨-, short, seen⟩ := (alone 0).of_last_name
      dsimp only
      rw [if_neg (Nat.not_lt_of_le short), seen]
      rfl

theorem ensureDirectory_of_isDirectory (standing : tree.isDirectory text = true) :
    (ensureDirectory text).perform tree = (.ok (), tree) := by
  obtain ⟨location, found⟩ := isDirectory_iff.mp standing
  rw [ensureDirectory, perform_tryCatch, makeDirectory_of_found found]
  dsimp only
  rw [perform_get_bind, if_pos ⟨rfl, standing⟩]
  rfl

private theorem isDirectory_of_makeDirectory
    (performed : (makeDirectory text).perform tree = (.ok (), after)) :
    after.isDirectory text = true := by
  have made := makeDirectory_made text tree
  rw [performed] at made
  cases made with
  | made held short free =>
    exact isDirectory_iff.mpr ⟨_, look_insert_directory held short free⟩

/-- A directory that has been seen to is there. -/
theorem isDirectory_of_ensureDirectory
    (performed : (ensureDirectory text).perform tree = (.ok (), after)) :
    after.isDirectory text = true := by
  rw [ensureDirectory, perform_tryCatch] at performed
  split at performed
  · rename_i made
    cases performed
    exact isDirectory_of_makeDirectory made
  · rename_i fault later refused
    rw [perform_get_bind] at performed
    split at performed
    · rename_i standing
      cases performed
      exact standing.2
    · cases performed

/-! ## Directories above a place -/

/-- The search for what is missing ends at the nearest directory, or gives it last. -/
private theorem missingBelow_cons
    (performed : (missingBelow (nearest :: above)).perform tree = (.ok missing, after)) :
    (ensureDirectory nearest).perform tree = (.ok (), after) ∧ missing = [] ∨
      ∃ farther, missing = farther ++ [nearest] := by
  rw [missingBelow, perform_bind, perform_tryCatch, perform_bind] at performed
  rcases ensured : (ensureDirectory nearest).perform tree with ⟨fault | made, middle⟩
  · rw [ensured] at performed
    dsimp only at performed
    by_cases lacking : fault = .system .missing
    · rw [if_pos lacking] at performed
      change ((missingBelow above >>= fun farther =>
        pure (farther ++ [nearest]) : Change _).perform middle = _) at performed
      rw [perform_bind] at performed
      split at performed
      · rename_i farther reached searched
        cases performed
        exact .inr ⟨farther, rfl⟩
      · cases performed
    · rw [if_neg lacking] at performed
      cases performed
  · rw [ensured] at performed
    cases performed
    exact .inl ⟨rfl, rfl⟩

private theorem ensureDirectory_of_forM {texts : List String}
    (performed : ((texts ++ [text]).forM ensureDirectory).perform tree = (.ok (), after)) :
    ∃ before, (ensureDirectory text).perform before = (.ok (), after) := by
  induction texts generalizing tree with
  | nil =>
    change ((ensureDirectory text >>= fun _ => pure ()).perform tree = _) at performed
    rw [perform_bind] at performed
    split at performed
    · rename_i made middle ensured
      cases performed
      exact ⟨tree, ensured⟩
    · cases performed
  | cons first rest ih =>
    change ((ensureDirectory first >>= fun _ => (rest ++ [text]).forM ensureDirectory).perform
      tree = _) at performed
    rw [perform_bind] at performed
    split at performed
    · exact ih performed
    · cases performed

/-- Once the directories above a place have been made, the nearest one is there. -/
theorem isDirectory_of_makeDirectories
    (performed : (makeDirectories (nearest :: above)).perform tree = (.ok (), after)) :
    after.isDirectory nearest = true := by
  rw [makeDirectories, perform_bind] at performed
  split at performed
  · rename_i missing middle searched
    rcases missingBelow_cons searched with ⟨ensured, rfl⟩ | ⟨farther, rfl⟩
    · cases performed
      exact isDirectory_of_ensureDirectory ensured
    · obtain ⟨before, ensured⟩ := ensureDirectory_of_forM performed
      exact isDirectory_of_ensureDirectory ensured
  · cases performed

theorem makeDirectories_of_isDirectory (standing : tree.isDirectory nearest = true) :
    (makeDirectories (nearest :: above)).perform tree = (.ok (), tree) := by
  rw [makeDirectories, perform_bind, missingBelow, perform_bind, perform_tryCatch, perform_bind,
    ensureDirectory_of_isDirectory standing]
  rfl

/-- Made once, the directories above a place are not made again. -/
theorem makeDirectories_again {nearestFirst : List String}
    (performed : (makeDirectories nearestFirst).perform tree = (.ok (), middle))
    (grows : Grows middle after) :
    (makeDirectories nearestFirst).perform after = (.ok (), after) := by
  cases nearestFirst with
  | nil => rfl
  | cons nearest above =>
    exact makeDirectories_of_isDirectory
      (grows.isDirectory (isDirectory_of_makeDirectories performed))

end Haulage.FileTree
