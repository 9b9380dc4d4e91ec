import Haulage.Proofs.Deletion.Spellings

/-! Deleting on disk once more by the same text. Whatever the first deletion took away, the text finds
nothing afterwards: its way ends at something that is gone, and never at another entry or in another
failure. -/
namespace Haulage.Deletion

open FileTree Files

variable {tree files after : FileTree} {text : String} {location : Location} {entry : Entry}
  {outcome : DeleteOutcome}

/-! ## What the text finds afterwards -/

/-- Where there is nothing by the last step alone, the whole text leads nowhere. -/
theorem peek_eq_missing_of_trimmed (grows : Grows tree files)
    (found : files.peek text = .ok (location, .directory))
    (stepping : (Route.spell text).steps ≠ [])
    (missed : tree.peek (PathText.trimmed text) = .error (.system .missing)) :
    tree.peek text = .error (.system .missing) := by
  refine (grows.find_eq_or found).resolve_left fun still => ?_
  obtain ⟨step, ended⟩ := Route.exists_getLast?_of_steps stepping
  obtain ⟨parent, left, held, leads⟩ := exists_holder_of_find still ended
  obtain ⟨lies, own, alone⟩ := leads.exists_first
  cases missed.symm.trans (find_trimmed_of_holder held alone nofun)

/-- A directory that went is not found by its name, with or without slashes behind it. -/
theorem peek_pruned (found : files.peek text = .ok (location, .directory))
    (names : NamesEntry files text) :
    (files.pruned location).peek text = .error (.system .missing) := by
  have grows := pruned_grows files location
  obtain ⟨name, named⟩ := names.named
  refine peek_eq_missing_of_trimmed grows found (Route.steps_ne_nil named) ?_
  refine (grows.find_eq_or (names.peek_trimmed found)).resolve_left fun still => ?_
  have readable := readable_of_peek found
  obtain ⟨parent, -, rfl, -, seen⟩ := exists_holder_of_peek_trimmed readable still named
  rw [get?_pruned _ (by simp), if_pos List.prefix_rfl] at seen
  cases seen

/-- A file or a link that went is not found by what led to it. -/
theorem peek_erase (found : files.peek text = .ok (location, entry)) (lone : entry ≠ .directory) :
    (files.erase location).peek text = .error (.system .missing) := by
  refine ((erase_grows files location).find_eq_or found).resolve_left fun still => ?_
  obtain ⟨inside, seen⟩ := get?_of_find still lone
  rw [get?_erase_self _ inside] at seen
  cases seen

/-- A deletion on disk that succeeds leaves nothing to be found by its text. -/
theorem peek_of_removed
    (performed : (removeFromDisk text).perform files = (.ok outcome, after)) :
    (outcome = .diskRemoved text ∨ outcome = .diskMissing text) ∧
      after.peek text = .error (.system .missing) := by
  match looked : files.peek text with
  | .error fault =>
    by_cases missing : fault = .system .missing
    · subst missing
      rw [removeFromDisk_of_missing looked] at performed
      cases performed
      exact ⟨.inr rfl, looked⟩
    · rw [removeFromDisk_of_fault looked missing] at performed
      cases performed
  | .ok (location, entry) =>
    by_cases lone : entry = .directory
    · subst lone
      rw [removeFromDisk_of_directory looked] at performed
      have removal := removal_of_directory looked
      generalize (removeDirectory text).perform (files.emptied location) = ended at performed removal
      cases removal with
      | removed names =>
        cases performed
        exact ⟨.inl rfl, peek_pruned looked names⟩
      | mislaid lost =>
        cases performed
        exact ⟨.inl rfl, peek_eq_missing_of_trimmed (emptied_grows files location) looked
          lost.stepping lost.missed⟩
      | refused _ _ present =>
        dsimp only at performed
        rw [if_neg present] at performed
        cases performed
    · rw [removeFromDisk_of_lone looked lone] at performed
      cases performed
      exact ⟨.inl rfl, peek_erase looked lone⟩

/-! ## The second deletion -/

variable {σ : Type} {world later : World σ} {destination : String}

/-- A deletion on disk that has succeeded can be repeated: the second one reports that there is nothing
by the same text, and changes nothing. -/
theorem deleteRecursive_again (connector : Connector σ) (pages : Nat)
    (onDisk : StoragePath.ofText destination = .disk text)
    (ended : deleteRecursive connector pages destination world = some (.ok outcome, later)) :
    (outcome = .diskRemoved text ∨ outcome = .diskMissing text) ∧
      deleteRecursive connector pages destination later = some (.ok (.diskMissing text), later) := by
  rw [deleteRecursive_of_disk onDisk] at ended ⊢
  match performed : (removeFromDisk text).perform world.files with
  | (.error fault, after) =>
    rw [performed] at ended
    cases ended
  | (.ok reported, after) =>
    rw [performed] at ended
    cases ended
    obtain ⟨told, missed⟩ := peek_of_removed performed
    refine ⟨told, ?_⟩
    dsimp only
    rw [removeFromDisk_of_missing missed]
    rfl

/-- The first deletion leaves the directory where it is, and still the second one does not find it. -/
theorem detour_again : StoragePath.ofText "d/sub/../../d" = .disk "d/sub/../../d" ∧
    ∃ later, deleteRecursive Rehearsal.connector 1 "d/sub/../../d" detour =
        some (.ok (.diskRemoved "d/sub/../../d"), later) ∧
      later.files.get? ["d"] = some .directory ∧
      deleteRecursive Rehearsal.connector 1 "d/sub/../../d" later =
        some (.ok (.diskMissing "d/sub/../../d"), later) := by
  have onDisk : StoragePath.ofText "d/sub/../../d" = .disk "d/sub/../../d" := by decide
  have ran : (deleteRecursive Rehearsal.connector 1 "d/sub/../../d" detour).map
      (fun (result, later) => (result.toOption, later.files.get? ["d"])) =
        some (some (.diskRemoved "d/sub/../../d"), some .directory) := by decide +kernel
  obtain ⟨⟨result, later⟩, ended, told⟩ := Option.map_eq_some_iff.mp ran
  obtain ⟨reported, left⟩ := Prod.mk.inj told
  cases result with
  | error fault => cases reported
  | ok outcome =>
    cases reported
    exact ⟨onDisk, later, ended, left, (deleteRecursive_again Rehearsal.connector 1 onDisk ended).2⟩

end Haulage.Deletion
