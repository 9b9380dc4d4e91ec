import Haulage.Proofs.Files.Standing
import Haulage.Proofs.Transfer.Fidelity

/-! A transfer to disk done over. The first one has left its target a file like the source, so the second
one takes the same target, finds the directories above it there, and writes what the file holds
already. -/
namespace Haulage.Transfer

open FileTree

variable {files after : FileTree} {source destination : String} {identity : Nat}
  {outcome : TransferOutcome}

/-- A destination that got a file is no directory for that, and a directory stays one. -/
theorem diskTarget_again (grows : Grows files after)
    (led : after.fileAt? (diskTarget files destination source) = some identity) :
    diskTarget after destination source = diskTarget files destination source := by
  unfold diskTarget at led ⊢
  by_cases inside : destination.toList.getLast? = some '/' ∨ files.isDirectory destination
  · have still : destination.toList.getLast? = some '/' ∨ after.isDirectory destination :=
      inside.imp_right grows.isDirectory
    rw [if_pos inside, if_pos still]
  · rw [if_neg inside] at led ⊢
    obtain ⟨lies, looked⟩ := fileAt?_eq_some_iff.mp led
    have outside : ¬ (destination.toList.getLast? = some '/' ∨ after.isDirectory destination) := by
      rintro (closed | standing)
      · exact inside (.inl closed)
      · obtain ⟨location, found⟩ := isDirectory_iff.mp standing
        cases looked.symm.trans found
    rw [if_neg outside]

namespace Copied

variable {target : String} {result : Except Files.Fault TransferOutcome × FileTree}

/-- A copy that succeeded away from its source leads its target to a file, and done over it changes
nothing. -/
theorem again (run : Copied files source target identity result)
    (found : files.fileAt? source = some identity) (succeeded : result.1 = .ok outcome)
    (apart : result.2.fileAt? outcome.destination ≠ some identity) :
    (∃ copy, result.2.fileAt? target = some copy) ∧
      (copyOnDisk source target identity).perform result.2 = (.ok outcome, result.2) := by
  cases run with
  | same => cases succeeded
  | unmade => cases succeeded
  | @attempted size middle later _ made copied =>
    cases size with
    | error fault => cases succeeded
    | ok bytes =>
      cases succeeded
      have furnishes := furnishes_of_made made
      have origin := furnishes.fileAt? found
      have filled := filled_of_copied origin copied
      have used := inUse_of_fileAt? origin
      have away : middle.fileAt? target ≠ some identity := fun led =>
        apart ((filled.fileAt?_iff used).mpr led)
      have kept : later.files identity = middle.files identity := filled.files_eq used away
      obtain ⟨rfl, copy, led, written⟩ := filled.faithful used away
      have alike : later.files copy = later.files identity := by
        rw [written, kept, furnishes.files]
      refine ⟨⟨copy, led⟩, ?_⟩
      dsimp only at apart ⊢
      rw [copyOnDisk, Change.perform_get_bind, Change.perform_get_bind, if_neg apart,
        Change.perform_bind, makeDirectories_again made filled.grows]
      dsimp only
      rw [Change.perform_bind,
        copy_of_alike (filled.grows.fileAt? origin) led (fun same => apart (same ▸ led)) alike, kept]
      rfl

end Copied

variable {σ : Type} {connector : Connector σ} {world after : World σ}

/-- A transfer to disk that succeeded away from its source gives the same again and changes nothing. -/
theorem transferFile_again (onDisk : StoragePath.ofText destination = .disk destination)
    (ended : transferFile connector source destination world = (.ok outcome, after))
    (apart : after.files.fileAt? outcome.destination ≠ after.files.fileAt? source) :
    transferFile connector source destination after = (.ok outcome, after) := by
  cases found : world.files.fileAt? source with
  | none =>
    rw [transferFile, source?, found] at ended
    cases ended
  | some identity =>
    obtain ⟨⟨result, files⟩, run, same⟩ := exists_copied connector onDisk found
    rw [same] at ended
    cases result with
    | error fault => cases ended
    | ok copied =>
      cases ended
      have grows := run.grows found
      have origin := grows.fileAt? found
      rw [origin] at apart
      obtain ⟨⟨copy, led⟩, again⟩ := run.again found rfl apart
      rw [transferFile_eq onDisk origin, diskTarget_again grows led, again]
      rfl

/-- A copy below new directories and one through a link that led nowhere are both left as they are. -/
theorem dangling_copied_again :
    (∃ after, transferFile Rehearsal.connector "f" "new/below/" dangling =
        (.ok ⟨"f", "new/below/f", 2⟩, after) ∧
      transferFile Rehearsal.connector "f" "new/below/" after =
        (.ok ⟨"f", "new/below/f", 2⟩, after)) ∧
    ∃ after, transferFile Rehearsal.connector "f" "alias" dangling =
        (.ok ⟨"f", "alias", 2⟩, after) ∧
      transferFile Rehearsal.connector "f" "alias" after = (.ok ⟨"f", "alias", 2⟩, after) := by
  have spec {destination target : String}
      (onDisk : StoragePath.ofText destination = .disk destination)
      (succeeded : (transferFile Rehearsal.connector "f" destination dangling).1.toOption =
        some ⟨"f", target, 2⟩)
      (apart : (transferFile Rehearsal.connector "f" destination dangling).2.files.fileAt? target ≠
        (transferFile Rehearsal.connector "f" destination dangling).2.files.fileAt? "f") :
      ∃ after, transferFile Rehearsal.connector "f" destination dangling =
          (.ok ⟨"f", target, 2⟩, after) ∧
        transferFile Rehearsal.connector "f" destination after =
          (.ok ⟨"f", target, 2⟩, after) := by
    match ended : transferFile Rehearsal.connector "f" destination dangling with
    | (.error _, _) =>
      rw [ended] at succeeded
      cases succeeded
    | (.ok outcome, after) =>
      rw [ended] at succeeded apart
      cases succeeded
      exact ⟨after, rfl, transferFile_again onDisk ended apart⟩
  exact ⟨spec (by decide) (by decide +kernel) (by decide +kernel),
    spec (by decide) (by decide +kernel) (by decide +kernel)⟩

end Haulage.Transfer
