import Haulage.Proofs.Transfer.Source

/-! What else a copy on disk does to the tree. A copy that fails has at most made directories above its
target; one that succeeds has besides written the one file that its target leads to. -/
namespace Haulage.Transfer

open FileTree

/-- Growth by directories made for some texts and by one file at most, the one that the target leads to
afterwards. No other file changes. -/
structure Delivers (texts : List String) (target : String) (written : Nat)
    (before after : FileTree) : Prop extends Grows before after where
  files : ∀ identity, identity ≠ written → after.files identity = before.files identity
  gained : ∃ place, after.look target = .ok (place, .file written) ∧
    ∀ location entry, after.get? location = some entry →
      before.get? location = some entry ∨ MadeFor texts before after location entry ∨
        location = place ∧ entry = .file written

theorem delivers_of_furnishes {texts : List String} {target : String} {written : Nat}
    {before middle after : FileTree} (furnishes : Furnishes texts before middle)
    (writes : Writes target written middle after) : Delivers texts target written before after := by
  obtain ⟨place, looked, only⟩ := writes.gained
  refine ⟨furnishes.toGrows.trans writes.toGrows, fun identity other => ?_, place, looked, ?_⟩
  · rw [writes.files identity other, furnishes.files]
  · intro location entry found
    rcases only location entry found with earlier | put
    · exact (furnishes.gained location entry earlier).imp_right (.inl <| ·.grow writes.toGrows)
    · exact .inr (.inr put)

namespace Copied

variable {files : FileTree} {source target : String} {identity : Nat}
  {result : Except Files.Fault TransferOutcome × FileTree}

theorem furnishes_of_error {fault : Files.Fault} (run : Copied files source target identity result)
    (found : files.fileAt? source = some identity) (failed : result.1 = .error fault) :
    Furnishes (Files.PathText.above target) files result.2 := by
  cases run with
  | same => exact .refl _ files
  | unmade _ made => exact furnishes_of_made made
  | @attempted size middle after _ made copied =>
    cases size with
    | error bare =>
      have furnishes := furnishes_of_made made
      cases (filled_of_copied (furnishes.fileAt? found) copied).eq_of_error
      exact furnishes
    | ok bytes => cases failed

theorem delivers_of_ok {outcome : TransferOutcome} (run : Copied files source target identity result)
    (found : files.fileAt? source = some identity) (succeeded : result.1 = .ok outcome) :
    outcome.destination = target ∧
      ∃ written, Delivers (Files.PathText.above target) target written files result.2 := by
  cases run with
  | same => cases succeeded
  | unmade => cases succeeded
  | @attempted size middle after _ made copied =>
    cases size with
    | error fault => cases succeeded
    | ok bytes =>
      cases succeeded
      have furnishes := furnishes_of_made made
      obtain ⟨written, writes⟩ := (filled_of_copied (furnishes.fileAt? found) copied).writes
      exact ⟨rfl, written, delivers_of_furnishes furnishes writes⟩

end Copied

variable {σ : Type} {source destination : String} {world : World σ}

/-- A transfer to disk takes nothing away. If it fails it adds directories that its target needed and
changes no file; if it succeeds it changes besides the one file that its target then leads to, which
may be new. Without a file as source nothing happens at all. -/
theorem transfer_frame (connector : Connector σ)
    (onDisk : StoragePath.ofText destination = .disk destination) :
    let target := diskTarget world.files destination source
    let above := Files.PathText.above target
    let ended := transferFile connector source destination world
    Grows world.files ended.2.files ∧
      (∀ fault, ended.1 = .error fault → Furnishes above world.files ended.2.files) ∧
      (∀ outcome, ended.1 = .ok outcome → outcome.destination = target ∧
        ∃ written, Delivers above target written world.files ended.2.files) ∧
      (world.files.fileAt? source = none → ended = (.error (.notFound (.source source)), world)) := by
  dsimp only
  cases found : world.files.fileAt? source with
  | none =>
    have ended : transferFile connector source destination world =
        (.error (.notFound (.source source)), world) := by
      rw [transferFile, source?, found]
    rw [ended]
    refine ⟨.refl _, fun _ _ => .refl _ _, ?_, fun _ => rfl⟩
    intro outcome succeeded
    cases succeeded
  | some identity =>
    obtain ⟨⟨result, files⟩, run, same⟩ := exists_copied connector onDisk found
    rw [same]
    refine ⟨run.grows found, ?_, ?_, ?_⟩
    · intro fault failed
      cases result with
      | error cause => exact run.furnishes_of_error found rfl
      | ok copied => cases failed
    · intro outcome succeeded
      cases result with
      | error cause => cases succeeded
      | ok copied =>
        cases succeeded
        exact run.delivers_of_ok found rfl
    · intro absent
      cases absent

/-- One transfer fails behind a directory it has made, another one fills the directory it makes, and a
third has no source. -/
theorem roundabout_framed :
    (∃ fault after, transferFile Rehearsal.connector "f" "new/../f/g" roundabout =
        (.error fault, after) ∧ after.files.isDirectory "new" = true ∧
      Furnishes ["new/../f", "new/..", "new"] roundabout.files after.files) ∧
    (∃ after written, transferFile Rehearsal.connector "f" "new/" roundabout =
        (.ok ⟨"f", "new/f", 1⟩, after) ∧
      Delivers ["new"] "new/f" written roundabout.files after.files) ∧
    transferFile Rehearsal.connector "g" "new/" roundabout =
      (.error (.notFound (.source "g")), roundabout) := by
  have onDisk : StoragePath.ofText "new/" = .disk "new/" := by decide
  refine ⟨?_, ?_, ?_⟩
  · have made : (transferFile Rehearsal.connector "f" "new/../f/g" roundabout).1.toOption = none ∧
        (transferFile Rehearsal.connector "f" "new/../f/g" roundabout).2.files.isDirectory "new" := by
      decide +kernel
    have target : diskTarget roundabout.files "new/../f/g" "f" = "new/../f/g" := by decide +kernel
    have above : Files.PathText.above "new/../f/g" = ["new/../f", "new/..", "new"] := by
      decide +kernel
    have spec := @transfer_frame Rehearsal "f" "new/../f/g" roundabout Rehearsal.connector (by decide)
    match ended : transferFile Rehearsal.connector "f" "new/../f/g" roundabout with
    | (.ok outcome, after) =>
      rw [ended] at made
      cases made.1
    | (.error fault, after) =>
      dsimp only at spec
      rw [ended, target, above] at spec
      rw [ended] at made
      exact ⟨fault, after, rfl, made.2, spec.2.1 fault rfl⟩
  · have succeeded : (transferFile Rehearsal.connector "f" "new/" roundabout).1.toOption =
        some ⟨"f", "new/f", 1⟩ := by decide +kernel
    have target : diskTarget roundabout.files "new/" "f" = "new/f" := by decide +kernel
    have above : Files.PathText.above "new/f" = ["new"] := by decide +kernel
    have spec := @transfer_frame Rehearsal "f" "new/" roundabout Rehearsal.connector onDisk
    match ended : transferFile Rehearsal.connector "f" "new/" roundabout with
    | (.error fault, after) =>
      rw [ended] at succeeded
      cases succeeded
    | (.ok outcome, after) =>
      dsimp only at spec
      rw [ended, target, above] at spec
      rw [ended] at succeeded
      cases succeeded
      obtain ⟨-, written, delivers⟩ := spec.2.2.1 _ rfl
      exact ⟨after, written, rfl, delivers⟩
  · exact (@transfer_frame Rehearsal "g" "new/" roundabout Rehearsal.connector onDisk).2.2.2
      (by decide +kernel)

end Haulage.Transfer
