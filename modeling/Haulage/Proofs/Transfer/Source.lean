import Haulage.Proofs.Files.Copying
import Haulage.Proofs.Files.Furnishing
import Haulage.Storage.Rehearsal
import Haulage.Transfer

/-! What a copy on disk does to its own source. The target is compared with the source before the
directories above it are made, and it may lead to the source only once they are there. -/
namespace Haulage.Transfer

open FileTree

variable {files : FileTree} {source target : String} {identity : Nat}

/-- Making the directories above the target is what makes it lead to the source. -/
structure MeetsSource (files : FileTree) (target : String) (identity : Nat) : Prop where
  apart : files.fileAt? target ≠ some identity
  made : ((makeDirectories (Files.PathText.above target)).perform files).1.isOk = true
  meets :
    ((makeDirectories (Files.PathText.above target)).perform files).2.fileAt? target = some identity

/-- What a copy gives and the tree after it: the target is the source, a directory above it cannot be
made, or the bytes are copied as far as that goes. -/
inductive Copied (files : FileTree) (source target : String) (identity : Nat) :
    Except Files.Fault TransferOutcome × FileTree → Prop
  | same (meets : files.fileAt? target = some identity) :
      Copied files source target identity (.error (.sameFile target), files)
  | unmade {fault : Files.Fault} {furnished : FileTree}
      (apart : files.fileAt? target ≠ some identity)
      (made : (makeDirectories (Files.PathText.above target)).perform files =
        (.error fault, furnished)) :
      Copied files source target identity (.error fault, furnished)
  | attempted {size : Except Files.Fault Nat} {furnished after : FileTree}
      (apart : files.fileAt? target ≠ some identity)
      (made : (makeDirectories (Files.PathText.above target)).perform files = (.ok (), furnished))
      (copied : (copy source target (files.files identity)).perform furnished = (size, after)) :
      Copied files source target identity
        (size.map fun bytes => { source := source, destination := target, size := bytes }, after)

theorem copyOnDisk_copied (files : FileTree) (source target : String) (identity : Nat) :
    Copied files source target identity ((copyOnDisk source target identity).perform files) := by
  rw [copyOnDisk, Change.perform_get_bind, Change.perform_get_bind]
  by_cases meets : files.fileAt? target = some identity
  · rw [if_pos meets]
    exact .same meets
  · rw [if_neg meets, Change.perform_bind]
    match made : (makeDirectories (Files.PathText.above target)).perform files with
    | (.error fault, furnished) => exact .unmade meets made
    | (.ok (), furnished) =>
      dsimp only
      rw [Change.perform_bind]
      match copied : (copy source target (files.files identity)).perform furnished with
      | (.error fault, after) => exact .attempted meets made copied
      | (.ok size, after) => exact .attempted meets made copied

theorem furnishes_of_made {made : Except Files.Fault Unit} {furnished : FileTree}
    (performed : (makeDirectories (Files.PathText.above target)).perform files =
      (made, furnished)) : Furnishes (Files.PathText.above target) files furnished := by
  have kept := makeDirectories_furnishes (Files.PathText.above target) files
  rwa [performed] at kept

theorem filled_of_copied {size : Except Files.Fault Nat} {furnished after : FileTree}
    {before : FileRecord} (found : furnished.fileAt? source = some identity)
    (copied : (copy source target before).perform furnished = (size, after)) :
    Filled furnished identity target before (size, after) := by
  rw [← copied]
  exact copy_filled found target before

namespace Copied

variable {result : Except Files.Fault TransferOutcome × FileTree}

/-- Nothing that is there goes away, whether the copy succeeds or fails. -/
theorem grows (run : Copied files source target identity result)
    (found : files.fileAt? source = some identity) : Grows files result.2 := by
  cases run with
  | same => exact .refl files
  | unmade _ made => exact (furnishes_of_made made).toGrows
  | attempted _ made copied =>
    have furnishes := furnishes_of_made made
    have filled := filled_of_copied (furnishes.fileAt? found) copied
    exact furnishes.toGrows.trans filled.grows

/-- Unless the directories lead the target to the source, the source stays as it was, and no copy
ends well over it. -/
theorem spares (run : Copied files source target identity result)
    (found : files.fileAt? source = some identity)
    (clear : ¬ MeetsSource files target identity) :
    result.2.files identity = files.files identity ∧
      (result.2.fileAt? target = some identity → ∃ fault, result.1 = .error fault) := by
  cases run with
  | same => exact ⟨rfl, fun _ => ⟨_, rfl⟩⟩
  | unmade _ made => exact ⟨congrFun (furnishes_of_made made).files identity, fun _ => ⟨_, rfl⟩⟩
  | @attempted size furnished after apart made copied =>
    have furnishes := furnishes_of_made made
    have origin := furnishes.fileAt? found
    have filled := filled_of_copied origin copied
    have away : furnished.fileAt? target ≠ some identity := fun led =>
      clear ⟨apart, by rw [made]; rfl, by rw [made]; exact led⟩
    have kept := filled.files_eq (inUse_of_fileAt? origin) away
    refine ⟨kept.trans (congrFun furnishes.files identity), fun led => ?_⟩
    cases size with
    | error fault => exact ⟨fault, rfl⟩
    | ok bytes => exact absurd ((filled.fileAt?_iff (inUse_of_fileAt? origin)).mp led) away

/-- Where they do, the source loses its bytes and the copy reports that it went well. -/
theorem empties (run : Copied files source target identity result)
    (found : files.fileAt? source = some identity) (meeting : MeetsSource files target identity) :
    result.1 = .ok { source := source, destination := target, size := 0 } ∧
      result.2.files identity = { files.files identity with content := [] } := by
  cases run with
  | same meets => exact absurd meets meeting.apart
  | unmade _ made =>
    have finished := meeting.made
    rw [made] at finished
    cases finished
  | attempted _ made copied =>
    have furnishes := furnishes_of_made made
    have led := meeting.meets
    rw [made] at led
    obtain ⟨counted, emptied⟩ :=
      (filled_of_copied (furnishes.fileAt? found) copied).onto_itself led
    cases counted
    refine ⟨rfl, emptied.trans ?_⟩
    rw [furnishes.files]

end Copied

variable {σ : Type}

theorem transferFile_eq {connector : Connector σ} {world : World σ}
    {destination text : String} (onDisk : StoragePath.ofText destination = .disk text)
    (found : world.files.fileAt? source = some identity) :
    transferFile connector source destination world =
      let (result, files) :=
        (copyOnDisk source (diskTarget world.files text source) identity).perform world.files
      (result.mapError .disk, { world with files := files }) := by
  rw [transferFile, source?, found]
  dsimp only
  rw [onDisk]
  rfl

/-- Where there is a file to transfer, a transfer to disk is a copy. -/
theorem exists_copied (connector : Connector σ) {world : World σ} {destination text : String}
    (onDisk : StoragePath.ofText destination = .disk text)
    (found : world.files.fileAt? source = some identity) :
    ∃ result, Copied world.files source (diskTarget world.files text source) identity result ∧
      transferFile connector source destination world =
        (result.1.mapError .disk, { world with files := result.2 }) := by
  refine ⟨_, copyOnDisk_copied world.files source _ identity, ?_⟩
  rw [transferFile_eq onDisk found]

/-- A transfer to disk leaves its source the names and the record it had, and ends in failure where
the target is the source, but for one way to miss that. Where only the directories made for the
target lead it to the source, the transfer reports success and the source has lost its bytes. -/
theorem source_after_transfer (connector : Connector σ) {world : World σ}
    {destination text : String} (onDisk : StoragePath.ofText destination = .disk text)
    (found : world.files.fileAt? source = some identity) :
    let target := diskTarget world.files text source
    let before := world.files.files identity
    let ended := transferFile connector source destination world
    Grows world.files ended.2.files ∧ ended.2.files.fileAt? source = some identity ∧
      (¬ MeetsSource world.files target identity → ended.2.files.files identity = before ∧
        (ended.2.files.fileAt? target = some identity → ∃ fault, ended.1 = .error fault)) ∧
      (MeetsSource world.files target identity →
        ended.2.files.files identity = { before with content := [] } ∧
          ended.1 = .ok { source := source, destination := target, size := 0 }) ∧
      (world.files.fileAt? target = some identity →
        ended = (.error (.disk (.sameFile target)), world)) := by
  dsimp only
  rw [transferFile_eq onDisk found]
  have run := copyOnDisk_copied world.files source (diskTarget world.files text source) identity
  match performed :
    (copyOnDisk source (diskTarget world.files text source) identity).perform world.files with
  | (result, files) =>
    rw [performed] at run
    have grows := run.grows found
    refine ⟨grows, grows.fileAt? found, fun clear => ?_, fun meeting => ?_, fun meets => ?_⟩
    · obtain ⟨kept, failing⟩ := run.spares found clear
      refine ⟨kept, fun led => ?_⟩
      obtain ⟨fault, failed⟩ := failing led
      cases failed
      exact ⟨.disk fault, rfl⟩
    · obtain ⟨counted, emptied⟩ := run.empties found meeting
      cases counted
      exact ⟨emptied, rfl⟩
    · cases run with
      | same => rfl
      | unmade apart => exact absurd meets apart
      | attempted apart => exact absurd meets apart

/-- A file, and a service that is never asked. A way to the file may lead through a directory that is
not there yet. -/
def roundabout : World Rehearsal where
  files :=
    { entries := [(["f"], .file 0)]
      files := fun _ => { blankFile with content := [100] }
      start := [] }
  service := { connects := [], lists := [], deletes := [], puts := [] }

/-- Without that condition the source is not safe. -/
theorem source_lost_over_roundabout : ¬ ∀ (connector : Connector Rehearsal) (world : World Rehearsal)
    (source destination text : String) (identity : Nat),
    StoragePath.ofText destination = .disk text → world.files.fileAt? source = some identity →
    (transferFile connector source destination world).2.files.files identity =
      world.files.files identity := by
  intro safe
  have kept := safe Rehearsal.connector roundabout "f" "new/../f" "new/../f" 0 (by decide)
    (by decide +kernel)
  have lost : ((transferFile Rehearsal.connector "f" "new/../f" roundabout).2.files.files 0).content
      ≠ (roundabout.files.files 0).content := by decide +kernel
  exact lost (congrArg FileRecord.content kept)

theorem roundabout_emptied : StoragePath.ofText "new/../f" = .disk "new/../f" ∧
    roundabout.files.fileAt? "f" = some 0 ∧
    (transferFile Rehearsal.connector "f" "new/../f" roundabout).2.files.files 0 =
      { roundabout.files.files 0 with content := [] } := by
  have onDisk : StoragePath.ofText "new/../f" = .disk "new/../f" := by decide
  have found : roundabout.files.fileAt? "f" = some 0 := by decide +kernel
  have named : diskTarget roundabout.files "new/../f" "f" = "new/../f" := by decide +kernel
  have meeting : MeetsSource roundabout.files (diskTarget roundabout.files "new/../f" "f") 0 := by
    rw [named]
    exact ⟨by decide +kernel, by decide +kernel, by decide +kernel⟩
  have spec := source_after_transfer Rehearsal.connector onDisk found
  exact ⟨onDisk, found, (spec.2.2.2.1 meeting).1⟩

end Haulage.Transfer
