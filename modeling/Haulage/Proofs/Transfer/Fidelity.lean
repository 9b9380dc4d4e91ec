import Haulage.Proofs.Transfer.Source

/-! What a copy on disk leaves at its target. Whatever was there before, a copy that succeeds away from
its source leaves the bytes, the mode and the times that the source had. -/
namespace Haulage.Transfer

open FileTree

/-- The files once the directories above a target are made, as far as that goes. -/
def furnished (files : FileTree) (target : String) : FileTree :=
  ((makeDirectories (Files.PathText.above target)).perform files).2

variable {files : FileTree} {source target : String} {identity : Nat} {outcome : TransferOutcome}
  {result : Except Files.Fault TransferOutcome × FileTree}

namespace Copied

/-- A copy succeeds if its target is not its source, the directories can be made and something can be
written there then. -/
theorem exists_ok_iff (run : Copied files source target identity result)
    (found : files.fileAt? source = some identity) : (∃ outcome, result.1 = .ok outcome) ↔
      files.fileAt? target ≠ some identity ∧
        ((makeDirectories (Files.PathText.above target)).perform files).1 = .ok () ∧
        (furnished files target).Accepts target := by
  cases run with
  | same meets => exact iff_of_false nofun fun clear => clear.1 meets
  | unmade _ made =>
    rw [made]
    exact iff_of_false nofun fun clear => nomatch clear.2.1
  | @attempted size middle after apart made copied =>
    have filled := filled_of_copied ((furnishes_of_made made).fileAt? found) copied
    rw [furnished, made, ← filled.exists_ok_iff]
    cases size with
    | error fault => exact iff_of_false nofun fun clear => nomatch clear.2.2
    | ok bytes => exact iff_of_true ⟨_, rfl⟩ ⟨apart, rfl, _, rfl⟩

theorem faithful (run : Copied files source target identity result)
    (found : files.fileAt? source = some identity)
    (succeeded : result.1 = .ok outcome)
    (apart : (furnished files outcome.destination).fileAt? outcome.destination ≠ some identity) :
    outcome = ⟨source, target, (files.files identity).content.length⟩ ∧
      ∃ copy, result.2.fileAt? target = some copy ∧
        result.2.files copy = files.files identity := by
  cases run with
  | same => cases succeeded
  | unmade => cases succeeded
  | @attempted size middle after _ made copied =>
    cases size with
    | error fault => cases succeeded
    | ok bytes =>
      cases succeeded
      have furnishes := furnishes_of_made made
      have origin := furnishes.fileAt? found
      dsimp only at apart
      rw [furnished, made] at apart
      obtain ⟨rfl, copy, led, kept⟩ :=
        (filled_of_copied origin copied).faithful (inUse_of_fileAt? origin) apart
      rw [furnishes.files] at kept ⊢
      exact ⟨rfl, copy, led, kept⟩

end Copied

/-- Below a directory, or a text that ends in a slash, the last name of the source is added. -/
theorem diskTarget_eq {destination name : String}
    (named : Files.PathText.fileName? source = some name) : diskTarget files destination source =
      if destination.toList.getLast? = some '/' ∨ files.isDirectory destination then
        Files.PathText.join destination name
      else destination := by
  show (if _ then Files.PathText.join _ ((Files.PathText.fileName? source).getD "") else _) = _
  rw [named]
  rfl

variable {σ : Type} {connector : Connector σ} {world after : World σ} {destination : String}

/-- A file is transferred to disk exactly if the target is not that file, the directories above the
target can be made, and something can be written there then. -/
theorem transfer_ok_iff (connector : Connector σ)
    (onDisk : StoragePath.ofText destination = .disk destination)
    (found : world.files.fileAt? source = some identity) :
    let target := diskTarget world.files destination source
    (∃ outcome, (transferFile connector source destination world).1 = .ok outcome) ↔
      world.files.fileAt? target ≠ some identity ∧
        ((makeDirectories (Files.PathText.above target)).perform world.files).1 = .ok () ∧
        (furnished world.files target).Accepts target := by
  obtain ⟨⟨result, files⟩, run, same⟩ := exists_copied connector onDisk found
  dsimp only
  rw [same, ← run.exists_ok_iff found]
  cases result with
  | error fault => exact iff_of_false nofun nofun
  | ok outcome => exact iff_of_true ⟨_, rfl⟩ ⟨_, rfl⟩

/-- A transfer to disk that succeeds leads its destination to a file with the bytes, the mode and the
times that the source had when it began, if the destination is not the source itself once the
directories above it are there. -/
theorem transfer_faithful (onDisk : StoragePath.ofText destination = .disk destination)
    (ended : transferFile connector source destination world = (.ok outcome, after))
    (apart : (furnished world.files outcome.destination).fileAt? outcome.destination ≠
      world.files.fileAt? source) :
    ∃ identity copy name, world.files.fileAt? source = some identity ∧
      Files.PathText.fileName? source = some name ∧
      after.files.fileAt? outcome.destination = some copy ∧
      after.files.files copy = world.files.files identity ∧
      outcome.source = source ∧
      outcome.size = (world.files.files identity).content.length ∧
      outcome.destination =
        if destination.toList.getLast? = some '/' ∨ world.files.isDirectory destination then
          Files.PathText.join destination name
        else destination := by
  cases found : world.files.fileAt? source with
  | none =>
    rw [transferFile, source?, found] at ended
    cases ended
  | some identity =>
    obtain ⟨name, named⟩ := exists_fileName_of_fileAt? found
    obtain ⟨⟨result, files⟩, run, same⟩ := exists_copied connector onDisk found
    rw [same] at ended
    cases result with
    | error fault => cases ended
    | ok copied =>
      cases ended
      obtain ⟨told, copy, led, kept⟩ := run.faithful found rfl (found ▸ apart)
      rw [told] at led ⊢
      exact ⟨identity, copy, name, rfl, named, led, kept, rfl, rfl, diskTarget_eq named⟩

/-- A file, a link that leads nowhere yet, and a service that is never asked. -/
def dangling : World Rehearsal where
  files :=
    { entries := [(["f"], .file 0), (["alias"], .link "g")]
      files := fun identity => if identity = 0 then ⟨[1, 2], 0o600, ⟨5, 6⟩, ⟨7, 8⟩⟩ else blankFile
      start := [] }
  service := { connects := [], lists := [], deletes := [], puts := [] }

theorem dangling_copied :
    (∃ after copy, transferFile Rehearsal.connector "f" "new/below/" dangling =
        (.ok ⟨"f", "new/below/f", 2⟩, after) ∧
      after.files.fileAt? "new/below/f" = some copy ∧
      after.files.files copy = dangling.files.files 0) ∧
    ∃ after copy, transferFile Rehearsal.connector "f" "alias" dangling =
        (.ok ⟨"f", "alias", 2⟩, after) ∧
      after.files.fileAt? "alias" = some copy ∧
      after.files.files copy = dangling.files.files 0 := by
  have origin : dangling.files.fileAt? "f" = some 0 := by decide +kernel
  have spec {destination target : String}
      (onDisk : StoragePath.ofText destination = .disk destination)
      (succeeded : (transferFile Rehearsal.connector "f" destination dangling).1.toOption =
        some ⟨"f", target, 2⟩)
      (apart : (furnished dangling.files target).fileAt? target ≠ dangling.files.fileAt? "f") :
      ∃ after copy, transferFile Rehearsal.connector "f" destination dangling =
          (.ok ⟨"f", target, 2⟩, after) ∧
        after.files.fileAt? target = some copy ∧
        after.files.files copy = dangling.files.files 0 := by
    match ended : transferFile Rehearsal.connector "f" destination dangling with
    | (.error _, _) =>
      rw [ended] at succeeded
      cases succeeded
    | (.ok outcome, after) =>
      rw [ended] at succeeded
      cases succeeded
      obtain ⟨identity, copy, name, found, -, led, kept, -⟩ := transfer_faithful onDisk ended apart
      cases origin.symm.trans found
      exact ⟨after, copy, rfl, led, kept⟩
  exact ⟨spec (by decide) (by decide +kernel) (by decide +kernel),
    spec (by decide) (by decide +kernel) (by decide +kernel)⟩

end Haulage.Transfer
