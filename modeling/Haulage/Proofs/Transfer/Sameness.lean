import Haulage.Proofs.Files.Faults
import Haulage.Proofs.Transfer.Fidelity

/-! When a transfer says that its target is its source. Two texts name one file if each of them leads to
an entry of it, over whatever names, dots and links; what the file holds does not matter. -/
namespace Haulage

open Files

/-- The text leads to an entry of the file, over names, dots and links. -/
def FileTree.Reaches (tree : FileTree) (text : String) (identity : Nat) : Prop :=
  ∃ route lies, Route.ofText text = .ok route ∧
    FileTree.Leads tree .look FileTree.linkLimit (if route.absolute then [] else tree.start)
      route.steps (.taken lies (.file identity))

theorem FileTree.reaches_iff {tree : FileTree} {text : String} {identity : Nat} :
    tree.Reaches text identity ↔ tree.fileAt? text = some identity := by
  rw [FileTree.fileAt?_eq_some_iff]
  constructor
  · rintro ⟨route, lies, readable, leads⟩
    exact ⟨lies, FileTree.find_eq_ok_iff.mpr ⟨route, readable, leads⟩⟩
  · rintro ⟨lies, looked⟩
    obtain ⟨route, readable, leads⟩ := FileTree.find_eq_ok_iff.mp looked
    exact ⟨route, lies, readable, leads⟩

namespace Transfer

open FileTree

variable {files : FileTree} {source target : String} {identity : Nat}
  {result : Except Files.Fault TransferOutcome × FileTree}

/-- No directory on the way and no copy fails with the words for a target that is the source. -/
theorem Copied.sameFile_iff (run : Copied files source target identity result) :
    (∃ text, result.1 = .error (.sameFile text)) ↔ files.fileAt? target = some identity := by
  cases run with
  | same meets => exact iff_of_true ⟨target, rfl⟩ meets
  | unmade apart made =>
    refine iff_of_false ?_ apart
    rintro ⟨text, failed⟩
    cases failed
    exact makeDirectories_native _ made
  | @attempted size furnished after apart made copied =>
    refine iff_of_false ?_ apart
    rintro ⟨text, failed⟩
    cases size with
    | ok bytes => cases failed
    | error fault =>
      cases failed
      exact copy_native _ _ _ copied

variable {σ : Type} {destination : String}

/-- A transfer to disk says that its target is its source exactly if both lead to one file before
anything is done, and then nothing is. Another file is never taken for the source, whatever it holds. -/
theorem sameFile_iff_reaches (connector : Connector σ) {world : World σ}
    (onDisk : StoragePath.ofText destination = .disk destination)
    (regular : world.files.Reaches source identity) :
    ∃ name, PathText.fileName? source = some name ∧
      let target :=
        if destination.toList.getLast? = some '/' ∨ world.files.isDirectory destination then
          PathText.join destination name
        else destination
      let ended := transferFile connector source destination world
      ((∃ text, ended.1 = .error (.disk (.sameFile text))) ↔ world.files.Reaches target identity) ∧
        (world.files.Reaches target identity →
          ended = (.error (.disk (.sameFile target)), world)) ∧
        ∀ other, other ≠ identity → world.files.Reaches target other →
          ∀ text, ended.1 ≠ .error (.disk (.sameFile text)) := by
  have found := reaches_iff.mp regular
  obtain ⟨name, named⟩ := exists_fileName_of_fileAt? found
  obtain ⟨⟨result, after⟩, run, same⟩ := exists_copied connector onDisk found
  refine ⟨name, named, ?_⟩
  dsimp only
  rw [← diskTarget_eq named, same]
  have told : (∃ text, result.mapError Fault.disk = .error (.disk (.sameFile text))) ↔
      world.files.Reaches (diskTarget world.files destination source) identity := by
    rw [reaches_iff, ← run.sameFile_iff]
    cases result with
    | error fault => simp [Except.mapError]
    | ok outcome => simp [Except.mapError]
  refine ⟨told, fun meets => ?_, fun other differs led text failed => ?_⟩
  · cases run with
    | same => rfl
    | unmade apart => exact absurd (reaches_iff.mp meets) apart
    | attempted apart => exact absurd (reaches_iff.mp meets) apart
  · have meets := reaches_iff.mp (told.mp ⟨text, failed⟩)
    exact differs (Option.some.inj ((reaches_iff.mp led).symm.trans meets))

/-- A file with a second name in a directory and a chain of links to it, beside another file that holds
the same. -/
def aliased : World Rehearsal where
  files :=
    { entries := [(["f"], .file 0), (["twin"], .file 1), (["d"], .directory), (["d", "f"], .file 0),
        (["l"], .link "d/../m"), (["m"], .link "f")]
      files := fun _ => { blankFile with content := [100] }
      start := [] }
  service := { connects := [], lists := [], deletes := [], puts := [] }

theorem aliased_refused : aliased.files.Reaches "f" 0 ∧
    transferFile Rehearsal.connector "f" "d" aliased =
      (.error (.disk (.sameFile "d/f")), aliased) ∧
    transferFile Rehearsal.connector "f" "l" aliased =
      (.error (.disk (.sameFile "l")), aliased) ∧
    aliased.files.Reaches "twin" 1 ∧
    ∀ text, (transferFile Rehearsal.connector "f" "twin" aliased).1 ≠
      .error (.disk (.sameFile text)) := by
  have regular : aliased.files.Reaches "f" 0 := reaches_iff.mpr (by decide +kernel)
  have twin : aliased.files.Reaches "twin" 1 := reaches_iff.mpr (by decide +kernel)
  have named : PathText.fileName? "f" = some "f" := by decide +kernel
  refine ⟨regular, ?_, ?_, twin, ?_⟩
  · have onDisk : StoragePath.ofText "d" = .disk "d" := by decide
    obtain ⟨name, called, -, refused, -⟩ := sameFile_iff_reaches Rehearsal.connector onDisk regular
    cases named.symm.trans called
    have inside : aliased.files.isDirectory "d" = true := by decide +kernel
    rw [if_pos (.inr inside)] at refused
    exact refused (reaches_iff.mpr (by decide +kernel))
  · have onDisk : StoragePath.ofText "l" = .disk "l" := by decide
    obtain ⟨name, called, -, refused, -⟩ := sameFile_iff_reaches Rehearsal.connector onDisk regular
    rw [if_neg (by decide +kernel)] at refused
    exact refused (reaches_iff.mpr (by decide +kernel))
  · have onDisk : StoragePath.ofText "twin" = .disk "twin" := by decide
    obtain ⟨name, called, -, -, apart⟩ := sameFile_iff_reaches Rehearsal.connector onDisk regular
    rw [if_neg (by decide +kernel)] at apart
    exact apart 1 (by decide) twin

end Transfer

end Haulage
