import Haulage.Proofs.Transfer.Delivery
import Haulage.Proofs.Transfer.Source

/-! What a transfer calls its destination. A name joined to a text never makes a remote place of it, so
the destination of an outcome is remote exactly if the one that was asked for is; and read again it
is the very place that the store was given. -/
namespace Haulage

namespace StoragePath

/-- Nothing without a slash completes the scheme, which ends in one. -/
private theorem scheme_prefix_append_iff {base name : List Char} (plain : '/' ∉ name) :
    RemotePath.scheme <+: base ++ name ↔ RemotePath.scheme <+: base := by
  refine ⟨fun begins => ?_, fun begins => begins.trans (List.prefix_append ..)⟩
  rcases List.prefix_or_prefix_of_prefix begins (List.prefix_append base name) with
    inside | ⟨more, whole⟩
  · exact inside
  · rw [← whole, List.prefix_append_right_inj] at begins
    match last : more.getLast? with
    | none =>
      rw [List.getLast?_eq_none_iff.mp last, List.append_nil] at whole
      rw [whole]
    | some letter =>
      have slash : some '/' = some letter := by
        rw [← last, ← List.getLast?_append_of_ne_nil base (by rintro rfl; cases last), whole]
        rfl
      cases slash
      exact absurd (begins.subset (List.mem_of_getLast? last)) plain

theorem namesRemote_join {directory name : String} (plain : '/' ∉ name.toList) :
    namesRemote (Files.PathText.join directory name) = namesRemote directory := by
  rw [Bool.eq_iff_iff, namesRemote, namesRemote, List.isPrefixOf_iff_prefix,
    List.isPrefixOf_iff_prefix, Files.PathText.join]
  split
  · rename_i empty
    rw [List.getLast?_eq_none_iff.mp empty]
    refine iff_of_false (fun begins => plain (begins.subset ?_)) (by decide)
    decide
  · rw [String.toList_append]
    exact scheme_prefix_append_iff plain
  · rename_i unslashed ended
    rw [String.toList_append, String.toList_append, scheme_prefix_append_iff plain]
    -- one slash behind a text without one does not make the two of the scheme
    refine List.prefix_concat_iff.trans (or_iff_right fun whole => unslashed ?_)
    have slashed : directory.toList.getLast? = some '/' := by
      have shorter := congrArg List.dropLast whole
      rw [List.dropLast_concat] at shorter
      rw [← shorter]
      rfl
    exact Option.some.inj (ended.symm.trans slashed)

end StoragePath

namespace Transfer

variable {files : FileTree} {source destination target : String} {identity : Nat}

theorem namesRemote_diskTarget (files : FileTree) (destination source : String) :
    StoragePath.namesRemote (diskTarget files destination source) =
      StoragePath.namesRemote destination := by
  unfold diskTarget
  split
  · exact StoragePath.namesRemote_join (Files.PathText.slash_not_mem_fileName?_getD source)
  · rfl

theorem Copied.destination_eq {outcome : TransferOutcome} {after : FileTree}
    (run : Copied files source target identity (.ok outcome, after)) :
    outcome.destination = target := by
  generalize same : (Except.ok outcome, after) = result at run
  cases run with
  | same => cases same
  | unmade => cases same
  | @attempted size =>
    cases size with
    | error fault => cases same
    | ok bytes =>
      cases same
      rfl

variable {σ : Type} {connector : Connector σ} {outcome : TransferOutcome} {world after : World σ}

theorem namesRemote_of_disk (onDisk : StoragePath.ofText destination = .disk destination)
    (transferred : transferFile connector source destination world = (.ok outcome, after)) :
    StoragePath.namesRemote outcome.destination = StoragePath.namesRemote destination := by
  match present : world.files.fileAt? source with
  | none =>
    rw [transferFile, source?, present] at transferred
    cases transferred
  | some identity =>
    obtain ⟨⟨result, files⟩, run, same⟩ := exists_copied connector onDisk present
    rw [same] at transferred
    cases result with
    | error fault => cases transferred
    | ok copied =>
      cases transferred
      rw [run.destination_eq, namesRemote_diskTarget]

theorem exists_put_of_remote {path : RemotePath} (files : FileTree) (state : σ) (log : List Event)
    (found : StoragePath.ofText destination = .remote path)
    (transferred : transferFile connector source destination ⟨files, state⟩ =
      (.ok outcome, after)) :
    ∃ target content info,
      transferFile connector.logged source destination ⟨files, state, log⟩ =
        (.ok outcome, ⟨after.files, after.service, log ++
          [⟨.connect, .ok .connected⟩, ⟨.put target source (some content), .ok (.stored info)⟩]⟩) ∧
      StoragePath.ofText outcome.destination = .remote target := by
  match present : files.fileAt? source with
  | none =>
    rw [transferFile, source?, present] at transferred
    cases transferred
  | some identity =>
    obtain ⟨events, result, final, logged, plainly, delivered⟩ :=
      transferFile_delivered connector found present state log
    cases plainly.symm.trans transferred
    have plain : '/' ∉ (remoteTarget path source).bucket.toList := by
      rw [bucket_remoteTarget]
      exact StoragePath.slash_not_mem_bucket found
    have read := StoragePath.ofText_of_written (RemotePath.written_fullPath plain)
    cases delivered with
    | stored => exact ⟨_, _, _, logged, read⟩

/-- Reading and printing of places, and what follows for a transfer. A text is a remote place exactly
if it begins with the scheme, and any other text stands for itself. A remote place is read again from
its print, and its print is the text that was read, save for one slash behind a bare bucket. So the
destination of an outcome is remote if the given one is, and names the place of the one put. -/
theorem destination_of_outcome :
    (∀ text,
      (StoragePath.namesRemote text = true ↔ ∃ path, StoragePath.ofText text = .remote path) ∧
      (∀ held, StoragePath.ofText text = .disk held → held = text) ∧
      ∀ path, StoragePath.ofText text = .remote path → '/' ∉ path.bucket.toList ∧
        path.fullPath =
          if text = "s3://" ++ path.bucket ++ "/" then "s3://" ++ path.bucket else text) ∧
    (∀ path : RemotePath, '/' ∉ path.bucket.toList →
      StoragePath.ofText path.fullPath = .remote path) ∧
    ∀ {σ : Type} (connector : Connector σ) (source destination : String) (files : FileTree)
      (state : σ) (log : List Event) (outcome : TransferOutcome) (after : World σ),
      transferFile connector source destination ⟨files, state⟩ = (.ok outcome, after) →
        StoragePath.namesRemote outcome.destination = StoragePath.namesRemote destination ∧
        (StoragePath.namesRemote destination = true → ∃ target content info,
          transferFile connector.logged source destination ⟨files, state, log⟩ =
            (.ok outcome, ⟨after.files, after.service, log ++
              [⟨.connect, .ok .connected⟩,
                ⟨.put target source (some content), .ok (.stored info)⟩]⟩) ∧
          StoragePath.ofText outcome.destination = .remote target) := by
  refine ⟨fun text => ⟨StoragePath.namesRemote_iff_exists,
    fun held => StoragePath.eq_of_ofText_eq_disk, fun path found =>
      ⟨StoragePath.slash_not_mem_bucket found, (StoragePath.written_of_ofText found).printed⟩⟩,
    fun path plain => StoragePath.ofText_of_written (RemotePath.written_fullPath plain),
    fun connector source destination files state log outcome after transferred => ?_⟩
  match found : StoragePath.ofText destination with
  | .disk held =>
    cases StoragePath.eq_of_ofText_eq_disk found
    refine ⟨namesRemote_of_disk found transferred, fun remote => ?_⟩
    obtain ⟨path, other⟩ := StoragePath.namesRemote_iff_exists.mp remote
    cases found.symm.trans other
  | .remote path =>
    obtain ⟨target, content, info, logged, read⟩ :=
      exists_put_of_remote files state log found transferred
    refine ⟨?_, fun _ => ⟨target, content, info, logged, read⟩⟩
    rw [StoragePath.namesRemote_iff_exists.mpr ⟨target, read⟩,
      StoragePath.namesRemote_iff_exists.mpr ⟨path, found⟩]

/-- A place on disk that all but begins with the scheme is still one on disk with a name behind it, and
an object below slashes has the place that was printed for it. -/
theorem loneFile_named :
    (∃ after, transferFile (Shelves.connector 1) "f" "s3:/" loneFile =
        (.ok ⟨"f", "s3:/f", 1⟩, after) ∧
      StoragePath.namesRemote "s3:/f" = StoragePath.namesRemote "s3:/") ∧
    ∃ after target content info,
      transferFile (Shelves.connector 1) "f" "s3://b/p//" loneFile =
        (.ok ⟨"f", "s3://b/p/f", 1⟩, after) ∧
      transferFile (Shelves.connector 1).logged "f" "s3://b/p//"
          ⟨loneFile.files, loneFile.service, []⟩ =
        (.ok ⟨"f", "s3://b/p/f", 1⟩, ⟨after.files, after.service,
          [⟨.connect, .ok .connected⟩, ⟨.put target "f" (some content), .ok (.stored info)⟩]⟩) ∧
      StoragePath.ofText "s3://b/p/f" = .remote target := by
  have succeeds (destination named : String) (succeeded : (transferFile (Shelves.connector 1) "f"
      destination loneFile).1.toOption = some ⟨"f", named, 1⟩) :=
    exists_ok_of_toOption succeeded
  obtain ⟨copied, onDisk⟩ := succeeds "s3:/" "s3:/f" (by decide +kernel)
  obtain ⟨stored, remote⟩ := succeeds "s3://b/p//" "s3://b/p/f" (by decide +kernel)
  have spec := destination_of_outcome.2.2 (Shelves.connector 1) "f"
  have same := (spec "s3:/" loneFile.files loneFile.service [] _ copied onDisk).1
  obtain ⟨target, content, info, logged, read⟩ :=
    (spec "s3://b/p//" loneFile.files loneFile.service [] _ stored remote).2 (by decide)
  exact ⟨⟨copied, onDisk, same⟩, stored, target, content, info, remote, logged, read⟩

end Transfer

end Haulage
