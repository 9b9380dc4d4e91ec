import Haulage.Proofs.Deletion.Emptying
import Haulage.Proofs.Storage.Filling
import Haulage.Proofs.Storage.Joining
import Haulage.Transfer

/-! An upload, and a deletion at the same place after it. The upload goes to the place as typed or to a
name below it, and the deletion takes what begins with the place as typed: so the object is gone
again, unless a slash was lost when the name was joined to the place. -/
namespace Haulage.Transfer

/-- What an upload gives and the state after it: no store is reached, the store does not take the
file, or it does. -/
inductive Uploaded {σ : Type} (connector : Connector σ) (target : RemotePath) (source : String)
    (size : Nat) (files : FileTree) : σ → Except Fault TransferOutcome → σ → Prop where
  | refused (answered : connector.connect state = (.error fault, next)) :
      Uploaded connector target source size files state (.error fault) next
  | failed {store : Store σ} (answered : connector.connect state = (.ok store, connected))
      (unput : store.put target source files connected = (.error fault, next)) :
      Uploaded connector target source size files state (.error fault) next
  | stored {store : Store σ} (answered : connector.connect state = (.ok store, connected))
      (put : store.put target source files connected = (.ok info, next)) :
      Uploaded connector target source size files state
        (.ok { source := source, destination := target.fullPath, size := size }) next

variable {σ : Type} {connector : Connector σ} {held : σ → Holdings} {source destination : String}
  {path target : RemotePath} {size : Nat} {files : FileTree} {state final : σ}
  {world stored after : World σ} {outcome : TransferOutcome}

theorem uploaded_of_upload {result : Except Fault TransferOutcome}
    (answered : upload connector target source size files state = (result, final)) :
    Uploaded connector target source size files state result final := by
  match connected : connector.connect state with
  | (.error fault, next) =>
    simp only [upload, connected] at answered
    cases answered
    exact .refused connected
  | (.ok store, next) =>
    match put : store.put target source files next with
    | (.error fault, after) =>
      simp only [upload, connected, put] at answered
      cases answered
      exact .failed connected put
    | (.ok info, after) =>
      simp only [upload, connected, put] at answered
      cases answered
      exact .stored connected put

theorem Uploaded.keeps {relation : σ → σ → Prop} [IsTrans σ relation]
    {result : Except Fault TransferOutcome}
    (uploaded : Uploaded connector target source size files state result final)
    (keeps : connector.Keeps relation) : relation state final := by
  cases uploaded with
  | refused answered => exact keeps.connect.of_eq answered
  | failed answered put | stored answered put =>
    exact IsTrans.trans _ _ _ (keeps.connect.of_eq answered)
      (((keeps.serves answered).put _ _ _).of_eq put)

/-- A transfer that succeeds at a remote place is an upload of a file that is there. -/
theorem exists_uploaded (found : StoragePath.ofText destination = .remote path)
    (transferred : transferFile connector source destination world = (.ok outcome, stored)) :
    ∃ identity, world.files.fileAt? source = some identity ∧ stored.files = world.files ∧
      Uploaded connector (remoteTarget path source) source
        (world.files.files identity).content.length world.files world.service (.ok outcome)
        stored.service := by
  match present : world.files.fileAt? source with
  | none =>
    rw [transferFile, source?, present] at transferred
    cases transferred
  | some identity =>
    match answered : upload connector (remoteTarget path source) source
      (world.files.files identity).content.length world.files world.service with
    | (result, service) =>
      simp only [transferFile, source?, present, found, answered] at transferred
      cases transferred
      exact ⟨identity, rfl, rfl, uploaded_of_upload answered⟩

/-- If no store is reached, that is what comes of a file that is there. -/
theorem transferFile_of_refused {fault : Fault} {identity : Nat}
    (found : StoragePath.ofText destination = .remote path)
    (present : files.fileAt? source = some identity)
    (refused : connector.connect state = (.error fault, final)) :
    transferFile connector source destination ⟨files, state⟩ = (.error fault, ⟨files, final⟩) := by
  simp only [transferFile, source?, present, found, upload, refused]

/-- What is uploaded is held from then on, under the key of the place. -/
theorem Uploaded.held_eq (uploaded : Uploaded connector target source size files state (.ok outcome)
    final) (filling : connector.Filling held) :
    outcome.destination = target.fullPath ∧
      held final = (held state).edited ⟨target.bucket, target.key, true⟩ := by
  cases uploaded with
  | stored answered put =>
    obtain ⟨unchanged, serving⟩ := filling.connect answered
    rw [serving.put put, unchanged]
    exact ⟨rfl, rfl⟩

/-- A transfer keeps what every call keeps; one to disk makes no call. -/
theorem transferFile_keeps {relation : σ → σ → Prop} [Std.Refl relation] [IsTrans σ relation]
    (keeps : StoragePath.namesRemote destination → connector.Keeps relation) :
    relation world.service (transferFile connector source destination world).2.service := by
  unfold transferFile
  split
  · exact Std.Refl.refl _
  · rename_i identity found
    split
    · rename_i path remote
      have keeps : connector.Keeps relation := by
        refine keeps ?_
        rw [← StoragePath.isRemote_ofText, remote]
        rfl
      dsimp only
      match answered : upload connector (remoteTarget path source) source
        (world.files.files identity).content.length world.files world.service with
      | (result, service) => exact (uploaded_of_upload answered).keeps keeps
    · exact Std.Refl.refl _

theorem bucket_remoteTarget (path : RemotePath) (source : String) :
    (remoteTarget path source).bucket = path.bucket := by
  unfold remoteTarget
  split <;> rfl

/-- The key begins with the one that was typed, unless joining takes a slash away from that. -/
theorem covers_remoteTarget_iff (path : RemotePath) (source : String) :
    path.Covers (remoteTarget path source).key ↔ ¬ path.Folds := by
  unfold remoteTarget
  split
  · rename_i directory
    exact RemotePath.covers_join_iff (Files.PathText.slash_not_mem_fileName?_getD source) directory
  · rename_i single
    exact iff_of_true List.prefix_rfl fun folds => single folds.isDirectory

/-- When a transfer to a remote place and then a deletion of the same place succeed, the object that
was uploaded is gone, and with it all that the place covers. Only where the place as typed ends in
two slashes, or in one behind no name, is the object found under a key that the place does not
cover, and stays. -/
theorem deletion_after_upload {emptied : DeleteOutcome} {pages : Nat}
    (filling : connector.Filling held) (found : StoragePath.ofText destination = .remote path)
    (transferred : transferFile connector source destination world = (.ok outcome, stored))
    (deleted : Haulage.deleteRecursive connector pages destination stored =
      some (.ok emptied, after)) :
    let target := remoteTarget path source
    outcome.destination = target.fullPath ∧
      held stored.service = (held world.service).edited ⟨path.bucket, target.key, true⟩ ∧
      held after.service = (held stored.service).cleared path ∧
      (path.Covers target.key ↔ ¬ path.Folds) ∧
      (target.key ∈ held after.service path.bucket ↔ path.Folds) := by
  obtain ⟨identity, -, -, uploaded⟩ := exists_uploaded found transferred
  obtain ⟨named, filled⟩ := uploaded.held_eq filling
  rw [bucket_remoteTarget] at filled
  obtain ⟨events, count, run, -, same, -⟩ := Deletion.exists_remoteRun found deleted
  have left := run.held_eq filling.truthful ((Deletion.exists_map_ok_iff _ _).mp ⟨_, same.symm⟩)
  have covers := covers_remoteTarget_iff path source
  refine ⟨named, filled, left, covers, ?_⟩
  rw [left, Holdings.mem_cleared, filled]
  simp [Holdings.mem_edited_put, covers]

/-- A file, and buckets without objects. -/
def loneFile : World Shelves where
  files :=
    { entries := [(["f"], .file 0)]
      files := fun _ => { FileTree.blankFile with content := [100] }
      start := [] }
  service := fun _ => .empty

private theorem loneFile_run : ∃ outcome stored emptied after,
    transferFile (Shelves.connector 1) "f" "s3://b/p//" loneFile = (.ok outcome, stored) ∧
      deleteRecursive (Shelves.connector 1) 1 "s3://b/p//" stored = some (.ok emptied, after) ∧
      "p/f" ∈ Shelves.held after.service "b" := by
  have checked : ((transferFile (Shelves.connector 1) "f" "s3://b/p//" loneFile).1.toOption.bind
      fun _ => (deleteRecursive (Shelves.connector 1) 1 "s3://b/p//"
        (transferFile (Shelves.connector 1) "f" "s3://b/p//" loneFile).2).bind
          fun (result, after) => result.toOption.map
            fun _ => decide ("p/f" ∈ Shelves.held after.service "b")) = some true := by
    decide +kernel
  obtain ⟨outcome, transferred, rest⟩ := Option.bind_eq_some_iff.mp checked
  obtain ⟨⟨result, after⟩, deleted, rest⟩ := Option.bind_eq_some_iff.mp rest
  obtain ⟨emptied, succeeded, present⟩ := Option.map_eq_some_iff.mp rest
  match stored : transferFile (Shelves.connector 1) "f" "s3://b/p//" loneFile with
  | (.error _, _) =>
    rw [stored] at transferred
    cases transferred
  | (.ok actual, world) =>
    rw [stored] at deleted
    cases result with
    | error _ => cases succeeded
    | ok gone => exact ⟨actual, world, gone, after, rfl, deleted, of_decide_eq_true present⟩

/-- So not everything that is put at a place goes when the place is deleted. -/
theorem upload_left_behind : ¬ ∀ (connector : Connector Shelves) (source destination : String)
    (path : RemotePath) (pages : Nat) (world stored after : World Shelves)
    (outcome : TransferOutcome) (emptied : DeleteOutcome),
    connector.Obliging Shelves.held → connector.Filling Shelves.held →
    StoragePath.ofText destination = .remote path →
    transferFile connector source destination world = (.ok outcome, stored) →
    deleteRecursive connector pages destination stored = some (.ok emptied, after) →
    (remoteTarget path source).key ∉ Shelves.held after.service path.bucket := by
  intro gone
  obtain ⟨outcome, stored, emptied, after, transferred, deleted, present⟩ := loneFile_run
  have named : StoragePath.ofText "s3://b/p//" = .remote ⟨"b", "p//"⟩ := by decide
  have target : (remoteTarget ⟨"b", "p//"⟩ "f").key = "p/f" := by decide
  have absent := gone _ _ _ _ _ _ _ _ outcome emptied (Shelves.connector_obliging 1)
    (Shelves.connector_filling 1) named transferred deleted
  rw [target] at absent
  exact absent present

theorem loneFile_stays : ∃ outcome stored emptied after,
    transferFile (Shelves.connector 1) "f" "s3://b/p//" loneFile = (.ok outcome, stored) ∧
      deleteRecursive (Shelves.connector 1) 1 "s3://b/p//" stored = some (.ok emptied, after) ∧
      outcome.destination = "s3://b/p/f" ∧ "p/f" ∈ Shelves.held after.service "b" := by
  obtain ⟨outcome, stored, emptied, after, transferred, deleted, -⟩ := loneFile_run
  have named : StoragePath.ofText "s3://b/p//" = .remote ⟨"b", "p//"⟩ := by decide
  have target : remoteTarget ⟨"b", "p//"⟩ "f" = ⟨"b", "p/f"⟩ := by decide
  have spec := deletion_after_upload (Shelves.connector_filling 1) named transferred deleted
  dsimp only at spec
  rw [target] at spec
  exact ⟨outcome, stored, emptied, after, transferred, deleted, spec.1.trans (by decide),
    spec.2.2.2.2.mpr (by decide)⟩

end Haulage.Transfer
