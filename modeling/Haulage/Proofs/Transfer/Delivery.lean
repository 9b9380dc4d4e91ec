import Haulage.Proofs.Files.Passing
import Haulage.Proofs.S3.Putting
import Haulage.Proofs.Storage.Grammar
import Haulage.Proofs.Storage.Log
import Haulage.Proofs.Transfer.Upload

/-! Where and how an object is delivered. Its key is read off two texts, the one typed behind the bucket
and the source; since a text that leads to a file ends in a name, the key always ends in a name too.
Nothing is asked of a store but to take that one object. -/
namespace Haulage

/-- The key of an object for a file of some name, by the key that was typed. -/
inductive RemotePath.Keyed (name : String) : String → String → Prop where
  /-- A key that ends in a name stays as it was typed. -/
  | single {typed : String} (filled : typed ≠ "") (ended : typed.toList.getLast? ≠ some '/') :
      Keyed name typed typed
  /-- Where no more than slashes were typed, nothing is left of them. -/
  | root (count : Nat) : Keyed name (String.ofList (List.replicate count '/')) name
  | below {base : String} (filled : base ≠ "") (ended : base.toList.getLast? ≠ some '/')
      (count : Nat) :
      Keyed name (base ++ String.ofList (List.replicate (count + 1) '/')) (base ++ "/" ++ name)

/-- The key ends in a name. -/
theorem RemotePath.Keyed.ended {name typed key source : String} (keyed : Keyed name typed key)
    (named : Files.PathText.EndsIn source name) : key ≠ "" ∧ key.toList.getLast? ≠ some '/' := by
  have apart : name.toList.getLast? ≠ some '/' := fun last => named.plain (List.mem_of_getLast? last)
  cases keyed with
  | single filled ended => exact ⟨filled, ended⟩
  | root => exact ⟨named.filled, apart⟩
  | below =>
    have filled : name.toList ≠ [] := by simpa using named.filled
    constructor
    · simp
    · rwa [String.toList_append, List.getLast?_append_of_ne_nil _ filled]

namespace Transfer

variable {source name : String}

theorem remoteTarget_eq (path : RemotePath) (named : Files.PathText.fileName? source = some name) :
    remoteTarget path source = if path.isDirectory then path.join name else path := by
  show (if _ then path.join ((Files.PathText.fileName? source).getD "") else _) = _
  rw [named]
  rfl

theorem keyed_remoteTarget (path : RemotePath)
    (named : Files.PathText.fileName? source = some name) :
    RemotePath.Keyed name path.key (remoteTarget path source).key := by
  rw [remoteTarget_eq path named]
  obtain ⟨count, whole⟩ := Text.exists_eq_dropTrailing_append '/' path.key.toList
  have ended := Text.getLast?_dropTrailing '/' path.key.toList
  have joined := RemotePath.toList_key_join path name
  generalize Text.dropTrailing '/' path.key.toList = base at whole ended joined
  have typed : path.key = String.ofList (base ++ List.replicate count '/') := by
    rw [← whole, String.ofList_toList]
  by_cases directory : path.isDirectory = true
  · rw [if_pos directory]
    by_cases empty : base = []
    · have key : (path.join name).key = name := by
        apply String.toList_inj.mp
        rw [joined, if_pos empty]
      rw [key, typed, empty, List.nil_append]
      exact .root count
    · have key : (path.join name).key = String.ofList base ++ "/" ++ name := by
        apply String.toList_inj.mp
        rw [joined, if_neg empty]
        simp
      -- what is left of a directory-like key has lost a slash at least
      have some_slash : count ≠ 0 := by
        rintro rfl
        rw [List.replicate_zero, List.append_nil] at whole
        rw [RemotePath.isDirectory_iff, whole] at directory
        exact directory.elim empty ended
      obtain ⟨less, rfl⟩ := Nat.exists_eq_succ_of_ne_zero some_slash
      rw [key, typed, String.ofList_append]
      exact .below (by simpa using empty) (by rwa [String.toList_ofList]) less
  · rw [if_neg directory]
    rw [RemotePath.isDirectory_iff, not_or] at directory
    exact .single (by simpa using directory.1) directory.2

variable {σ : Type} {connector : Connector σ} {target : RemotePath} {content : List UInt8}
  {files : FileTree}

/-- The calls that deliver an object, with what they give: no store is reached, the store does not take
the object, or it does. -/
inductive Delivered (connector : Connector σ) (target : RemotePath) (source : String)
    (content : List UInt8) (files : FileTree) :
    σ → List Event → Except Fault TransferOutcome → σ → Prop where
  | refused {state final : σ} {fault : Fault}
      (answered : connector.connect state = (.error fault, final)) :
      Delivered connector target source content files state [⟨.connect, .error fault⟩]
        (.error fault) final
  | failed {store : Store σ} {state connected final : σ} {fault : Fault}
      (answered : connector.connect state = (.ok store, connected))
      (unput : store.put target source files connected = (.error fault, final)) :
      Delivered connector target source content files state
        [⟨.connect, .ok .connected⟩, ⟨.put target source (some content), .error fault⟩]
        (.error fault) final
  | stored {store : Store σ} {state connected final : σ} {info : ObjectInfo}
      (answered : connector.connect state = (.ok store, connected))
      (put : store.put target source files connected = (.ok info, final)) :
      Delivered connector target source content files state
        [⟨.connect, .ok .connected⟩, ⟨.put target source (some content), .ok (.stored info)⟩]
        (.ok ⟨source, target.fullPath, content.length⟩) final

/-- A transfer delivers exactly if no call fails. -/
theorem Delivered.exists_ok_iff {state final : σ} {events : List Event}
    {result : Except Fault TransferOutcome}
    (delivered : Delivered connector target source content files state events result final) :
    (∃ outcome, result = .ok outcome) ↔ ∀ event ∈ events, event.failed = false := by
  cases delivered with
  | refused | failed => exact iff_of_false nofun (by simp [Event.failed])
  | stored => exact iff_of_true ⟨_, rfl⟩ (by simp [Event.failed])

theorem Delivered.outcome_eq {state final : σ} {events : List Event} {outcome : TransferOutcome}
    (delivered : Delivered connector target source content files state events (.ok outcome) final) :
    outcome = ⟨source, target.fullPath, content.length⟩ := by
  cases delivered
  rfl

theorem logged_put_eq {store : Store σ} {state next : σ} {result : Except Fault ObjectInfo}
    (kept : files.read source = .ok content)
    (put : store.put target source files state = (result, next)) (log : List Event) :
    store.logged.put target source files (state, log) =
      (result, next, log ++ [⟨.put target source (some content), result.map .stored⟩]) := by
  refine (Answer.logging_eq put _ .stored log).trans ?_
  rw [kept]
  rfl

theorem exists_delivered (connector : Connector σ) (target : RemotePath)
    (kept : files.read source = .ok content) (state : σ) (log : List Event) :
    ∃ events result final,
      upload connector.logged target source content.length files (state, log) =
        (result, final, log ++ events) ∧
      upload connector target source content.length files state = (result, final) ∧
      Delivered connector target source content files state events result final := by
  rcases answered : connector.connect state with ⟨fault | store, next⟩
  · refine ⟨_, _, _, ?_, ?_, .refused answered⟩
    · simp only [upload, Connector.logged_eq answered, Except.map]
    · simp only [upload, answered]
  · rcases put : store.put target source files next with ⟨result, final⟩
    have plainly : upload connector target source content.length files state =
        (result.map fun _ => ⟨source, target.fullPath, content.length⟩, final) := by
      simp only [upload, answered, put]
    have logged : upload connector.logged target source content.length files (state, log) =
        (result.map fun _ => ⟨source, target.fullPath, content.length⟩, final,
          log ++ [⟨.connect, .ok .connected⟩,
            ⟨.put target source (some content), result.map .stored⟩]) := by
      simp only [upload, Connector.logged_eq answered, Except.map, logged_put_eq kept put,
        List.append_assoc, List.cons_append, List.nil_append]
    cases result with
    | error fault => exact ⟨_, _, _, logged, plainly, .failed answered put⟩
    | ok info => exact ⟨_, _, _, logged, plainly, .stored answered put⟩

theorem read_of_fileAt? {identity : Nat} (found : files.fileAt? source = some identity) :
    files.read source = .ok (files.files identity).content := by
  obtain ⟨lies, looked⟩ := FileTree.fileAt?_eq_some_iff.mp found
  rw [FileTree.read, looked]
  rfl

theorem transferFile_delivered {path : RemotePath} {destination : String} {identity : Nat}
    (connector : Connector σ) (found : StoragePath.ofText destination = .remote path)
    (present : files.fileAt? source = some identity) (state : σ) (log : List Event) :
    ∃ events result final,
      transferFile connector.logged source destination ⟨files, state, log⟩ =
        (result, ⟨files, final, log ++ events⟩) ∧
      transferFile connector source destination ⟨files, state⟩ = (result, ⟨files, final⟩) ∧
      Delivered connector (remoteTarget path source) source (files.files identity).content files
        state events result final := by
  obtain ⟨events, result, final, logged, plainly, delivered⟩ :=
    exists_delivered connector (remoteTarget path source) (read_of_fileAt? present) state log
  refine ⟨events, result, final, ?_, ?_, delivered⟩
  · simp only [transferFile, source?, present, found, logged]
  · simp only [transferFile, source?, present, found, plainly]

/-- A transfer to a remote place. Without a file at the source nothing is called. Otherwise the object
goes to the bucket as typed, under a key that ends in a name; a store is asked once to take it, if
there is one, and what comes of that is all that decides. The object has the bytes of the file, also
in the one request that a client makes of the put if that can be built, and the files are as before. -/
theorem transfer_remote (connector : Connector σ) (source : String) {destination : String}
    (files : FileTree) (state : σ) (log : List Event)
    (remote : StoragePath.namesRemote destination = true) :
    ∃ bucket typed, RemotePath.Written ⟨bucket, typed⟩ destination ∧
      (files.fileAt? source = none →
        transferFile connector.logged source destination ⟨files, state, log⟩ =
          (.error (.notFound (.source source)), ⟨files, state, log⟩)) ∧
      ∀ identity, files.fileAt? source = some identity →
        let content := (files.files identity).content
        ∃ name key, Files.PathText.EndsIn source name ∧ RemotePath.Keyed name typed key ∧
          key ≠ "" ∧ key.toList.getLast? ≠ some '/' ∧
          (∃ events result final,
            transferFile connector.logged source destination ⟨files, state, log⟩ =
              (result, ⟨files, final, log ++ events⟩) ∧
            transferFile connector source destination ⟨files, state⟩ = (result, ⟨files, final⟩) ∧
            Delivered connector ⟨bucket, key⟩ source content files state events result final ∧
            ((∃ outcome, result = .ok outcome) ↔ ∀ event ∈ events, event.failed = false)) ∧
          ∀ {ρ : Type} (service : S3.Service ρ) (client : S3.Client) (start : ρ × List S3.Exchange),
            let request := S3.Request.put bucket key (service.contentType? source) content
            ∃ exchanges result final,
              (client.store service.logged).put ⟨bucket, key⟩ source files start =
                (result, final, start.2 ++ exchanges) ∧
              (client.build? request = none ∧ exchanges = [] ∧ (∃ fault, result = .error fault) ∨
                ∃ exchange, client.build? request = some exchange.sent ∧ exchanges = [exchange] ∧
                  exchange.sent.request = request ∧
                  ((∃ info, result = .ok info) ↔ exchange.granted = true)) := by
  obtain ⟨⟨bucket, typed⟩, found⟩ := StoragePath.namesRemote_iff_exists.mp remote
  refine ⟨bucket, typed, StoragePath.written_of_ofText found, fun absent => ?_,
    fun identity present => ?_⟩
  · rw [transferFile, source?, absent]
  · dsimp only
    obtain ⟨last, spelled, ended⟩ := FileTree.exists_name_of_fileAt? present
    have named := Files.PathText.endsIn_of_spell ended spelled
    have keyed := keyed_remoteTarget ⟨bucket, typed⟩ (Files.PathText.fileName?_of_spell spelled)
    have same := bucket_remoteTarget ⟨bucket, typed⟩ source
    obtain ⟨events, result, final, logged, plainly, delivered⟩ :=
      transferFile_delivered connector found present state log
    generalize remoteTarget ⟨bucket, typed⟩ source = target at keyed same delivered
    obtain ⟨other, key⟩ := target
    cases same
    obtain ⟨filled, whole⟩ := keyed.ended named
    exact ⟨last, key, named, keyed, filled, whole,
      ⟨events, result, final, logged, plainly, delivered, delivered.exists_ok_iff⟩,
      fun service client start =>
        S3.Client.exists_exchanges_of_put service client ⟨bucket, key⟩ present start⟩

theorem exists_ok_of_toOption {ended : Except Fault TransferOutcome × World σ}
    {outcome : TransferOutcome} (succeeded : ended.1.toOption = some outcome) :
    ∃ after, ended = (.ok outcome, after) := by
  obtain ⟨fault | told, after⟩ := ended
  · cases succeeded
  · cases succeeded
    exact ⟨after, rfl⟩

theorem loneFile_delivered : StoragePath.namesRemote "s3://b/p//" = true ∧
    loneFile.files.fileAt? "f" = some 0 ∧
    ∃ events final, transferFile (Shelves.connector 1).logged "f" "s3://b/p//"
        ⟨loneFile.files, loneFile.service, []⟩ =
          (.ok ⟨"f", "s3://b/p/f", 1⟩, ⟨loneFile.files, final, events⟩) ∧
      Delivered (Shelves.connector 1) ⟨"b", "p/f"⟩ "f" [100] loneFile.files loneFile.service events
        (.ok ⟨"f", "s3://b/p/f", 1⟩) final := by
  have remote : StoragePath.namesRemote "s3://b/p//" = true := by decide
  have present : loneFile.files.fileAt? "f" = some 0 := by decide +kernel
  have succeeded : (transferFile (Shelves.connector 1) "f" "s3://b/p//" loneFile).1.toOption =
      some ⟨"f", "s3://b/p/f", 1⟩ := by decide +kernel
  obtain ⟨bucket, typed, written, -, delivers⟩ :=
    transfer_remote (Shelves.connector 1) "f" loneFile.files loneFile.service [] remote
  have place : StoragePath.ofText "s3://b/p//" = .remote ⟨"b", "p//"⟩ := by decide
  cases place.symm.trans (StoragePath.ofText_of_written written)
  obtain ⟨name, key, -, -, -, -, ⟨events, result, final, logged, plainly, delivered, -⟩, -⟩ :=
    delivers 0 present
  obtain ⟨after, ended⟩ := exists_ok_of_toOption succeeded
  cases plainly.symm.trans ended
  have printed : "s3://b/p/f" = (⟨"b", key⟩ : RemotePath).fullPath :=
    congrArg TransferOutcome.destination delivered.outcome_eq
  have plain : '/' ∉ "b".toList := by decide
  have read := StoragePath.ofText_of_written (@RemotePath.written_fullPath ⟨"b", key⟩ plain)
  have target : StoragePath.ofText "s3://b/p/f" = .remote ⟨"b", "p/f"⟩ := by decide
  rw [← printed] at read
  cases target.symm.trans read
  exact ⟨remote, present, events, final, logged, delivered⟩

end Transfer

end Haulage
