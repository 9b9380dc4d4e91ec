import Haulage.Proofs.Command.Endpoint

/-! What stands before the first request. A run sends nothing until the settings are loaded, the options
are valid for a remote destination, and a file to be transferred is there; whatever it is that is
missing, the service is as it was. An operation connects once, before every other call. -/
namespace Haulage

/-- There is one connection at most, and every other call comes after it. -/
inductive ConnectsFirst : List Event → Prop where
  | untouched : ConnectsFirst []
  | connected (later : ∀ event ∈ rest, event.call ≠ .connect) :
      ConnectsFirst (⟨.connect, result⟩ :: rest)

variable {σ : Type}

namespace Deletion

variable {store : Store σ} {connector : Connector σ} {destination : String} {path : RemotePath}
  {token : Option String} {state final : σ} {events : List Event} {count : Except Fault Nat}
  {pages : Nat} {files : FileTree}

theorem BatchRun.not_connects {bucket : String} {groups : List (List String)}
    (run : BatchRun store bucket groups state events count final) :
    ∀ event ∈ events, event.call ≠ .connect := by
  intro event member
  obtain ⟨batch, _, named⟩ := run.exists_batch event member
  rw [named]
  exact nofun

theorem PageRun.not_connects (run : PageRun store path token state events count final) :
    ∀ event ∈ events, event.call ≠ .connect := by
  induction run with
  | unlisted _ => simp
  | stuck _ removal | last _ removal _ => simpa using removal.not_connects
  | more _ removal _ _ ih =>
    intro event member
    rcases List.mem_cons.mp member with rfl | member
    · exact nofun
    · exact (List.mem_append.mp member).elim (removal.not_connects event) (ih event)

theorem trail_not_connects (path : RemotePath) (token : Option String) (visits : List Visit) :
    ∀ event ∈ trail path token visits, event.call ≠ .connect := by
  induction visits generalizing token with
  | nil => exact List.forall_mem_nil _
  | cons visit rest ih =>
    intro event member
    rcases List.mem_append.mp member with here | later
    · rcases List.mem_cons.mp here with rfl | removed
      · exact nofun
      · obtain ⟨removal, _, rfl⟩ := List.mem_map.mp removed
        exact nofun
    · exact ih _ event later

theorem RemoteRun.connectsFirst (run : RemoteRun connector path state events count final) :
    ConnectsFirst events := by
  cases run with
  | refused _ => exact .connected (List.forall_mem_nil _)
  | served _ run => exact .connected run.not_connects

theorem connectsFirst_of_logged {after : World (σ × List Event)}
    {result : Except Fault DeleteOutcome}
    (finished : deleteRecursive connector.logged pages destination ⟨files, state, []⟩ =
      some (result, after)) : ConnectsFirst after.service.2 := by
  match found : StoragePath.ofText destination with
  | .disk text =>
    rw [deleteRecursive, found] at finished
    cases finished
    exact .untouched
  | .remote path =>
    obtain ⟨count, run, -⟩ := exists_remoteRun_of_logged found finished
    exact run.connectsFirst

/-- A deletion that goes on and on has connected once. -/
theorem connectsFirst_of_endless
    (endless : deleteRecursive connector.logged pages destination ⟨files, state, []⟩ = none) :
    ∃ path store connected visits final log, StoragePath.ofText destination = .remote path ∧
      connector.connect state = (.ok store, connected) ∧ visits.length = pages ∧
      Toured store.logged path none (connected, [⟨.connect, .ok .connected⟩]) visits (final, log) ∧
      ConnectsFirst log := by
  match found : StoragePath.ofText destination with
  | .disk text =>
    rw [deleteRecursive, found] at endless
    cases endless
  | .remote path =>
    have plain := deleteRecursive_logged connector found pages files state []
    rw [endless, Option.map_none] at plain
    obtain ⟨store, connected, visits, final, answered, counted, tour⟩ :=
      (deleteRecursive_eq_none_iff found).mp plain.symm
    exact ⟨path, store, connected, visits, final, _, rfl, answered, counted, tour.logged _,
      .connected (trail_not_connects path none visits)⟩

end Deletion

namespace Transfer

variable {connector : Connector σ} {source destination : String} {path : RemotePath} {state : σ}
  {files : FileTree} {world : World σ}

theorem connectsFirst_of_logged (connector : Connector σ) (source destination : String)
    (files : FileTree) (state : σ) : ConnectsFirst
      (transferFile connector.logged source destination ⟨files, state, []⟩).2.service.2 := by
  cases present : source? files source with
  | error fault =>
    simp only [transferFile, present]
    exact .untouched
  | ok identity =>
    cases found : StoragePath.ofText destination with
    | disk text =>
      simp only [transferFile, present, found]
      exact .untouched
    | remote path =>
      simp only [transferFile, present, found]
      rcases connected : connector.connect state with ⟨answer, next⟩
      cases answer with
      | error fault =>
        have refused := Connector.logged_eq connected []
        simp only [upload, refused, Except.map]
        exact .connected (List.forall_mem_nil _)
      | ok store =>
        have served := Connector.logged_eq connected []
        simp only [upload, served, Except.map, Store.logged, Answer.logging]
        refine .connected (List.forall_mem_singleton.mpr ?_)
        exact Call.noConfusion

end Transfer

namespace Command

/-- The settings are loaded, and the options that they complete are valid for the destination. -/
def Accepted (environment : Environment) (invocation : Invocation) (files : FileTree) : Prop :=
  ∃ settings, Settings.load (Settings.location? environment) files = .ok settings ∧
    (invocation.access.withDefaults settings.defaults).validate (invocation.places.getLastD "") =
      .ok ()

/-- All that is checked before a run makes a request. -/
structure Checked (environment : Environment) (tool : Tool) (invocation : Invocation)
    (files : FileTree) : Prop where
  accepted : Accepted environment invocation files
  remote : StoragePath.namesRemote (invocation.places.getLastD "") = true
  source : tool = .transfer → ∃ identity, files.fileAt? (invocation.places.headD "") = some identity

variable {context : Context σ} {tool : Tool} {invocation : Invocation} {world after : World σ}
  {ending : Ending} {style : Style} {access : AccessOptions} {source destination : String}

/-- Options are not looked at for a destination on disk. -/
theorem validate_of_disk (disk : StoragePath.namesRemote destination = false)
    (options : AccessOptions) : options.validate destination = .ok () := by
  rw [AccessOptions.validate, if_neg (by simp [disk])]
  rfl

/-- A run that is not accepted fails, and the world is as it was. -/
theorem run_of_not_accepted (refused : ¬ Accepted context.environment invocation world.files) :
    ∃ console, run context tool invocation world = some (⟨.failure, console⟩, world) := by
  have ran := ran_run context tool invocation world
  generalize run context tool invocation world = result at ran
  cases ran with
  | unloaded | rejected => exact ⟨_, rfl⟩
  | cleaned loaded valid | transferred loaded valid => exact absurd ⟨_, loaded, valid⟩ refused

theorem cleanup_files_eq (remote : StoragePath.namesRemote destination)
    (ended : cleanup context style access destination world = some (ending, after)) :
    after.files = world.files := by
  obtain ⟨⟨result, deleted⟩, finished, reported⟩ := Option.map_eq_some_iff.mp ended
  match found : StoragePath.ofText destination with
  | .disk text =>
    rw [← StoragePath.isRemote_ofText, found] at remote
    cases remote
  | .remote path =>
    obtain ⟨_, _, _, _, _, kept⟩ := Deletion.exists_remoteRun found finished
    cases result with
    | error fault =>
      cases reported
      exact kept
    | ok outcome =>
      cases reported
      exact kept

theorem transferFile_files_eq {connector : Connector σ}
    (remote : StoragePath.namesRemote destination) :
    (transferFile connector source destination world).2.files = world.files := by
  match found : StoragePath.ofText destination with
  | .disk text =>
    rw [← StoragePath.isRemote_ofText, found] at remote
    cases remote
  | .remote path =>
    unfold transferFile
    split
    · rfl
    · rw [found]

/-- A run with a remote destination changes nothing on disk. -/
theorem run_files_eq (remote : StoragePath.namesRemote (invocation.places.getLastD ""))
    (ended : run context tool invocation world = some (ending, after)) :
    after.files = world.files := by
  have ran := ran_run context tool invocation world
  rw [ended] at ran
  generalize reached : some (ending, after) = result at ran
  cases ran with
  | unloaded | rejected =>
    cases reached
    rfl
  | cleaned _ _ => exact cleanup_files_eq remote reached.symm
  | transferred _ _ =>
    have same := congrArg Prod.snd (Option.some.inj reached)
    rw [transfer_world] at same
    rw [show after = _ from same]
    exact transferFile_files_eq remote

/-- Where something is missing that has to be checked first, the service stays as it was. -/
theorem run_service_eq (unchecked : ¬ Checked context.environment tool invocation world.files)
    (ended : run context tool invocation world = some (ending, after)) :
    after.service = world.service := by
  by_cases accepted : Accepted context.environment invocation world.files
  · by_cases remote : StoragePath.namesRemote (invocation.places.getLastD "") = true
    · have absent : ¬ (tool = .transfer →
          ∃ identity, world.files.fileAt? (invocation.places.headD "") = some identity) :=
        fun present => unchecked ⟨accepted, remote, present⟩
      obtain ⟨rfl, nowhere⟩ := Classical.not_imp.mp absent
      have ran := ran_run context .transfer invocation world
      rw [ended] at ran
      generalize reached : some (ending, after) = result at ran
      cases ran with
      | unloaded | rejected =>
        cases reached
        rfl
      | transferred _ _ =>
        have same := congrArg Prod.snd (Option.some.inj reached)
        rw [transfer_world] at same
        rw [show after = _ from same]
        have missing : world.files.fileAt? (invocation.places.headD "") = none :=
          Option.eq_none_iff_forall_ne_some.mpr (not_exists.mp nowhere)
        simp only [transferFile, Transfer.source?, missing]
    · have kept : world.service = after.service :=
        run_keeps (fun _ present _ => absurd present remote) ended
      exact kept.symm
  · obtain ⟨console, failed⟩ := run_of_not_accepted accepted
    cases ended.symm.trans failed
    rfl

/-- A cleanup that is underway has been checked. -/
theorem Underway.checked {final : σ} (underway : Underway context invocation world final) :
    Checked context.environment .cleanup invocation world.files := by
  cases underway with
  | visiting loaded valid found _ _ _ =>
    exact ⟨⟨_, loaded, valid⟩, by rw [← StoragePath.isRemote_ofText, found]; rfl, nofun⟩

/-- Whatever a run is given, it makes no request before everything is checked: if the settings do not
load, the options are not valid, the destination is on disk, or the file to be transferred is not there,
then nothing is sent, and a run that is still going on has passed all of that. One whose settings or
options are not accepted ends with exit code 1 and leaves the world as it is; options for a place on
disk are always accepted; and one with a remote destination changes nothing on disk. Any operation
connects at most once, and before it calls a store. -/
theorem run_checks_first (environment : Environment) (service : S3.Service σ) (pages : Nat)
    (tool : Tool) (invocation : Invocation) (files : FileTree) (state : σ) :
    let context : Context (σ × List S3.Sent) := ⟨environment, service.recorded, pages⟩
    let world : World (σ × List S3.Sent) := ⟨files, state, []⟩
    let destination := invocation.places.getLastD ""
    (∀ ending after, run context tool invocation world = some (ending, after) →
      (¬ Checked environment tool invocation files → after.service = (state, [])) ∧
      (StoragePath.namesRemote destination = true → after.files = files)) ∧
    (run context tool invocation world = none → Checked environment tool invocation files) ∧
    (¬ Accepted environment invocation files → ∃ ending,
      run context tool invocation world = some (ending, world) ∧ ending.code.number = 1) ∧
    (StoragePath.namesRemote destination = false →
      ∀ options : AccessOptions, options.validate destination = .ok ()) ∧
    ∀ (τ : Type) (connector : Connector τ) (start : τ) (source place : String) (held : FileTree),
      (∀ result after, deleteRecursive connector.logged pages place ⟨held, start, []⟩ =
        some (result, after) → ConnectsFirst after.service.2) ∧
      (deleteRecursive connector.logged pages place ⟨held, start, []⟩ = none →
        ∃ path store connected visits final log, StoragePath.ofText place = .remote path ∧
          connector.connect start = (.ok store, connected) ∧ visits.length = pages ∧
          Deletion.Toured store.logged path none (connected, [⟨.connect, .ok .connected⟩]) visits
            (final, log) ∧ ConnectsFirst log) ∧
      ConnectsFirst (transferFile connector.logged source place ⟨held, start, []⟩).2.service.2 := by
  intro context world destination
  refine ⟨fun ending after ended => ⟨fun unchecked => run_service_eq unchecked ended,
    fun remote => run_files_eq remote ended⟩, ?_, ?_, validate_of_disk, ?_⟩
  · intro endless
    obtain ⟨rfl, final, underway⟩ := run_eq_none_iff.mp endless
    exact underway.checked
  · intro refused
    obtain ⟨console, failed⟩ :
        ∃ console, run context tool invocation world = some (⟨.failure, console⟩, world) :=
      run_of_not_accepted refused
    exact ⟨⟨.failure, console⟩, failed, rfl⟩
  · intro τ connector start source place held
    exact ⟨fun result after => Deletion.connectsFirst_of_logged,
      Deletion.connectsFirst_of_endless, Transfer.connectsFirst_of_logged connector source place held
        start⟩

/-- There is no file of that name. -/
def misplaced : Invocation := { keyed with places := ["g", "s3://b/k"] }

/-- A role together with keys. -/
def muddled : Invocation := { keyed with access := { keyed.access with useRole := true } }

private theorem misplaced_unchecked :
    ¬ Checked ambient .transfer misplaced Transfer.loneFile.files := by
  intro checked
  obtain ⟨identity, found⟩ := checked.source rfl
  have missing : Transfer.loneFile.files.fileAt? "g" = none := by decide
  cases missing.symm.trans found

private theorem muddled_not_accepted : ¬ Accepted ambient muddled Transfer.loneFile.files := by
  rintro ⟨settings, _, valid⟩
  rcases (AccessOptions.validate_eq_ok_iff (by decide)).mp valid with ⟨_, keyless, _⟩ | ⟨roleless, _⟩
  · cases keyless
  · cases roleless

/-- Without the file nothing is sent; a cleanup that goes on has been checked; a role together with keys
ends with exit code 1; and a deletion of what is listed connects first. -/
theorem misplaced_sends_nothing :
    let world : World (Unit × List S3.Sent) := ⟨Transfer.loneFile.files, (), []⟩
    (∃ ending after,
      run ⟨ambient, endless.recorded, 3⟩ .transfer misplaced world = some (ending, after) ∧
      after.service = ((), []) ∧ after.files = Transfer.loneFile.files) ∧
    Checked ambient .cleanup keyed Transfer.loneFile.files ∧
    (∃ ending, run ⟨ambient, endless.recorded, 3⟩ .cleanup muddled world = some (ending, world) ∧
      ending.code.number = 1) ∧
    ∃ result after, deleteRecursive Rehearsal.connector.logged 3 "s3://b/p"
        ⟨Transfer.loneFile.files, Deletion.repetitive, []⟩ = some (result, after) ∧
      ConnectsFirst after.service.2 := by
  intro world
  refine ⟨?_, ?_, ?_, ?_⟩
  · have ends : (run ⟨ambient, endless.recorded, 3⟩ .transfer misplaced world).isSome := by
      decide +kernel
    obtain ⟨⟨ending, after⟩, ended⟩ := Option.isSome_iff_exists.mp ends
    obtain ⟨untouched, kept⟩ :=
      (run_checks_first ambient endless 3 .transfer misplaced _ _).1 ending after ended
    exact ⟨ending, after, ended, untouched misplaced_unchecked, kept (by decide)⟩
  · have goesOn : run ⟨ambient, endless.recorded, 3⟩ .cleanup keyed world = none :=
      Option.isNone_iff_eq_none.mp (by decide +kernel)
    exact (run_checks_first ambient endless 3 .cleanup keyed _ _).2.1 goesOn
  · exact (run_checks_first ambient endless 3 .cleanup muddled _ _).2.2.1 muddled_not_accepted
  · have ends : (deleteRecursive Rehearsal.connector.logged 3 "s3://b/p"
        ⟨Transfer.loneFile.files, Deletion.repetitive, []⟩).isSome := by decide +kernel
    obtain ⟨⟨result, after⟩, ended⟩ := Option.isSome_iff_exists.mp ends
    obtain ⟨_, _, _, _, operations⟩ := run_checks_first ambient endless 3 .cleanup keyed
      Transfer.loneFile.files ()
    exact ⟨result, after, ended,
      (operations _ Rehearsal.connector Deletion.repetitive "" "s3://b/p" _).1 result after ended⟩

end Command

end Haulage
