import Haulage.Command.Run
import Haulage.Proofs.Deletion.Trace
import Haulage.Proofs.Transfer.Upload

/-! The ways in which a run of a command can go. A run that loads no settings or rejects its options
leaves the world as it is; any other does what its tool does, with options that are valid. -/
namespace Haulage.Command

variable {σ : Type}

/-- The connection that a run makes with its options. -/
def Context.connector (context : Context σ) (access : AccessOptions) : Connector σ :=
  S3.connector context.service context.environment access.method access.endpoint

/-- What a run gives: it loads no settings, rejects its options, or does what its tool does. -/
inductive Ran (context : Context σ) (invocation : Invocation) (world : World σ) :
    Tool → Option (Ending × World σ) → Prop where
  | unloaded {tool : Tool} {fault : Fault}
      (failed : Settings.load (Settings.location? context.environment) world.files = .error fault) :
      Ran context invocation world tool
        (some (⟨.failure, settingsFailure invocation.report context.environment.terminal fault⟩, world))
  | rejected {tool : Tool} {settings : Settings} {fault : Fault}
      (loaded : Settings.load (Settings.location? context.environment) world.files = .ok settings)
      (invalid : (invocation.access.withDefaults settings.defaults).validate
        (invocation.places.getLastD "") = .error fault) :
      Ran context invocation world tool (some (⟨.failure, .toErr (tool.rejection fault)⟩, world))
  | cleaned {settings : Settings}
      (loaded : Settings.load (Settings.location? context.environment) world.files = .ok settings)
      (valid : (invocation.access.withDefaults settings.defaults).validate
        (invocation.places.getLastD "") = .ok ()) :
      Ran context invocation world .cleanup
        (cleanup context (context.style invocation settings)
          (invocation.access.withDefaults settings.defaults) (invocation.places.getLastD "") world)
  | transferred {settings : Settings}
      (loaded : Settings.load (Settings.location? context.environment) world.files = .ok settings)
      (valid : (invocation.access.withDefaults settings.defaults).validate
        (invocation.places.getLastD "") = .ok ()) :
      Ran context invocation world .transfer
        (some (transfer context (context.style invocation settings)
          (invocation.access.withDefaults settings.defaults) (invocation.places.headD "")
          (invocation.places.getLastD "") world))

theorem ran_run (context : Context σ) (tool : Tool) (invocation : Invocation) (world : World σ) :
    Ran context invocation world tool (run context tool invocation world) := by
  unfold run
  split
  · rename_i fault failed
    exact .unloaded failed
  · rename_i settings loaded
    dsimp only
    split
    · rename_i fault invalid
      exact .rejected loaded invalid
    · rename_i valid
      cases tool with
      | cleanup => exact .cleaned loaded valid
      | transfer => exact .transferred loaded valid

variable {context : Context σ} {tool : Tool} {invocation : Invocation} {world after : World σ}
  {ending : Ending} {style : Style} {access : AccessOptions} {source destination : String}

theorem transfer_world : (transfer context style access source destination world).2 =
    (transferFile (context.connector access) source destination world).2 := by
  unfold transfer
  dsimp only
  split
  · rfl
  · rfl

variable {relation : σ → σ → Prop} [Std.Refl relation] [IsTrans σ relation]

theorem cleanup_keeps
    (keeps : StoragePath.namesRemote destination → (context.connector access).Keeps relation)
    (ended : cleanup context style access destination world = some (ending, after)) :
    relation world.service after.service := by
  obtain ⟨⟨result, deleted⟩, finished, reported⟩ := Option.map_eq_some_iff.mp ended
  have kept := Deletion.deleteRecursive_keeps keeps finished
  cases result with
  | error fault =>
    cases reported
    exact kept
  | ok outcome =>
    cases reported
    exact kept

theorem transfer_keeps
    (keeps : StoragePath.namesRemote destination → (context.connector access).Keeps relation)
    (ended : transfer context style access source destination world = (ending, after)) :
    relation world.service after.service := by
  have same : after = (transferFile (context.connector access) source destination world).2 :=
    (congrArg Prod.snd ended).symm.trans transfer_world
  rw [same]
  exact Transfer.transferFile_keeps keeps

/-- A run keeps what every call over a connection with valid options keeps. -/
theorem run_keeps
    (keeps : ∀ defaults, StoragePath.namesRemote (invocation.places.getLastD "") →
      (invocation.access.withDefaults defaults).validate (invocation.places.getLastD "") = .ok () →
      (context.connector (invocation.access.withDefaults defaults)).Keeps relation)
    (ended : run context tool invocation world = some (ending, after)) :
    relation world.service after.service := by
  have ran := ran_run context tool invocation world
  rw [ended] at ran
  generalize reached : some (ending, after) = result at ran
  cases ran with
  | unloaded | rejected =>
    cases reached
    exact Std.Refl.refl _
  | cleaned _ valid => exact cleanup_keeps (fun remote => keeps _ remote valid) reached.symm
  | transferred _ valid =>
    exact transfer_keeps (fun remote => keeps _ remote valid) (Option.some.inj reached).symm

/-! ## Runs that go on -/

/-- A cleanup that has not ended when its pages are used up, and the state it has come to. -/
inductive Underway (context : Context σ) (invocation : Invocation) (world : World σ) (final : σ) :
    Prop where
  | visiting {settings : Settings} {path : RemotePath} {store : Store σ} {connected : σ}
      {visits : List Deletion.Visit}
      (loaded : Settings.load (Settings.location? context.environment) world.files = .ok settings)
      (valid : (invocation.access.withDefaults settings.defaults).validate
        (invocation.places.getLastD "") = .ok ())
      (found : StoragePath.ofText (invocation.places.getLastD "") = .remote path)
      (answered : (context.connector (invocation.access.withDefaults settings.defaults)).connect
        world.service = (.ok store, connected))
      (counted : visits.length = context.pages)
      (tour : Deletion.Toured store path none connected visits final)

/-- A run does not end within its pages exactly if it is a cleanup that is underway then. -/
theorem run_eq_none_iff : run context tool invocation world = none ↔
    tool = .cleanup ∧ ∃ final, Underway context invocation world final := by
  constructor
  · intro endless
    have ran := ran_run context tool invocation world
    rw [endless] at ran
    generalize reached : none = result at ran
    cases ran with
    | unloaded | rejected | transferred => cases reached
    | cleaned loaded valid =>
      have endless := Option.map_eq_none_iff.mp reached.symm
      match found : StoragePath.ofText (invocation.places.getLastD "") with
      | .disk text =>
        rw [deleteRecursive, found] at endless
        cases endless
      | .remote path =>
        obtain ⟨store, connected, visits, final, answered, counted, tour⟩ :=
          (Deletion.deleteRecursive_eq_none_iff found).mp endless
        exact ⟨rfl, final, .visiting loaded valid found answered counted tour⟩
  · rintro ⟨rfl, final, underway⟩
    cases underway with
    | visiting loaded valid found answered counted tour =>
      rw [run, loaded]
      dsimp only
      rw [valid]
      exact Option.map_eq_none_iff.mpr
        ((Deletion.deleteRecursive_eq_none_iff found).mpr ⟨_, _, _, _, answered, counted, tour⟩)

theorem Underway.keeps {final : σ} (underway : Underway context invocation world final)
    (keeps : ∀ defaults, StoragePath.namesRemote (invocation.places.getLastD "") →
      (invocation.access.withDefaults defaults).validate (invocation.places.getLastD "") = .ok () →
      (context.connector (invocation.access.withDefaults defaults)).Keeps relation) :
    relation world.service final := by
  obtain ⟨-, valid, found, answered, -, tour⟩ := underway
  have keeps := keeps _ (by rw [← StoragePath.isRemote_ofText, found]; rfl) valid
  exact IsTrans.trans _ _ _ (keeps.connect.of_eq answered) (tour.keeps (keeps.serves answered))

end Haulage.Command
