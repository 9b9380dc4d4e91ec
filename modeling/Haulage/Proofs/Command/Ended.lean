import Haulage.Proofs.Command.Run

/-! How a run ends: with the fault of the first of its stages that fails, or with the outcome of its
operation, and with what is written of the one or the other. -/
namespace Haulage.Command

/-- What the operation of a run brings about. -/
inductive Outcome where
  | deletion (outcome : DeleteOutcome)
  | transfer (outcome : TransferOutcome)

variable {σ : Type}

/-- A run with the settings it has loaded and the options that they complete, which are valid. -/
structure Admitted (context : Context σ) (invocation : Invocation) (world : World σ)
    (settings : Settings) : Prop where
  loaded : Settings.load (Settings.location? context.environment) world.files = .ok settings
  valid : (invocation.access.withDefaults settings.defaults).validate
    (invocation.places.getLastD "") = .ok ()

/-- What a run gives, with its ending and the world after it. -/
inductive Ended (context : Context σ) (invocation : Invocation) (world : World σ) :
    Tool → Except Fault Outcome → Ending → World σ → Prop where
  | unloaded {tool : Tool} {fault : Fault}
      (failed : Settings.load (Settings.location? context.environment) world.files = .error fault) :
      Ended context invocation world tool (.error fault)
        ⟨.failure, settingsFailure invocation.report context.environment.terminal fault⟩ world
  | rejected {tool : Tool} {settings : Settings} {fault : Fault}
      (loaded : Settings.load (Settings.location? context.environment) world.files = .ok settings)
      (invalid : (invocation.access.withDefaults settings.defaults).validate
        (invocation.places.getLastD "") = .error fault) :
      Ended context invocation world tool (.error fault) ⟨.failure, .toErr (tool.rejection fault)⟩
        world
  | undeleted {settings : Settings} {fault : Fault} {after : World σ}
      (admitted : Admitted context invocation world settings)
      (failed : deleteRecursive (context.connector (invocation.access.withDefaults settings.defaults))
        context.pages (invocation.places.getLastD "") world = some (.error fault, after)) :
      Ended context invocation world .cleanup (.error fault)
        ⟨.failure, (context.style invocation settings).deletionFailure
          (invocation.places.getLastD "") fault⟩ after
  | deleted {settings : Settings} {outcome : DeleteOutcome} {after : World σ}
      (admitted : Admitted context invocation world settings)
      (succeeded : deleteRecursive
        (context.connector (invocation.access.withDefaults settings.defaults)) context.pages
        (invocation.places.getLastD "") world = some (.ok outcome, after)) :
      Ended context invocation world .cleanup (.ok (.deletion outcome))
        ⟨.success, (context.style invocation settings).deletion outcome⟩ after
  | untransferred {settings : Settings} {fault : Fault} {after : World σ}
      (admitted : Admitted context invocation world settings)
      (failed : transferFile (context.connector (invocation.access.withDefaults settings.defaults))
        (invocation.places.headD "") (invocation.places.getLastD "") world = (.error fault, after)) :
      Ended context invocation world .transfer (.error fault)
        ⟨.failure, (context.style invocation settings).transferFailure
          (invocation.places.headD "") fault⟩ after
  | transferred {settings : Settings} {outcome : TransferOutcome} {after : World σ}
      (admitted : Admitted context invocation world settings)
      (succeeded : transferFile
        (context.connector (invocation.access.withDefaults settings.defaults))
        (invocation.places.headD "") (invocation.places.getLastD "") world = (.ok outcome, after)) :
      Ended context invocation world .transfer (.ok (.transfer outcome))
        ⟨.success, (context.style invocation settings).transfer outcome⟩ after

variable {context : Context σ} {tool : Tool} {invocation : Invocation} {world after : World σ}
  {ending : Ending}

/-- A run that ends does so in one of these ways. -/
theorem exists_ended (finished : run context tool invocation world = some (ending, after)) :
    ∃ result, Ended context invocation world tool result ending after := by
  have ran := ran_run context tool invocation world
  rw [finished] at ran
  generalize reached : some (ending, after) = given at ran
  cases ran with
  | unloaded failed =>
    cases reached
    exact ⟨_, .unloaded failed⟩
  | rejected loaded invalid =>
    cases reached
    exact ⟨_, .rejected loaded invalid⟩
  | cleaned loaded valid =>
    obtain ⟨⟨result, deleted⟩, ended, reported⟩ := Option.map_eq_some_iff.mp reached.symm
    cases result with
    | error fault =>
      cases reported
      exact ⟨_, .undeleted ⟨loaded, valid⟩ ended⟩
    | ok outcome =>
      cases reported
      exact ⟨_, .deleted ⟨loaded, valid⟩ ended⟩
  | @transferred settings loaded valid =>
    have reported := Option.some.inj reached
    rcases ended : transferFile
      (context.connector (invocation.access.withDefaults settings.defaults))
      (invocation.places.headD "") (invocation.places.getLastD "") world with ⟨fault | outcome, done⟩
    all_goals
      have made := ended
      unfold Context.connector at made
      simp only [transfer, made] at reported
      cases reported
    · exact ⟨_, .untransferred ⟨loaded, valid⟩ ended⟩
    · exact ⟨_, .transferred ⟨loaded, valid⟩ ended⟩

end Haulage.Command
