import Haulage.Proofs.Command.Ended
import Haulage.Proofs.Command.Endpoint
import Haulage.Proofs.S3.Failing

/-! What a cleanup that succeeds says of itself. The number that it reports is the number of keys that
the replies to its deletions name; how many keys were listed it does not say. -/
namespace Haulage

namespace S3

open Deletion

variable {σ : Type} {service : Service σ} {environment : Environment} {method : AccessMethod}
  {endpoint : Endpoint} {path : RemotePath} {start final : σ × List Exchange} {events : List Event}
  {exchange : Exchange} {exchanges : List Exchange} {gone : Nat}

/-- An exchange that is not about any key. -/
structure Exchange.Keyless (exchange : Exchange) : Prop where
  listed : exchange.listedKeys = []
  named : exchange.namedKeys = []
  echoed : exchange.echoedKeys = []

theorem Exchange.keyless_of_forTokens (tokens : exchange.sent.request.forTokens = true) :
    exchange.Keyless := by
  obtain ⟨⟨base, request, region, accessKeyId, token⟩, reply⟩ := exchange
  cases request with
  | callerIdentity | assumeRole _ _ => exact ⟨rfl, rfl, rfl⟩
  | list _ _ _ _ | delete _ _ | put _ _ _ _ => cases tokens

theorem Resolution.forTokens {result : Except Fault Client}
    (resolution : Resolution service.toLibrary environment endpoint method exchanges result) :
    ∀ exchange ∈ exchanges, exchange.sent.request.forTokens = true := by
  have asked {role : String} {result : Except Fault Credentials}
      (assumption : Assumption role exchanges result) :
      ∀ exchange ∈ exchanges, exchange.sent.request.forTokens = true := by
    cases assumption with
    | unasked => exact List.forall_mem_nil _
    | unidentified asked _ => exact List.forall_mem_singleton.mpr (by rw [asked]; rfl)
    | unassumed asked _ required _ | assumed asked _ required _ =>
      intro exchange member
      rcases List.mem_pair.mp member with rfl | rfl
      · rw [asked]
        rfl
      · rw [required]
        rfl
  cases resolution with
  | missing | keyed | ambient => exact List.forall_mem_nil _
  | unassumed assumption | assumed assumption => exact asked assumption

/-- What is heard during a deletion that succeeds: questions to the token service, then rounds. -/
theorem exists_rounds_of_ok
    (run : RemoteRun (connector service.logged environment method endpoint) path start events
      (.ok gone) final) :
    ∃ questions exchanges, final.2 = start.2 ++ (questions ++ exchanges) ∧
      (∀ exchange ∈ questions, exchange.Keyless) ∧ Rounds path.bucket exchanges (.ok gone) := by
  obtain ⟨state, log⟩ := start
  cases run with
  | served answered run =>
    obtain ⟨client, resolved, rfl⟩ := exists_client answered
    obtain ⟨questions, grown, resolution, -⟩ := resolution_of_resolve resolved
    obtain ⟨exchanges, regrown, verdict⟩ := exists_verdict run
    cases verdict with
    | heard _ rounds =>
      rw [grown, List.append_assoc] at regrown
      exact ⟨questions, exchanges, regrown,
        fun exchange member => Exchange.keyless_of_forTokens (resolution.forTokens exchange member),
        rounds⟩

/-- The count of a deletion and the keys that it names, by what is heard. -/
theorem counted_of_ok
    (run : RemoteRun (connector service.logged environment method endpoint) path start events
      (.ok gone) final) :
    ∃ exchanges, final.2 = start.2 ++ exchanges ∧
      gone = (exchanges.flatMap Exchange.echoedKeys).length ∧
      exchanges.flatMap Exchange.namedKeys = exchanges.flatMap Exchange.listedKeys := by
  obtain ⟨questions, exchanges, grown, keyless, rounds⟩ := exists_rounds_of_ok run
  have nothing (keys : Exchange → List String) (none : ∀ exchange ∈ questions, keys exchange = []) :
      (questions ++ exchanges).flatMap keys = exchanges.flatMap keys := by
    rw [List.flatMap_append, List.flatMap_eq_nil_iff.mpr none, List.nil_append]
  refine ⟨_, grown, ?_, ?_⟩
  · rw [nothing _ fun exchange member => (keyless exchange member).echoed]
    cases rounds.outcome with
    | granted _ => rfl
  · rw [nothing _ fun exchange member => (keyless exchange member).named,
      nothing _ fun exchange member => (keyless exchange member).listed]
    exact rounds.named_eq_listed

end S3

theorem Console.append_err (earlier later : Console) :
    (earlier ++ later).err = earlier.err ++ later.err := rfl

namespace Style

variable {style : Style} {message target : String} {deleted : Nat}

theorem success_err : (style.success message).err = "" := by
  unfold success
  split <;> rfl

theorem line_err : (style.line message).err = "" := by
  unfold line
  split <;> rfl

/-- A deletion below a remote path warns only if it counts nothing. -/
theorem deletion_err (counted : deleted ≠ 0) :
    (style.deletion (.remote target deleted)).err = "" := by
  obtain ⟨fewer, rfl⟩ := Nat.exists_eq_succ_of_ne_zero counted
  have quiet : (if style.json then Console.document (DeleteOutcome.remote target (fewer + 1)).document
      else style.deletionLine (.remote target (fewer + 1))).err = "" := by
    split
    · rfl
    · exact line_err
  rw [deletion, Console.append_err, quiet, success_err, String.append_empty]

end Style

namespace Command

open S3 (Exchange)

variable {σ : Type} {environment : Environment} {service : S3.Service σ} {pages : Nat}
  {invocation : Invocation} {path : RemotePath}

/-- A cleanup that succeeds reports the outcome of its deletion. -/
theorem exists_outcome {context : Context σ} {world after : World σ} {ending : Ending}
    (ended : run context .cleanup invocation world = some (ending, after))
    (succeeded : ending.code.number = 0) :
    ∃ settings outcome,
      Settings.load (Settings.location? context.environment) world.files = .ok settings ∧
      ending.console = (context.style invocation settings).deletion outcome ∧
      deleteRecursive (context.connector (invocation.access.withDefaults settings.defaults))
        context.pages (invocation.places.getLastD "") world = some (.ok outcome, after) := by
  obtain ⟨result, ended⟩ := exists_ended ended
  cases ended with
  | unloaded | rejected | undeleted => cases succeeded
  | deleted admitted finished => exact ⟨_, _, admitted.loaded, rfl, finished⟩

/-- Whatever the replies are, a cleanup of a remote destination that succeeds reports the number of keys
that the replies to its deletions name, and it has named exactly the keys that were listed. So if each
of these replies names as many keys as were asked for, the number is that of the keys listed, and there
is no warning unless there were none. -/
theorem cleanup_counts_replies (environment : Environment) (service : S3.Service σ) (pages : Nat)
    (invocation : Invocation) (files : FileTree) (state : σ)
    (found : StoragePath.ofText (invocation.places.getLastD "") = .remote path) :
    ∀ ending kept final log,
      run ⟨environment, service.logged, pages⟩ .cleanup invocation ⟨files, state, []⟩ =
        some (ending, ⟨kept, final, log⟩) → ending.code.number = 0 →
      let deleted := (log.flatMap Exchange.echoedKeys).length
      (∃ settings, Settings.load (Settings.location? environment) files = .ok settings ∧
        ending.console = (invocation.report.style settings.defaults environment.terminal).deletion
          (.remote path.fullPath deleted)) ∧
      log.flatMap Exchange.namedKeys = log.flatMap Exchange.listedKeys ∧
      ((∀ exchange ∈ log, exchange.echoedKeys.length = exchange.namedKeys.length) →
        deleted = (log.flatMap Exchange.listedKeys).length ∧
        (ending.console.err ≠ "" → log.flatMap Exchange.listedKeys = [])) := by
  intro ending kept final log ended succeeded deleted
  obtain ⟨settings, outcome, loaded, reported, finished⟩ := exists_outcome ended succeeded
  obtain ⟨events, count, run, -, same, -⟩ := Deletion.exists_remoteRun found finished
  cases count with
  | error _ => cases same
  | ok gone =>
    cases same
    obtain ⟨exchanges, grown, counted, named⟩ := S3.counted_of_ok run
    rw [List.nil_append] at grown
    dsimp only at grown
    subst grown
    rw [counted] at reported
    refine ⟨⟨settings, loaded, reported⟩, named, fun complete => ?_⟩
    have listed : deleted = (log.flatMap Exchange.listedKeys).length := by
      rw [← named, List.length_flatMap, ← List.map_congr_left complete, ← List.length_flatMap]
    refine ⟨listed, fun warned => ?_⟩
    by_contra some
    have counted : deleted ≠ 0 := by
      rw [listed]
      exact mt List.eq_nil_of_length_eq_zero some
    rw [reported] at warned
    exact warned (Style.deletion_err counted)

/-- A place to clean up behind an endpoint of one's own. -/
def tidied : Invocation := { keyed with places := ["s3://b/p"] }

/-- A page with an entry that has no key. Its key is deleted as asked. -/
def sparse : S3.Script where
  lists := [.listed [⟨none, none, none, none⟩, ⟨some "p/a", none, none, none⟩] none none]
  deletes := [.deleted [some "p/a", none] []]

/-- The one key that is listed is counted. -/
theorem sparse_counted : ∃ ending kept final log settings,
    run ⟨ambient, S3.Script.service.logged, 3⟩ .cleanup tidied
        ⟨FileTree.startingAt [], sparse, []⟩ = some (ending, ⟨kept, final, log⟩) ∧
      log.flatMap Exchange.listedKeys = ["p/a"] ∧
      ending.console = (tidied.report.style settings).deletion (.remote "s3://b/p" 1) := by
  have named : StoragePath.ofText (tidied.places.getLastD "") = .remote ⟨"b", "p"⟩ := by decide
  have heard : (run ⟨ambient, S3.Script.service.logged, 3⟩ .cleanup tidied
      ⟨FileTree.startingAt [], sparse, []⟩).map (fun (ending, after) =>
        (ending.code.number, after.service.2.flatMap Exchange.listedKeys,
          after.service.2.all fun exchange =>
            exchange.echoedKeys.length = exchange.namedKeys.length)) =
      some (0, ["p/a"], true) := by decide +kernel
  obtain ⟨⟨ending, kept, final, log⟩, ended, told⟩ := Option.map_eq_some_iff.mp heard
  obtain ⟨succeeded, told⟩ := Prod.mk.inj told
  obtain ⟨listed, complete⟩ := Prod.mk.inj told
  obtain ⟨⟨settings, _, reported⟩, _, counts⟩ := cleanup_counts_replies ambient S3.Script.service 3
    tidied _ sparse named ending kept final log ended succeeded
  obtain ⟨counted, _⟩ := counts (by simpa using complete)
  rw [counted, listed] at reported
  exact ⟨ending, kept, final, log, settings.defaults, ended, listed, reported⟩

/-- The reply to the deletion of the one key there is names nothing. -/
def taciturn : S3.Script where
  lists := [.listed [⟨some "p/a", none, none, none⟩] none none]
  deletes := [.deleted [] []]

/-- A key was listed, and still a run that succeeds reports none and warns. -/
theorem taciturn_uncounted : ∃ ending after,
    run ⟨ambient, S3.Script.service.logged, 3⟩ .cleanup tidied
        ⟨FileTree.startingAt [], taciturn, []⟩ = some (ending, after) ∧
      ending.code.number = 0 ∧ after.service.2.flatMap Exchange.listedKeys = ["p/a"] ∧
      ending.console = Style.deletion .plain (.remote "s3://b/p" 0) ∧
      ending.console.err = "⚠ No objects found under s3://b/p\n" := by
  have heard : (run ⟨ambient, S3.Script.service.logged, 3⟩ .cleanup tidied
      ⟨FileTree.startingAt [], taciturn, []⟩).map (fun (ending, after) =>
        (ending, after.service.2.flatMap Exchange.listedKeys)) =
      some (⟨.success, Style.deletion .plain (.remote "s3://b/p" 0)⟩, ["p/a"]) := by decide +kernel
  obtain ⟨⟨ending, after⟩, ended, told⟩ := Option.map_eq_some_iff.mp heard
  obtain ⟨rfl, listed⟩ := Prod.mk.inj told
  exact ⟨_, after, ended, rfl, listed, rfl, by decide +kernel⟩

end Command

end Haulage
