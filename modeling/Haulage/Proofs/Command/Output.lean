import Haulage.Proofs.Command.Counting
import Haulage.Proofs.Json.Reading

/-! What scripts can rely on. The exit code tells whether a run did what it was asked to; a run that
failed says so on the second stream alone, and one that did not writes a document, lines, or nothing.
The document is read back as the outcome that it reports. -/
namespace Haulage

/-! ## Documents of outcomes -/

namespace Json

/-- The value of a member, if there is just one of that name. -/
def member? (name : String) : Json → Option Json
  | .object members =>
    match members.filter (·.1 == name) with
    | [(_, value)] => some value
    | _ => none
  | _ => none

def names : Json → List String
  | .object members => members.map (·.1)
  | _ => []

def text? (name : String) (document : Json) : Option String :=
  match document.member? name with
  | some (.string text) => some text
  | _ => none

def count? (name : String) (document : Json) : Option Nat :=
  match document.member? name with
  | some (.integer number) => number.toNat?
  | _ => none

end Json

/-- The outcome that a document of a deletion tells of. -/
def DeleteOutcome.ofDocument? (document : Json) : Option DeleteOutcome := do
  if document.text? "status" ≠ some "success" then none
  else if document.text? "kind" = some "remote" then
    some (.remote (← document.text? "target") (← document.count? "deleted"))
  else if document.text? "kind" = some "local_removed" then
    some (.diskRemoved (← document.text? "path"))
  else if document.text? "kind" = some "local_missing" then
    some (.diskMissing (← document.text? "path"))
  else none

/-- The outcome that a document of a transfer tells of. -/
def TransferOutcome.ofDocument? (document : Json) : Option TransferOutcome := do
  if document.text? "status" ≠ some "success" then none
  else
    some ⟨← document.text? "source", ← document.text? "destination",
      ← document.count? "size_bytes"⟩

theorem DeleteOutcome.ofDocument?_document (outcome : DeleteOutcome) :
    ofDocument? outcome.document = some outcome := by
  cases outcome <;> rfl

theorem TransferOutcome.ofDocument?_document (outcome : TransferOutcome) :
    ofDocument? outcome.document = some outcome := rfl

theorem DeleteOutcome.within_document (outcome : DeleteOutcome) :
    outcome.document.Within Json.nestingLimit := by
  cases outcome <;> exact Json.within_object (by simp)

theorem TransferOutcome.within_document (outcome : TransferOutcome) :
    outcome.document.Within Json.nestingLimit :=
  Json.within_object (by simp)

/-! ## Streams -/

theorem Console.append_empty (console : Console) : console ++ Console.empty = console := by
  show Console.mk (console.out ++ "") (console.err ++ "") = console
  rw [String.append_empty, String.append_empty]

namespace Style

variable {style : Style} {message : String}

theorem error_out : (style.error message).out = "" := by
  unfold error
  split <;> rfl

theorem error_err_ne : (style.error message).err ≠ "" := by
  have ended (text : String) : text ++ "\n" ≠ "" := by
    intro empty
    have length := congrArg String.length empty
    rw [String.length_append] at length
    exact absurd length (by simp)
  unfold error
  split
  · exact ended _
  · exact ended _

/-- Two errors in a row go to the second stream. -/
theorem errors_streams (first second : String) :
    (style.error first ++ style.error second).out = "" ∧
      (style.error first ++ style.error second).err ≠ "" := by
  constructor
  · show (style.error first).out ++ (style.error second).out = ""
    rw [error_out, error_out, String.append_empty]
  · rw [Console.append_err, ne_eq, String.append_eq_empty_iff]
    exact fun empty => error_err_ne empty.1

theorem silenced (silences : style.silencesLines = true) :
    style.success message = .empty ∧ style.warning message = .empty ∧
      style.line message = .empty := by
  simp [success, warning, line, silences]

theorem silencesLines_of_json (json : style.json = true) : style.silencesLines = true := by
  simp [silencesLines, json]

theorem silencesLines_of_quiet (quiet : style.quiet = true) : style.silencesLines = true := by
  simp [silencesLines, quiet]

theorem deletion_of_json (json : style.json = true) (outcome : DeleteOutcome) :
    style.deletion outcome = .document outcome.document := by
  rw [deletion, if_pos json, (silenced (silencesLines_of_json json)).1, Console.append_empty]

theorem transfer_of_json (json : style.json = true) (outcome : TransferOutcome) :
    style.transfer outcome = .document outcome.document := by
  rw [transfer, if_pos json, (silenced (silencesLines_of_json json)).1, Console.append_empty]

theorem deletion_of_quiet (lines : style.json = false) (quiet : style.quiet = true)
    (outcome : DeleteOutcome) : style.deletion outcome = .empty := by
  have silences := silencesLines_of_quiet quiet
  have line : style.deletionLine outcome = .empty := by
    unfold deletionLine
    split
    · exact (silenced silences).2.1
    all_goals exact (silenced silences).2.2
  rw [deletion, if_neg (by simp [lines]), line, (silenced silences).1, Console.append_empty]

theorem transfer_of_quiet (lines : style.json = false) (quiet : style.quiet = true)
    (outcome : TransferOutcome) : style.transfer outcome = .empty := by
  have silences := silencesLines_of_quiet quiet
  have line : style.transferLine outcome = .empty := (silenced silences).2.2
  rw [transfer, if_neg (by simp [lines]), line, (silenced silences).1, Console.append_empty]

end Style

namespace Command

variable {σ : Type} {context : Context σ} {tool : Tool} {invocation : Invocation}
  {world after : World σ} {ending : Ending} {settings : Settings} {outcome : Outcome}

/-- The operation of a run succeeds with an outcome. -/
def Succeeds (context : Context σ) (invocation : Invocation) (world : World σ)
    (settings : Settings) : Tool → Outcome → World σ → Prop
  | .cleanup, .deletion outcome, after =>
    deleteRecursive (context.connector (invocation.access.withDefaults settings.defaults))
      context.pages (invocation.places.getLastD "") world = some (.ok outcome, after)
  | .transfer, .transfer outcome, after =>
    transferFile (context.connector (invocation.access.withDefaults settings.defaults))
      (invocation.places.headD "") (invocation.places.getLastD "") world = (.ok outcome, after)
  | _, _, _ => False

/-- The document gives back the outcome, and has no members but those of the outcome and its status;
only the size of a transfer is told once more, in words. -/
def Outcome.ToldBy (document : Json) : Outcome → Prop
  | .deletion outcome => DeleteOutcome.ofDocument? document = some outcome ∧
    document.names = "status" :: "kind" ::
      match outcome with
      | .remote _ _ => ["target", "deleted"]
      | .diskRemoved _ | .diskMissing _ => ["path"]
  | .transfer outcome => TransferOutcome.ofDocument? document = some outcome ∧
    document.names = ["status", "source", "destination", "size_bytes", "size_human"] ∧
    document.text? "size_human" = some (ByteSize.human outcome.size)

/-- What a run writes when it succeeds. -/
structure Reports (invocation : Invocation) (settings : Settings) (outcome : Outcome)
    (console : Console) : Prop where
  document : invocation.report.json = true → console.err = "" ∧ ∃ document,
    Json.ofText? console.out = some document ∧ document.text? "status" = some "success" ∧
      outcome.ToldBy document
  quiet : invocation.report.json = false →
    invocation.report.quiet = true ∨ settings.defaults.quiet = true → console = .empty

theorem reports_deletion (outcome : DeleteOutcome) :
    Reports invocation settings (.deletion outcome)
      ((context.style invocation settings).deletion outcome) where
  document json := by
    rw [Style.deletion_of_json json]
    refine ⟨rfl, outcome.document, Json.ofText?_pretty outcome.within_document, ?_,
      outcome.ofDocument?_document, ?_⟩
    · cases outcome <;> rfl
    · cases outcome <;> rfl
  quiet lines quiet := Style.deletion_of_quiet lines (Bool.or_eq_true_iff.mpr quiet) outcome

theorem reports_transfer (outcome : TransferOutcome) :
    Reports invocation settings (.transfer outcome)
      ((context.style invocation settings).transfer outcome) where
  document json := by
    rw [Style.transfer_of_json json]
    exact ⟨rfl, outcome.document, Json.ofText?_pretty outcome.within_document, rfl,
      outcome.ofDocument?_document, rfl, rfl⟩
  quiet lines quiet := Style.transfer_of_quiet lines (Bool.or_eq_true_iff.mpr quiet) outcome

theorem rejection_ne (tool : Tool) (fault : Fault) : tool.rejection fault ≠ "" := by
  intro empty
  have begins : (tool.rejection fault).toList.head? = some 'e' := by
    simp [Tool.rejection]
  rw [empty] at begins
  cases begins

/-- A run that fails writes to the second stream alone. -/
theorem Ended.error_streams {fault : Fault}
    (ended : Ended context invocation world tool (.error fault) ending after) :
    ending.code = .failure ∧ ending.console.out = "" ∧ ending.console.err ≠ "" := by
  cases ended with
  | unloaded => exact ⟨rfl, Style.error_out, Style.error_err_ne⟩
  | rejected => exact ⟨rfl, rfl, rejection_ne tool fault⟩
  | undeleted | untransferred => exact ⟨rfl, Style.errors_streams _ _⟩

theorem Ended.ok_reports
    (ended : Ended context invocation world tool (.ok outcome) ending after) :
    ending.code = .success ∧ ∃ settings, Admitted context invocation world settings ∧
      Succeeds context invocation world settings tool outcome after ∧
      Reports invocation settings outcome ending.console := by
  cases ended with
  | deleted admitted succeeded =>
    exact ⟨rfl, _, admitted, succeeded, reports_deletion _⟩
  | transferred admitted succeeded =>
    exact ⟨rfl, _, admitted, succeeded, reports_transfer _⟩

theorem Admitted.settings_eq {other : Settings} (admitted : Admitted context invocation world settings)
    (loaded : Settings.load (Settings.location? context.environment) world.files = .ok other) :
    other = settings :=
  Except.ok.inj (loaded.symm.trans admitted.loaded)

/-- A run whose operation succeeds does not fail. -/
theorem Ended.not_error {fault : Fault} {done : World σ}
    (ended : Ended context invocation world tool (.error fault) ending after)
    (admitted : Admitted context invocation world settings) :
    ¬ Succeeds context invocation world settings tool outcome done := by
  intro succeeds
  cases ended with
  | unloaded failed => cases failed.symm.trans admitted.loaded
  | rejected loaded invalid =>
    rw [admitted.settings_eq loaded] at invalid
    cases invalid.symm.trans admitted.valid
  | undeleted also failed =>
    rw [admitted.settings_eq also.loaded] at failed
    cases outcome with
    | deletion outcome => cases failed.symm.trans succeeds
    | transfer outcome => exact succeeds
  | untransferred also failed =>
    rw [admitted.settings_eq also.loaded] at failed
    cases outcome with
    | deletion outcome => exact succeeds
    | transfer outcome => cases failed.symm.trans succeeds

/-- Every run ends, save for a cleanup that is given page after page; and the exit code is 0 exactly if
the settings load, the options are valid and the operation succeeds. A run with exit code 1 writes to
the second stream alone. One with exit code 0 writes nothing to that stream if it is to write a
document, which is one whole document that gives back the outcome, whether it is to be quiet or not;
and if it is to write lines, but to be quiet, it writes nothing at all. -/
theorem run_output (context : Context σ) (tool : Tool) (invocation : Invocation) (world : World σ) :
    (run context tool invocation world = none →
      tool = .cleanup ∧ ∃ final, Underway context invocation world final) ∧
    ∀ ending after, run context tool invocation world = some (ending, after) →
      (ending.code.number = 0 ↔ ∃ settings outcome done,
        Admitted context invocation world settings ∧
        Succeeds context invocation world settings tool outcome done) ∧
      (ending.code.number ≠ 0 → ending.code.number = 1 ∧
        ending.console.out = "" ∧ ending.console.err ≠ "") ∧
      (ending.code.number = 0 → ∃ settings outcome,
        Admitted context invocation world settings ∧
        Succeeds context invocation world settings tool outcome after ∧
        (invocation.report.json = true → ending.console.err = "" ∧ ∃ document,
          Json.ofText? ending.console.out = some document ∧
          document.text? "status" = some "success" ∧ outcome.ToldBy document) ∧
        (invocation.report.json = false →
          invocation.report.quiet = true ∨ settings.defaults.quiet = true →
          ending.console = .empty)) := by
  refine ⟨run_eq_none_iff.mp, fun ending after finished => ?_⟩
  obtain ⟨result, ended⟩ := exists_ended finished
  cases result with
  | error fault =>
    obtain ⟨failure, silent, told⟩ := ended.error_streams
    rw [failure]
    refine ⟨iff_of_false nofun ?_, fun _ => ⟨rfl, silent, told⟩, nofun⟩
    rintro ⟨settings, outcome, done, admitted, succeeds⟩
    exact ended.not_error admitted succeeds
  | ok outcome =>
    obtain ⟨success, settings, admitted, succeeds, reports⟩ := ended.ok_reports
    rw [success]
    exact ⟨iff_of_true rfl ⟨settings, outcome, after, admitted, succeeds⟩,
      fun failed => absurd rfl failed,
      fun _ => ⟨settings, outcome, admitted, succeeds, reports.document, reports.quiet⟩⟩

/-- A transfer that is to report as a document, and quietly. -/
def documented : Invocation :=
  { keyed with report := { json := true, noColor := false, quiet := true, debug := false } }

/-- The document gives the outcome back, and without its file the same run writes no document. -/
theorem documented_output :
    (∃ ending after document,
      run ⟨ambient, endless, 3⟩ .transfer documented ⟨Transfer.loneFile.files, ()⟩ =
        some (ending, after) ∧ ending.code.number = 0 ∧ ending.console.err = "" ∧
      Json.ofText? ending.console.out = some document ∧
      TransferOutcome.ofDocument? document = some ⟨"f", "s3://b/k", 1⟩) ∧
    ∃ ending after, run ⟨ambient, endless, 3⟩ .transfer documented ⟨FileTree.startingAt [], ()⟩ =
        some (ending, after) ∧ ending.code.number = 1 ∧ ending.console.out = "" ∧
      ending.console.err ≠ "" := by
  constructor
  · have heard : (run ⟨ambient, endless, 3⟩ .transfer documented
        ⟨Transfer.loneFile.files, ()⟩).map (fun (ending, _) => (ending.code.number,
          (Json.ofText? ending.console.out).bind TransferOutcome.ofDocument?)) =
        some (0, some ⟨"f", "s3://b/k", 1⟩) := by decide +kernel
    obtain ⟨⟨ending, after⟩, ended, told⟩ := Option.map_eq_some_iff.mp heard
    obtain ⟨succeeded, told⟩ := Prod.mk.inj told
    obtain ⟨-, -, reported⟩ := (run_output _ _ _ _).2 ending after ended
    obtain ⟨settings, outcome, -, -, reports, -⟩ := reported succeeded
    obtain ⟨silent, document, read, -⟩ := reports rfl
    rw [read, Option.bind_some] at told
    exact ⟨ending, after, document, ended, succeeded, silent, read, told⟩
  · have finished : (run ⟨ambient, endless, 3⟩ .transfer documented
        ⟨FileTree.startingAt [], ()⟩).map (·.1.code.number) = some 1 := by decide +kernel
    obtain ⟨⟨ending, after⟩, ended, failed⟩ := Option.map_eq_some_iff.mp finished
    obtain ⟨-, streams, -⟩ := (run_output _ _ _ _).2 ending after ended
    obtain ⟨code, silent, told⟩ := streams (by simp [failed])
    exact ⟨ending, after, ended, code, silent, told⟩

/-- A transfer on disk that is to report as a document. -/
def duplicating : Invocation where
  access :=
    { useRole := false
      roleName := none
      accessKeyId := none
      secretAccessKey := none
      endpointUrl := none
      region := none }
  report := { json := true, noColor := false, quiet := false, debug := false }
  places := ["f", "out"]

/-- The document has more in it than the outcome and its status. -/
theorem size_told_twice : ∃ ending after document,
    run ⟨ambient, endless, 3⟩ .transfer duplicating ⟨Transfer.loneFile.files, ()⟩ =
        some (ending, after) ∧ ending.code.number = 0 ∧
      Json.ofText? ending.console.out = some document ∧
      ¬ document.names ⊆ ["status", "source", "destination", "size_bytes"] ∧
      document.text? "size_human" = some "1 B" := by
  have heard : (run ⟨ambient, endless, 3⟩ .transfer duplicating ⟨Transfer.loneFile.files, ()⟩).map
      (fun (ending, _) => (ending.code.number, (Json.ofText? ending.console.out).map fun document =>
        (document.names, document.text? "size_human"))) =
      some (0, some (["status", "source", "destination", "size_bytes", "size_human"],
        some "1 B")) := by decide +kernel
  obtain ⟨⟨ending, after⟩, ended, told⟩ := Option.map_eq_some_iff.mp heard
  obtain ⟨succeeded, told⟩ := Prod.mk.inj told
  obtain ⟨document, read, told⟩ := Option.map_eq_some_iff.mp told
  obtain ⟨names, size⟩ := Prod.mk.inj told
  refine ⟨ending, after, document, ended, succeeded, read, ?_, size⟩
  rw [names]
  decide

end Command

end Haulage
