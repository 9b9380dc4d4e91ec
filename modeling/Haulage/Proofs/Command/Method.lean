import Haulage.Proofs.Command.Checks
import Haulage.Proofs.Command.Faults

/-! The options that are valid and the way of access that is taken with them agree: a run that reaches
a remote place has a way to reach it, so none fails for want of one. -/
namespace Haulage

namespace Settings

variable {fault : Fault}

theorem fault_of_checkVersion {settings : Settings} (failed : checkVersion settings = .error fault) :
    fault ≠ .configuration .noMethod := by
  unfold checkVersion at failed
  split at failed
  · cases failed
    exact nofun
  · cases failed

theorem fault_of_ofBytes {content : List UInt8} (failed : ofBytes content = .error fault) :
    fault ≠ .configuration .noMethod := by
  unfold ofBytes at failed
  split at failed
  · cases failed
    exact nofun
  · split at failed
    · cases failed
      exact nofun
    · exact fault_of_checkVersion failed

/-- Settings that cannot be loaded say nothing of access. -/
theorem fault_of_load {path? : Option String} {files : FileTree}
    (failed : load path? files = .error fault) : fault ≠ .configuration .noMethod := by
  unfold load at failed
  split at failed
  · cases failed
  · split at failed
    · cases failed
    · split at failed
      · cases failed
        exact nofun
      · exact fault_of_ofBytes failed

end Settings

namespace Command

open AccessOptions (present)

variable {σ : Type} {context : Context σ} {tool : Tool} {invocation : Invocation}
  {world after : World σ} {ending : Ending}

theorem Admitted.connector_fails {settings : Settings}
    (admitted : Admitted context invocation world settings)
    (remote : StoragePath.namesRemote (invocation.places.getLastD "")) :
    (context.connector (invocation.access.withDefaults settings.defaults)).Fails
      Fault.Operational :=
  S3.connector_fails (AccessOptions.method_ne_missing remote admitted.valid)

theorem Ended.fault_ne {fault : Fault}
    (ended : Ended context invocation world tool (.error fault) ending after) :
    fault ≠ .configuration .noMethod := by
  have other (operational : fault.Operational) : fault ≠ .configuration .noMethod := by
    rintro rfl
    exact operational
  cases ended with
  | unloaded failed => exact Settings.fault_of_load failed
  | rejected _ invalid =>
    rintro rfl
    obtain ⟨rule, -, reported⟩ := AccessOptions.exists_breaksFirst invalid
    cases rule with
    | endpointAddress =>
      obtain ⟨_, _, -, -, same⟩ := reported
      cases same
    | _ => cases reported
  | undeleted admitted failed =>
    exact other (operational_of_deleteRecursive admitted.connector_fails failed)
  | untransferred admitted failed =>
    exact other (operational_of_transferFile admitted.connector_fails failed)

/-- Options are valid for a remote place if they name a role and nothing else, or a pair of keys and
perhaps an endpoint that is an address; if they are not, the first rule that they break is reported,
and the words of the fourth never are. Valid options select the role as named or the keys as given, so
no run fails because there is no way of access. -/
theorem validate_selects_method :
    (∀ value text, present value = some text ↔ value = some text ∧ text ≠ "") ∧
    (∀ (options : AccessOptions) (destination : String), options.validate destination = .ok () ↔
      StoragePath.namesRemote destination = false ∨
      options.useRole = true ∧ present options.accessKeyId = none ∧
          present options.secretAccessKey = none ∧ present options.endpointUrl = none ∨
        options.useRole = false ∧ (present options.accessKeyId).isSome ∧
          (present options.secretAccessKey).isSome ∧
          ∀ url, present options.endpointUrl = some url → Url.check url = .ok ()) ∧
    (∀ (options : AccessOptions) (destination : String) (fault : Fault),
      options.validate destination = .error fault ↔ StoragePath.namesRemote destination = true ∧
        ∃ rule, options.BreaksFirst rule ∧ options.Reports rule fault) ∧
    (∀ (options : AccessOptions) (destination : String) (fault : Fault),
      options.validate destination = .error fault →
        fault.message ≠ UsageFault.roleNameWithKeyPair.message) ∧
    (∀ (options : AccessOptions) (destination : String),
      StoragePath.namesRemote destination = true → options.validate destination = .ok () →
        options.method ≠ .missing ∧
        ((options.useRole = true ∧ ∃ name, options.method = .role name ∧
            ∀ text, name = some text ↔ options.roleName = some text ∧ text ≠ "") ∨
          options.useRole = false ∧ ∃ key secret, options.method = .keys key secret ∧
            options.accessKeyId = some key ∧ options.secretAccessKey = some secret)) ∧
    ∀ {σ : Type} (context : Context σ) (tool : Tool) (invocation : Invocation)
      (world after : World σ) (ending : Ending),
      run context tool invocation world = some (ending, after) →
        ∃ result, Ended context invocation world tool result ending after ∧
          result ≠ .error (.configuration .noMethod) := by
  refine ⟨fun value text => AccessOptions.present_eq_some_iff, fun options destination => ?_,
    fun options destination fault => ?_,
    fun options destination fault => AccessOptions.message_ne_of_validate,
    fun options destination remote valid => ⟨AccessOptions.method_ne_missing remote valid,
      AccessOptions.method_of_validate remote valid⟩,
    fun context tool invocation world after ending finished => ?_⟩
  · by_cases remote : StoragePath.namesRemote destination = true
    · rw [AccessOptions.validate_eq_ok_iff remote, remote]
      exact (or_iff_right nofun).symm
    · rw [Bool.not_eq_true] at remote
      exact iff_of_true (validate_of_disk remote options) (.inl remote)
  · constructor
    · intro invalid
      have remote := AccessOptions.remote_of_invalid invalid
      exact ⟨remote, (AccessOptions.validate_eq_error_iff_breaksFirst remote).mp invalid⟩
    · rintro ⟨remote, broken⟩
      exact (AccessOptions.validate_eq_error_iff_breaksFirst remote).mpr broken
  · obtain ⟨result, ended⟩ := exists_ended finished
    refine ⟨result, ended, ?_⟩
    rintro rfl
    exact ended.fault_ne rfl

/-- Keys with an endpoint are valid and are what is selected, a role together with keys breaks a rule,
and a run without its file fails for another reason than access. -/
theorem keyed_selected :
    keyed.access.validate "s3://b/k" = .ok () ∧ keyed.access.method = .keys "key" "secret" ∧
    (∃ fault rule, muddled.access.validate "s3://b/k" = .error fault ∧
      muddled.access.BreaksFirst rule ∧ fault.message ≠ UsageFault.roleNameWithKeyPair.message) ∧
    ∃ ending after result,
      run ⟨ambient, endless, 3⟩ .transfer misplaced ⟨Transfer.loneFile.files, ()⟩ =
        some (ending, after) ∧
      Ended ⟨ambient, endless, 3⟩ misplaced ⟨Transfer.loneFile.files, ()⟩ .transfer result ending
        after ∧ result ≠ .error (.configuration .noMethod) := by
  obtain ⟨-, accepts, rejects, words, selects, fails⟩ := validate_selects_method
  have remote : StoragePath.namesRemote "s3://b/k" = true := by decide
  have valid : keyed.access.validate "s3://b/k" = .ok () := by
    refine (accepts _ _).mpr (.inr (.inr ⟨rfl, by decide, by decide, fun url given => ?_⟩))
    cases given
    have checked : (Url.check "http://[::1]:9000").toOption = some () := by decide +kernel
    cases found : Url.check "http://[::1]:9000" with
    | ok done => rfl
    | error error =>
      rw [found] at checked
      cases checked
  refine ⟨valid, ?_, ?_, ?_⟩
  · rcases (selects _ _ remote valid).2 with ⟨role, -⟩ | ⟨-, key, secret, taken, given, kept⟩
    · cases role
    · cases given
      cases kept
      exact taken
  · cases invalid : muddled.access.validate "s3://b/k" with
    | ok done =>
      rcases (accepts _ _).mp invalid with disk | ⟨-, keyless, -⟩ | ⟨roleless, -⟩
      · cases remote.symm.trans disk
      · cases keyless
      · cases roleless
    | error fault =>
      obtain ⟨-, rule, first, -⟩ := (rejects _ _ _).mp invalid
      exact ⟨fault, rule, rfl, first, words _ _ _ invalid⟩
  · have finished : (run ⟨ambient, endless, 3⟩ .transfer misplaced
        ⟨Transfer.loneFile.files, ()⟩).isSome = true := by decide +kernel
    obtain ⟨⟨ending, after⟩, ended⟩ := Option.isSome_iff_exists.mp finished
    obtain ⟨result, told, other⟩ := fails _ _ _ _ _ _ ended
    exact ⟨ending, after, result, ended, told, other⟩

end Command

end Haulage
