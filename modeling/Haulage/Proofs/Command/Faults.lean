import Haulage.Proofs.Access.Rules
import Haulage.Proofs.Command.Ended
import Haulage.Proofs.S3.Sending
import Haulage.Proofs.Storage.Grammar
import Haulage.Proofs.Transfer.Source

/-! What a run can fail with. A fault of a call is the fault of the operation that makes it, so what
holds of every fault of a connection holds of every fault of an operation at a remote place. That there
is no way of access is none of them where the options are valid. -/
namespace Haulage

variable {σ α : Type}

/-- Whatever the state is, a failure is one of the allowed. -/
def Answer.Fails (answer : Answer σ α) (allowed : Fault → Prop) : Prop :=
  ∀ {state fault next}, answer state = (.error fault, next) → allowed fault

structure Store.Fails (store : Store σ) (allowed : Fault → Prop) : Prop where
  list : ∀ path options, (store.list path options).Fails allowed
  delete : ∀ bucket keys, (store.delete bucket keys).Fails allowed
  put : ∀ path source files, (store.put path source files).Fails allowed

structure Connector.Fails (connector : Connector σ) (allowed : Fault → Prop) : Prop where
  connect : connector.connect.Fails allowed
  serves : ∀ {state store next}, connector.connect state = (.ok store, next) → store.Fails allowed

/-! ## Operations -/

namespace Deletion

variable {store : Store σ} {connector : Connector σ} {path : RemotePath} {token : Option String}
  {bucket : String} {groups : List (List String)} {state final : σ} {events : List Event}
  {count : Except Fault Nat} {fault : Fault} {allowed : Fault → Prop}

theorem error_of_map {transform : Nat → Nat} (failed : count.map transform = .error fault) :
    count = .error fault := by
  cases count with
  | error other => exact failed
  | ok gone => cases failed

theorem BatchRun.permitted (run : BatchRun store bucket groups state events count final)
    (failed : count = .error fault) (fails : store.Fails allowed) : allowed fault := by
  induction run with
  | done => cases failed
  | failed answered =>
    cases failed
    exact fails.delete _ _ answered
  | removed _ _ ih => exact ih (error_of_map failed)

theorem PageRun.permitted (run : PageRun store path token state events count final)
    (failed : count = .error fault) (fails : store.Fails allowed) : allowed fault := by
  induction run with
  | unlisted answered =>
    cases failed
    exact fails.list _ _ answered
  | stuck _ removal => exact removal.permitted failed fails
  | last => cases failed
  | more _ _ _ _ ih => exact ih (error_of_map failed)

theorem RemoteRun.permitted (run : RemoteRun connector path state events (.error fault) final)
    (fails : connector.Fails allowed) : allowed fault := by
  cases run with
  | refused answered => exact fails.connect answered
  | served answered run => exact run.permitted rfl (fails.serves answered)

end Deletion

/-- A fault of what an operation works with, and not of the way in which a command is called. -/
def Fault.Operational : Fault → Prop
  | .resolution _ | .notFound _ | .remote _ | .disk _ => True
  | .usage _ | .configuration _ | .settings _ | .url _ => False

section Operations

variable {connector : Connector σ} {source destination : String} {world after : World σ}
  {fault : Fault}

theorem operational_of_deleteRecursive {pages : Nat}
    (fails : StoragePath.namesRemote destination → connector.Fails Fault.Operational)
    (failed : deleteRecursive connector pages destination world = some (.error fault, after)) :
    fault.Operational := by
  cases found : StoragePath.ofText destination with
  | remote path =>
    have fails := fails (StoragePath.namesRemote_iff_exists.mpr ⟨path, found⟩)
    obtain ⟨events, count, run, -, same, -⟩ := Deletion.exists_remoteRun found failed
    cases count with
    | error cause =>
      cases same
      exact run.permitted fails
    | ok gone => cases same
  | disk text =>
    rw [deleteRecursive, found] at failed
    dsimp only at failed
    generalize (Deletion.removeFromDisk text).run.run world.files = removed at failed
    obtain ⟨cause | outcome, files⟩ := removed
    · cases failed
      trivial
    · cases failed

theorem operational_of_transferFile
    (fails : StoragePath.namesRemote destination → connector.Fails Fault.Operational)
    (failed : transferFile connector source destination world = (.error fault, after)) :
    fault.Operational := by
  cases present : world.files.fileAt? source with
  | none =>
    rw [transferFile, Transfer.source?, present] at failed
    cases failed
    trivial
  | some identity =>
    cases found : StoragePath.ofText destination with
    | remote path =>
      have fails := fails (StoragePath.namesRemote_iff_exists.mpr ⟨path, found⟩)
      rcases answered : Transfer.upload connector (Transfer.remoteTarget path source) source
        (world.files.files identity).content.length world.files world.service with ⟨result, service⟩
      simp only [transferFile, Transfer.source?, present, found, answered] at failed
      cases failed
      cases Transfer.uploaded_of_upload answered with
      | refused answered => exact fails.connect answered
      | failed answered unput => exact (fails.serves answered).put _ _ _ unput
    | disk text =>
      obtain ⟨⟨result, files⟩, -, same⟩ := Transfer.exists_copied connector found present
      rw [same] at failed
      cases result with
      | error cause =>
        cases failed
        trivial
      | ok outcome => cases failed

end Operations

/-! ## Connections -/

namespace S3

variable {service : Service σ} {environment : Environment} {method : AccessMethod}
  {endpoint : Endpoint} {region : Option String} {ambient : Option Credentials}

theorem Client.store_fails (client : Client) : (client.store service).Fails Fault.Operational where
  list path options := by
    intro state fault next answered
    unfold store at answered
    dsimp only at answered
    split at answered <;> cases answered <;> trivial
  delete bucket keys := by
    intro state fault next answered
    unfold store at answered
    dsimp only at answered
    split at answered
    · cases answered
    · split at answered
      · split at answered
        · cases answered
          trivial
        · cases answered
      · cases answered
        trivial
      · cases answered
        trivial
  put path source files := by
    intro state fault next answered
    unfold store at answered
    dsimp only at answered
    split at answered
    · cases answered
      trivial
    · split at answered <;> cases answered <;> trivial
    · cases answered
      trivial

theorem assumeRole_fails (role : String) :
    (assumeRole service region ambient role).Fails Fault.Operational := by
  intro state fault next answered
  unfold assumeRole at answered
  split at answered
  · rename_i identified
    cases answered
    unfold callerAccount at identified
    split at identified <;> cases identified <;> trivial
  · unfold issuedCredentials at answered
    split at answered <;> cases answered <;> trivial

theorem resolve_fails (given : method ≠ .missing) :
    (resolve service environment method endpoint).Fails Fault.Operational := by
  intro state fault next answered
  match method with
  | .missing => exact absurd rfl given
  | .keys _ _ => cases answered
  | .role none => cases answered
  | .role (some role) =>
    obtain ⟨issued, assumed, made⟩ := assumed_of_resolve answered
    cases issued with
    | error cause =>
      cases made
      exact assumeRole_fails role assumed
    | ok keys => cases made

/-- Unless the access method is missing, no connection fails for want of one. -/
theorem connector_fails (given : method ≠ .missing) :
    (connector service environment method endpoint).Fails Fault.Operational where
  connect := by
    intro state fault next answered
    rcases resolved : resolve service environment method endpoint state with ⟨cause | client, done⟩
    all_goals
      simp only [connector, resolved] at answered
      cases answered
    exact resolve_fails given resolved
  serves := by
    intro state store next answered
    obtain ⟨client, -, rfl⟩ := exists_client answered
    exact client.store_fails

end S3

end Haulage
