import Haulage.Proofs.Files.Change

/-! The faults that changes end in, with one rule for each way to build a change. Making directories and
copying fail for what the file system says or for a text that cannot name a file, and for nothing else. -/
namespace Haulage

open Files

/-- What the file system says, or that a text cannot name a file. -/
def Files.Fault.Native : Fault → Prop
  | .system _ => True
  | .nulInPath => True
  | .sameFile _ => False
  | .notText => False
  | .reported _ => False

namespace FileTree

variable {tree : FileTree} {text : String} {fault : Fault}

theorem native_of_ofText (unreadable : Route.ofText text = .error fault) : fault.Native := by
  unfold Route.ofText at unreadable
  split at unreadable
  · cases unreadable
    trivial
  · split at unreadable
    · cases unreadable
      trivial
    · split at unreadable
      · cases unreadable
        trivial
      · cases unreadable

private theorem native_of_mapError {α : Type} {result : Except Failure α}
    (failed : result.mapError Fault.system = .error fault) : fault.Native := by
  cases result with
  | error failure =>
    cases failed
    trivial
  | ok value => cases failed

private theorem native_of_bind {α β : Type} {result : Except Fault α} {next : α → Except Fault β}
    (first : ∀ {fault}, result = .error fault → fault.Native)
    (rest : ∀ {value fault}, next value = .error fault → fault.Native)
    (failed : (result >>= next) = .error fault) : fault.Native := by
  cases result with
  | error lost =>
    cases failed
    exact first rfl
  | ok value => exact rest failed

theorem native_of_place {purpose : Purpose} (failed : tree.place purpose text = .error fault) :
    fault.Native :=
  native_of_bind native_of_ofText native_of_mapError failed

theorem native_of_look (failed : tree.look text = .error fault) : fault.Native := by
  refine native_of_bind native_of_place (fun {reached} {cause} lost => ?_) failed
  cases reached with
  | taken location entry => cases lost
  | free parent name asDirectory =>
    cases lost
    trivial

theorem native_of_holder (failed : tree.holder text = .error fault) : fault.Native := by
  refine native_of_bind native_of_ofText (fun {route} {cause} lost => ?_) failed
  refine native_of_bind native_of_mapError (fun impossible => ?_) lost
  cases impossible

namespace Change

variable {α β : Type}

/-- Where the change fails, it does so for such a cause. -/
def FailsWith (allowed : Fault → Prop) (change : Change α) : Prop :=
  ∀ ⦃tree after fault⦄, change.perform tree = (.error fault, after) → allowed fault

namespace FailsWith

variable {allowed : Fault → Prop} {change : Change α} {next : α → Change β}
  {handler : Fault → Change α}

theorem of_ok (succeeds : ∀ tree, ∃ value after, change.perform tree = (.ok value, after)) :
    change.FailsWith allowed := by
  intro tree after fault failed
  obtain ⟨value, later, performed⟩ := succeeds tree
  cases performed.symm.trans failed

theorem of_throw {cause : Fault} (fits : allowed cause) :
    FailsWith allowed (throw cause : Change α) := by
  intro tree after fault failed
  cases failed
  exact fits

theorem bind (first : change.FailsWith allowed) (rest : ∀ value, (next value).FailsWith allowed) :
    (change >>= next).FailsWith allowed := by
  intro tree after fault failed
  rw [perform_bind] at failed
  match performed : change.perform tree with
  | (.error cause, middle) =>
    rw [performed] at failed
    cases failed
    exact first performed
  | (.ok value, middle) =>
    rw [performed] at failed
    exact rest value failed

theorem get_bind {next : FileTree → Change β} (rest : ∀ tree, (next tree).FailsWith allowed) :
    (get >>= next).FailsWith allowed := fun tree _ _ failed => rest tree failed

theorem liftM_bind {result : Except Fault α} (given : ∀ {fault}, result = .error fault → allowed fault)
    (rest : ∀ value, (next value).FailsWith allowed) :
    (liftM result >>= next).FailsWith allowed := by
  intro tree after fault failed
  rw [perform_liftM_bind] at failed
  cases result with
  | error cause =>
    cases failed
    exact given rfl
  | ok value => exact rest value failed

theorem tryCatch (first : change.FailsWith allowed)
    (rescue : ∀ {fault}, allowed fault → (handler fault).FailsWith allowed) :
    FailsWith allowed (tryCatch change handler) := by
  intro tree after fault failed
  rw [perform_tryCatch] at failed
  match performed : change.perform tree with
  | (.error cause, middle) =>
    rw [performed] at failed
    exact rescue (first performed) failed
  | (.ok value, middle) =>
    rw [performed] at failed
    cases failed

theorem forM {ι : Type} {act : ι → Change PUnit} {items : List ι}
    (each : ∀ item, (act item).FailsWith allowed) : FailsWith allowed (items.forM act) := by
  induction items with
  | nil => exact of_ok fun tree => ⟨_, tree, rfl⟩
  | cons item rest ih => exact bind (each item) fun _ => ih

end FailsWith

end Change

open Change

theorem putNew_native (parent : Location) (name : String) (entry : Entry) :
    (putNew parent name entry).FailsWith Fault.Native := by
  refine .get_bind fun tree => ?_
  split
  · exact .of_ok fun _ => ⟨_, _, rfl⟩
  · exact .of_throw trivial

theorem makeDirectory_native (text : String) : (makeDirectory text).FailsWith Fault.Native := by
  refine .get_bind fun tree => .liftM_bind native_of_holder fun held => ?_
  split
  · split
    · exact .of_throw trivial
    · split
      · exact .of_throw trivial
      · exact putNew_native _ _ _
  · exact .of_throw trivial

theorem ensureDirectory_native (text : String) : (ensureDirectory text).FailsWith Fault.Native := by
  refine .tryCatch (makeDirectory_native text) fun native => .get_bind fun tree => ?_
  split
  · exact .of_ok fun later => ⟨_, later, rfl⟩
  · exact .of_throw native

theorem missingBelow_native (nearestFirst : List String) :
    (missingBelow nearestFirst).FailsWith Fault.Native := by
  induction nearestFirst with
  | nil => exact .of_ok fun tree => ⟨_, tree, rfl⟩
  | cons nearest above ih =>
    refine .bind (.tryCatch (.bind (ensureDirectory_native nearest) ?_) ?_) fun missing => ?_
    · exact fun _ => .of_ok fun tree => ⟨_, tree, rfl⟩
    · intro fault native
      split
      · exact .of_ok fun tree => ⟨_, tree, rfl⟩
      · exact .of_throw native
    · split
      · exact .bind ih fun _ => .of_ok fun tree => ⟨_, tree, rfl⟩
      · exact .of_ok fun tree => ⟨_, tree, rfl⟩

theorem makeDirectories_native (nearestFirst : List String) :
    (makeDirectories nearestFirst).FailsWith Fault.Native :=
  .bind (missingBelow_native nearestFirst) fun _ => .forM ensureDirectory_native

theorem openToWrite_native (text : String) (mode : Nat) :
    (openToWrite text mode).FailsWith Fault.Native := by
  refine .get_bind fun tree => .liftM_bind native_of_place fun place => ?_
  split
  · exact .of_ok fun _ => ⟨_, _, rfl⟩
  · exact .of_throw trivial
  · exact .bind (putNew_native _ _ _) fun _ => .of_ok fun _ => ⟨_, _, rfl⟩

theorem copy_native (source target : String) (before : FileRecord) :
    (copy source target before).FailsWith Fault.Native := by
  refine .get_bind fun tree => .liftM_bind native_of_look fun looked => ?_
  split
  · refine .get_bind fun _ => .bind (openToWrite_native _ _) fun _ => ?_
    exact .of_ok fun _ => ⟨_, _, rfl⟩
  · exact .of_throw trivial

end FileTree

end Haulage
