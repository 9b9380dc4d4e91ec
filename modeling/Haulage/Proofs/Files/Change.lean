import Haulage.Files.Change
import Mathlib.Order.Defs.Unbundled

/-! What changes do to a tree, one equation for each way to build them, and rules for a relation
between the tree before and the tree after that holds whether a change fails or not. -/
namespace Haulage.FileTree

open Files

namespace Change

variable {α β : Type}

/-- The result of a change and the tree after it. -/
def perform (change : Change α) (tree : FileTree) : Except Fault α × FileTree :=
  change.run.run tree

theorem perform_bind (change : Change α) (next : α → Change β) (tree : FileTree) :
    (change >>= next).perform tree =
      match change.perform tree with
      | (.ok value, after) => (next value).perform after
      | (.error fault, after) => (.error fault, after) := by
  unfold perform
  rw [ExceptT.run_bind, StateT.run_bind]
  rcases change.run.run tree with ⟨fault | value, after⟩
  · rfl
  · rfl

theorem perform_get_bind (next : FileTree → Change β) (tree : FileTree) :
    (get >>= next).perform tree = (next tree).perform tree := rfl

theorem perform_liftM_bind (result : Except Fault α) (next : α → Change β) (tree : FileTree) :
    (liftM result >>= next).perform tree =
      match result with
      | .ok value => (next value).perform tree
      | .error fault => (.error fault, tree) := by
  cases result <;> rfl

theorem perform_tryCatch (change : Change α) (handler : Fault → Change α) (tree : FileTree) :
    (tryCatch change handler).perform tree =
      match change.perform tree with
      | (.ok value, after) => (.ok value, after)
      | (.error fault, after) => (handler fault).perform after := by
  unfold perform
  rw [ExceptT.run_tryCatch, StateT.run_bind]
  rcases change.run.run tree with ⟨fault | value, after⟩
  · rfl
  · rfl

/-- The relation holds between the tree before and the tree after. -/
def Keeps (relation : FileTree → FileTree → Prop) (change : Change α) : Prop :=
  ∀ tree, relation tree (change.perform tree).2

namespace Keeps

variable {relation : FileTree → FileTree → Prop} {change : Change α} {next : α → Change β}
  {handler : Fault → Change α}

theorem of_unchanged [Std.Refl relation] (unchanged : ∀ tree, (change.perform tree).2 = tree) :
    change.Keeps relation := fun tree => by
  rw [unchanged]
  exact Std.Refl.refl tree

theorem bind_of_ok [IsTrans FileTree relation] (first : change.Keeps relation)
    (rest : ∀ {tree value after}, change.perform tree = (.ok value, after) →
      (next value).Keeps relation) : (change >>= next).Keeps relation := by
  intro tree
  have start := first tree
  rw [perform_bind]
  rcases performed : change.perform tree with ⟨fault | value, after⟩
  · rwa [performed] at start
  · rw [performed] at start
    exact IsTrans.trans _ _ _ start (rest performed after)

theorem bind [IsTrans FileTree relation] (first : change.Keeps relation)
    (rest : ∀ value, (next value).Keeps relation) : (change >>= next).Keeps relation :=
  bind_of_ok first fun _ => rest _

theorem tryCatch [IsTrans FileTree relation] (first : change.Keeps relation)
    (rescue : ∀ fault, (handler fault).Keeps relation) :
    Keeps relation (tryCatch change handler) := by
  intro tree
  have start := first tree
  rw [perform_tryCatch]
  rcases performed : change.perform tree with ⟨fault | value, after⟩
  · rw [performed] at start
    exact IsTrans.trans _ _ _ start (rescue fault after)
  · rwa [performed] at start

theorem forM {ι : Type} {act : ι → Change PUnit} [Std.Refl relation] [IsTrans FileTree relation]
    {items : List ι} (each : ∀ item ∈ items, (act item).Keeps relation) :
    Keeps relation (items.forM act) := by
  induction items with
  | nil => exact of_unchanged fun _ => rfl
  | cons item rest ih =>
    refine bind (each item List.mem_cons_self) fun _ => ih fun other member => ?_
    exact each other (List.mem_cons_of_mem item member)

end Keeps

end Change

end Haulage.FileTree
