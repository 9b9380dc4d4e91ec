import Haulage.Proofs.Storage.Keeping
import Haulage.Proofs.Storage.Keys
import Mathlib.Order.RelClasses

/-! A store that other clients use as well. What they do falls between the calls of the client at
hand; a schedule tells it for each call, by the number of calls made before. -/
namespace Haulage

/-- Another client puts a key into a bucket or takes it out. -/
structure Edit where
  bucket : String
  key : String
  present : Bool
  deriving DecidableEq

def Edit.Touches (edit : Edit) (bucket key : String) : Prop :=
  edit.bucket = bucket ∧ edit.key = key

instance (edit : Edit) (bucket key : String) : Decidable (edit.Touches bucket key) :=
  inferInstanceAs (Decidable (_ ∧ _))

/-- What others do right before each call. -/
abbrev Schedule := Nat → List Edit

/-- No other client touches the key from one call on until right before another. -/
def Schedule.Spares (schedule : Schedule) (bucket key : String) (first last : Nat) : Prop :=
  ∀ calls, first ≤ calls → calls < last → ∀ edit ∈ schedule calls, ¬ edit.Touches bucket key

namespace Holdings

variable {holdings other : Holdings} {bucket key : String}

def edited (holdings : Holdings) (edit : Edit) : Holdings :=
  Function.update holdings edit.bucket <|
    if edit.present then insert edit.key (holdings edit.bucket)
    else (holdings edit.bucket).erase edit.key

/-- What is held after so many calls if only the others do anything. -/
def amid (holdings : Holdings) (schedule : Schedule) : Nat → Holdings
  | 0 => holdings
  | calls + 1 => (schedule calls).foldl edited (holdings.amid schedule calls)

theorem mem_edited {edit : Edit} : key ∈ holdings.edited edit bucket ↔
    if edit.Touches bucket key then edit.present = true else key ∈ holdings bucket := by
  by_cases same : bucket = edit.bucket
  · subst bucket
    by_cases named : edit.key = key
    · simp only [edited, Function.update_self, Edit.Touches, named, and_self, if_true]
      split <;> simp_all
    · simp only [edited, Function.update_self, Edit.Touches, named, and_false, if_false]
      split <;> simp [Ne.symm named]
  · simp [edited, Edit.Touches, same, Ne.symm same]

theorem mem_foldl_edited_of_untouched {edits : List Edit}
    (untouched : ∀ edit ∈ edits, ¬ edit.Touches bucket key) :
    key ∈ edits.foldl edited holdings bucket ↔ key ∈ holdings bucket := by
  induction edits generalizing holdings with
  | nil => rfl
  | cons edit rest ih =>
    rw [List.foldl_cons, ih fun next member => untouched next (List.mem_cons_of_mem _ member),
      mem_edited, if_neg (untouched edit List.mem_cons_self)]

/-- Edits act on each key by itself. -/
theorem mem_foldl_edited_congr (edits : List Edit)
    (same : key ∈ holdings bucket ↔ key ∈ other bucket) :
    key ∈ edits.foldl edited holdings bucket ↔ key ∈ edits.foldl edited other bucket := by
  induction edits generalizing holdings other with
  | nil => exact same
  | cons edit rest ih =>
    rw [List.foldl_cons, List.foldl_cons]
    apply ih
    rw [mem_edited, mem_edited, same]

end Holdings

variable {σ α : Type}

/-- The answer after what others do, with the calls counted. -/
def Answer.amid (answer : Answer σ α) (others : Nat → σ → σ) : Answer (σ × Nat) α :=
  fun (state, calls) =>
    let (result, state) := answer (others calls state)
    (result, state, calls + 1)

def Store.amid (store : Store σ) (others : Nat → σ → σ) : Store (σ × Nat) where
  list path options := (store.list path options).amid others
  delete bucket keys := (store.delete bucket keys).amid others
  put path source tree := (store.put path source tree).amid others

def Connector.amid (connector : Connector σ) (others : Nat → σ → σ) : Connector (σ × Nat) where
  connect := fun state =>
    let (result, state) := connector.connect.amid others state
    (result.map (·.amid others), state)

theorem Answer.of_amid {answer : Answer σ α} {others : Nat → σ → σ} {start after : σ × Nat}
    {result : Except Fault α} (answered : answer.amid others start = (result, after)) :
    answer (others start.2 start.1) = (result, after.1) ∧ after.2 = start.2 + 1 := by
  simp only [Answer.amid, Prod.mk.injEq] at answered
  obtain ⟨same, rfl⟩ := answered
  subst same
  exact ⟨rfl, rfl⟩

/-- Every call is counted. -/
theorem Store.keeps_amid (store : Store σ) (others : Nat → σ → σ) :
    (store.amid others).Keeps (Order.Preimage (·.2) (· ≤ ·)) where
  list _ _ start := Nat.le_succ start.2
  delete _ _ start := Nat.le_succ start.2
  put _ _ _ start := Nat.le_succ start.2

theorem Connector.of_amid {connector : Connector σ} {others : Nat → σ → σ} {start next : σ × Nat}
    {result : Except Fault (Store (σ × Nat))}
    (answered : (connector.amid others).connect start = (result, next)) :
    ∃ plain, connector.connect (others start.2 start.1) = (plain, next.1) ∧
      result = plain.map (·.amid others) ∧ next.2 = start.2 + 1 := by
  simp only [Connector.amid] at answered
  match plainly : connector.connect.amid others start with
  | (plain, after) =>
    rw [plainly, Prod.mk.injEq] at answered
    obtain ⟨rfl, rfl⟩ := answered
    obtain ⟨connected, counted⟩ := Answer.of_amid plainly
    exact ⟨plain, connected, rfl, counted⟩

/-- A way in which edits reach the state of a store. -/
structure Editing (held : σ → Holdings) where
  edit : σ → Edit → σ
  held_edit : ∀ state change, held (edit state change) = (held state).edited change

/-- Carries out what a schedule lays down for a call. -/
def Editing.follow {held : σ → Holdings} (editing : Editing held) (schedule : Schedule)
    (calls : Nat) (state : σ) : σ :=
  (schedule calls).foldl editing.edit state

theorem Editing.held_follow {held : σ → Holdings} (editing : Editing held) (schedule : Schedule)
    (calls : Nat) (state : σ) :
    held (editing.follow schedule calls state) =
      (schedule calls).foldl Holdings.edited (held state) := by
  unfold Editing.follow
  induction schedule calls generalizing state with
  | nil => rfl
  | cons change rest ih => rw [List.foldl_cons, List.foldl_cons, ih, editing.held_edit]

end Haulage
