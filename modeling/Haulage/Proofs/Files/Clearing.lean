import Haulage.Proofs.Files.Growth

/-! Taking away what lies below a directory. The deepest entries go first, so none of them is in the
way of another, and nothing but them is gone in the end. -/
namespace Haulage.FileTree

open Files Change

/-- The tree without what lies strictly below a location. -/
def emptied (tree : FileTree) (location : Location) : FileTree :=
  { tree with entries := tree.entries.filter fun entry => !below location entry.1 }

/-- The tree without a location and what lies below it. -/
def pruned (tree : FileTree) (location : Location) : FileTree :=
  (tree.emptied location).erase location

variable {tree : FileTree} {location other : Location}

theorem below_iff : below location other = true ↔
    location <+: other ∧ location.length < other.length := by
  simp [below]

theorem get?_emptied (tree : FileTree) (location other : Location) :
    (tree.emptied location).get? other =
      if below location other then none else tree.get? other := by
  unfold get?
  split
  · rename_i root
    simp [root, below]
  · refine (lookup_filter (fun place => !below location place) tree.entries other).trans ?_
    cases below location other <;> rfl

theorem get?_emptied_self (tree : FileTree) (location : Location) :
    (tree.emptied location).get? location = tree.get? location := by
  rw [get?_emptied, if_neg (by simp [below])]

theorem get?_pruned (tree : FileTree) (inside : location ≠ []) (other : Location) :
    (tree.pruned location).get? other =
      if location <+: other then none else tree.get? other := by
  by_cases same : other = location
  · rw [same, pruned, get?_erase_self _ inside, if_pos List.prefix_rfl]
  · rw [pruned, get?_erase_of_ne _ same, get?_emptied]
    have longer (upper : location <+: other) : location.length < other.length :=
      Nat.lt_of_le_of_ne upper.length_le fun even => same (upper.eq_of_length even).symm
    by_cases upper : location <+: other
    · rw [if_pos upper, if_pos (below_iff.mpr ⟨upper, longer upper⟩)]
    · rw [if_neg upper, if_neg fun lower => upper (below_iff.mp lower).1]

theorem locationsBelow_emptied (tree : FileTree) (location : Location) :
    (tree.emptied location).locationsBelow location = [] := by
  simp [locationsBelow, emptied, List.filter_eq_nil_iff]

theorem emptied_grows (tree : FileTree) (location : Location) :
    Grows (tree.emptied location) tree := by
  refine ⟨rfl, fun other entry found => ?_⟩
  rw [get?_emptied] at found
  split at found
  · cases found
  · exact found

theorem erase_grows (tree : FileTree) (location : Location) : Grows (tree.erase location) tree := by
  refine ⟨rfl, fun other entry found => ?_⟩
  by_cases same : other = location
  · subst same
    by_cases root : other = []
    · subst root
      exact found
    · rw [get?_erase_self _ root] at found
      cases found
  · rwa [get?_erase_of_ne _ same] at found

theorem pruned_grows (tree : FileTree) (location : Location) : Grows (tree.pruned location) tree :=
  (erase_grows _ location).trans (emptied_grows tree location)

/-! ## The removals -/

theorem mem_locationsBelow : other ∈ tree.locationsBelow location ↔
    other ∈ tree.entries.map (·.1) ∧ below location other = true :=
  List.mem_filter

private theorem erase_eq_self (inside : location ≠ []) (absent : tree.get? location = none) :
    tree.erase location = tree := by
  rw [get?, if_neg inside, List.lookup_eq_none_iff] at absent
  rw [erase, List.filter_eq_self.mpr]
  intro entry member
  have missed : (location != entry.1) = true := absent entry member
  exact decide_eq_true (Ne.symm (by simpa using missed))

/-- What has nothing below it can be removed, if it is there. -/
theorem perform_removeAt (inside : location ≠ []) (empty : tree.locationsBelow location = []) :
    (removeAt location).perform tree = (.ok (), tree.erase location) := by
  rw [removeAt, perform_get_bind]
  match found : tree.get? location with
  | none =>
    rw [erase_eq_self inside found]
    rfl
  | some .directory =>
    dsimp only
    rw [empty]
    rfl
  | some (.file _) => rfl
  | some (.link _) => rfl

/-- A file or a link goes whatever lies elsewhere. -/
theorem perform_removeAt_of_lone {entry : Entry} (found : tree.get? location = some entry)
    (lone : entry ≠ .directory) : (removeAt location).perform tree = (.ok (), tree.erase location) := by
  rw [removeAt, perform_get_bind, found]
  cases entry with
  | directory => exact absurd rfl lone
  | file identity => rfl
  | link target => rfl

/-- The invariant of the removals: whatever lies below one of the places still to come is itself
still to come. As the deepest come first, nothing lies below the next one. -/
private theorem perform_forM_removeAt {places : List Location} (inside : ∀ place ∈ places, place ≠ [])
    (sorted : places.Pairwise fun left right => right.length ≤ left.length)
    (closed : ∀ place ∈ places, ∀ deeper ∈ tree.locationsBelow place, deeper ∈ places) :
    (places.forM removeAt).perform tree =
      (.ok (), { tree with entries := tree.entries.filter (·.1 ∉ places) }) := by
  induction places generalizing tree with
  | nil =>
    have same : tree.entries.filter (·.1 ∉ ([] : List Location)) = tree.entries :=
      List.filter_eq_self.mpr (by simp)
    rw [same]
    rfl
  | cons place rest ih =>
    have empty : tree.locationsBelow place = [] := by
      apply List.eq_nil_iff_forall_not_mem.mpr
      intro deeper member
      have longer := (below_iff.mp (mem_locationsBelow.mp member).2).2
      rcases List.mem_cons.mp (closed place List.mem_cons_self deeper member) with same | later
      · exact absurd longer (by rw [same]; exact Nat.lt_irrefl _)
      · exact absurd longer (Nat.not_lt_of_le (List.rel_of_pairwise_cons sorted later))
    have later : ∀ other ∈ rest, ∀ deeper ∈ (tree.erase place).locationsBelow other, deeper ∈ rest := by
      intro other member deeper found
      obtain ⟨used, lower⟩ := mem_locationsBelow.mp found
      obtain ⟨entry, present, rfl⟩ := List.mem_map.mp used
      obtain ⟨present, different⟩ := List.mem_filter.mp present
      have known := mem_locationsBelow.mpr ⟨List.mem_map_of_mem present, lower⟩
      have kept := closed other (List.mem_cons_of_mem _ member) entry.1 known
      exact (List.mem_cons.mp kept).resolve_left (by simpa using different)
    show (removeAt place >>= fun _ => rest.forM removeAt).perform tree = _
    rw [perform_bind, perform_removeAt (inside place List.mem_cons_self) empty]
    dsimp only
    rw [ih (fun other member => inside other (List.mem_cons_of_mem _ member)) sorted.of_cons later,
      erase, List.filter_filter]
    simp [Bool.and_comm]

private theorem pairwise_deepest_first (places : List Location) :
    (places.mergeSort fun left right => decide (right.length ≤ left.length)).Pairwise
      fun left right => right.length ≤ left.length := by
  refine (List.pairwise_mergeSort ?_ ?_ places).imp of_decide_eq_true
  · simpa using fun _ _ _ first second => Nat.le_trans second first
  · simpa using fun first second => Nat.le_total (List.length second) (List.length first)

/-- Clearing never fails, and takes away exactly what lies below. -/
theorem perform_clear (tree : FileTree) (location : Location) :
    (clear location).perform tree = (.ok (), tree.emptied location) := by
  rw [clear, perform_get_bind]
  have members (place : Location) :
      place ∈ (tree.locationsBelow location).mergeSort
        (fun left right => decide (right.length ≤ left.length)) ↔
      place ∈ tree.entries.map (·.1) ∧ below location place = true :=
    List.mem_mergeSort.trans mem_locationsBelow
  rw [perform_forM_removeAt]
  · refine congrArg (fun entries => (_, { tree with entries := entries })) ?_
    apply List.filter_congr
    intro entry present
    simp only [members, List.mem_map_of_mem present, true_and]
    cases below location entry.1 <;> rfl
  · rintro place member rfl
    simpa [below] using (members []).mp member
  · exact pairwise_deepest_first (tree.locationsBelow location)
  · intro place member deeper found
    obtain ⟨used, lower⟩ := mem_locationsBelow.mp found
    obtain ⟨-, upper⟩ := (members place).mp member
    rw [below_iff] at lower upper
    exact (members deeper).mpr
      ⟨used, below_iff.mpr ⟨upper.1.trans lower.1, Nat.lt_trans upper.2 lower.2⟩⟩

end Haulage.FileTree
