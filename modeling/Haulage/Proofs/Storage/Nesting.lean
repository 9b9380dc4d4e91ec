import Haulage.Proofs.Storage.Joining

/-! Joining more than once. A child that is not empty and does not end in a slash leaves the next join
nothing to take away, so joins one after another come to one join of the children with single slashes
between them. -/
namespace Haulage.RemotePath

attribute [ext] RemotePath

variable {path : RemotePath} {child : String}

theorem getLast?_key_join (path : RemotePath) (nonempty : child ≠ "") :
    (path.join child).key.toList.getLast? = child.toList.getLast? := by
  have inside : child.toList ≠ [] := by simpa using nonempty
  rw [toList_key_join]
  split
  · rfl
  · rw [List.getLast?_append_of_ne_nil _ (List.cons_ne_nil _ _),
      List.getLast?_cons_of_ne_nil inside]

theorem isDirectory_join (path : RemotePath) (nonempty : child ≠ "")
    (ended : child.toList.getLast? ≠ some '/') : (path.join child).isDirectory = false := by
  rw [← Bool.not_eq_true, isDirectory_iff, getLast?_key_join path nonempty]
  rintro (empty | slash)
  · have last := getLast?_key_join path nonempty
    rw [empty, List.getLast?_nil] at last
    exact nonempty (by simpa using last.symm)
  · exact ended slash

/-- The second join finds no slash to take away, neither of the child nor of what came before. -/
theorem join_join (path : RemotePath) (nonempty : child ≠ "")
    (ended : child.toList.getLast? ≠ some '/') (next : String) :
    (path.join child).join next = path.join (child ++ "/" ++ next) := by
  have kept : Text.dropTrailing '/' (path.join child).key.toList =
      (path.join child).key.toList := by
    apply Text.dropTrailing_of_getLast?_ne
    rwa [getLast?_key_join path nonempty]
  refine RemotePath.ext rfl (String.toList_inj.mp ?_)
  rw [toList_key_join, kept, toList_key_join, toList_key_join]
  by_cases empty : Text.dropTrailing '/' path.key.toList = []
  · simp [empty, nonempty]
  · simp [empty]

theorem foldl_join (path : RemotePath) (first : String) (others : List String)
    (whole : ∀ child ∈ first :: others, child ≠ "" ∧ child.toList.getLast? ≠ some '/') :
    (first :: others).foldl join path = path.join ("/".intercalate (first :: others)) := by
  induction others generalizing first with
  | nil => simp
  | cons next rest ih =>
    obtain ⟨nonempty, ended⟩ := whole first (by simp)
    obtain ⟨nextNonempty, nextEnded⟩ := whole next (by simp)
    have joined : ∀ child ∈ (first ++ "/" ++ next) :: rest,
        child ≠ "" ∧ child.toList.getLast? ≠ some '/' := by
      intro child member
      rcases List.mem_cons.mp member with rfl | later
      · have inside : next.toList ≠ [] := by simpa using nextNonempty
        rw [String.toList_append, List.getLast?_append_of_ne_nil _ inside]
        exact ⟨by simp [nextNonempty], nextEnded⟩
      · exact whole child (by simp [later])
    calc (first :: next :: rest).foldl join path
        = ((first ++ "/" ++ next) :: rest).foldl join path := by
          rw [List.foldl_cons, List.foldl_cons, join_join path nonempty ended, ← List.foldl_cons]
      _ = path.join ("/".intercalate ((first ++ "/" ++ next) :: rest)) := ih _ joined
      _ = path.join ("/".intercalate (first :: next :: rest)) := by
          rw [String.intercalate_cons_append, String.intercalate_cons_cons]

theorem bucket_foldl_join (path : RemotePath) (children : List String) :
    (children.foldl join path).bucket = path.bucket := by
  induction children generalizing path with
  | nil => rfl
  | cons child rest ih => exact ih (path.join child)

theorem toList_intercalate_slash (first : String) (others : List String) :
    ("/".intercalate (first :: others)).toList =
      first.toList ++ others.flatMap fun child => '/' :: child.toList := by
  induction others generalizing first with
  | nil => simp
  | cons next rest ih => simp [String.intercalate_cons_cons, ih]

/-- A join sees of a key only what stands before the slashes that end it. -/
theorem join_eq_of_dropTrailing_eq {other : RemotePath} (bucket : other.bucket = path.bucket)
    (base : Text.dropTrailing '/' other.key.toList = Text.dropTrailing '/' path.key.toList)
    (child : String) : other.join child = path.join child := by
  simp only [join, bucket, base]

/-- Children that are not empty and do not end in a slash may be joined one by one or all at once. The
bucket stays; of the key all stays but the slashes that end it, then come the children, each behind a
single slash save the first below a key without anything else; and so the path never stands for what
lies below it. -/
theorem joins_compose (path : RemotePath) (first : String) (others : List String)
    (whole : ∀ child ∈ first :: others, child ≠ "" ∧ child.toList.getLast? ≠ some '/') :
    let below := (first :: others).foldl join path
    let base := Text.dropTrailing '/' path.key.toList
    below = path.join ("/".intercalate (first :: others)) ∧
    below.bucket = path.bucket ∧
    (∀ other : RemotePath, other.bucket = path.bucket →
      Text.dropTrailing '/' other.key.toList = base → (first :: others).foldl join other = below) ∧
    below.isDirectory = false ∧
    base.getLast? ≠ some '/' ∧ (∃ count, path.key.toList = base ++ List.replicate count '/') ∧
    below.key.toList = (if base = [] then [] else base ++ ['/']) ++ first.toList ++
      others.flatMap fun child => '/' :: child.toList := by
  intro below base
  have atOnce : below = path.join ("/".intercalate (first :: others)) :=
    foldl_join path first others whole
  refine ⟨atOnce, bucket_foldl_join path _, ?_, ?_, Text.getLast?_dropTrailing _ _,
    Text.exists_eq_dropTrailing_append _ _, ?_⟩
  · intro other bucket alike
    rw [foldl_join other first others whole, atOnce]
    exact join_eq_of_dropTrailing_eq bucket alike _
  · -- what the path ends in is what the last of the children ends in
    obtain ⟨start, last, split⟩ :=
      (List.eq_nil_or_concat' (first :: others)).resolve_left (List.cons_ne_nil _ _)
    obtain ⟨nonempty, ended⟩ := whole last (by simp [split])
    have reached : below = (start.foldl join path).join last := by
      change (first :: others).foldl join path = _
      rw [split, List.foldl_append, List.foldl_cons, List.foldl_nil]
    rw [reached]
    exact isDirectory_join _ nonempty ended
  · rw [atOnce, toList_key_join, toList_intercalate_slash]
    by_cases empty : base = []
    · simp [base, empty]
    · simp [base, empty]

/-- The slashes inside a key and inside children, and those that children begin with, are kept. -/
theorem slashes_composed :
    (∀ child ∈ ["/x", "y//z"], child ≠ "" ∧ child.toList.getLast? ≠ some '/') ∧
    ["/x", "y//z"].foldl join ⟨"b", "a//k//"⟩ = ⟨"b", "a//k//x/y//z"⟩ ∧
    ["/x", "y//z"].foldl join ⟨"b", "//"⟩ = ⟨"b", "/x/y//z"⟩ := by
  have whole : ∀ child ∈ ["/x", "y//z"], child ≠ "" ∧ child.toList.getLast? ≠ some '/' := by decide
  refine ⟨whole, ?_, ?_⟩
  · rw [(joins_compose ⟨"b", "a//k//"⟩ "/x" ["y//z"] whole).1]
    decide
  · rw [(joins_compose ⟨"b", "//"⟩ "/x" ["y//z"] whole).1]
    decide

end Haulage.RemotePath
