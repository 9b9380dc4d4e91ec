/-! A tree of directories, files and links. Directories and links lie at locations; files have a
record of their own that several names may share. -/
namespace Haulage

/-- Names from the root down to an entry. -/
abbrev Location := List String

/-- A time in seconds since 1970 and nanoseconds. -/
structure FileTime where
  seconds : Int
  nanoseconds : Nat
  deriving DecidableEq

/-- What is kept of a file, apart from its names. -/
structure FileRecord where
  content : List UInt8
  mode : Nat
  modified : FileTime
  accessed : FileTime
  deriving DecidableEq

inductive Entry where
  | directory
  | file (identity : Nat)
  | link (target : String)
  deriving DecidableEq

structure FileTree where
  entries : List (Location × Entry)
  files : Nat → FileRecord
  /-- Where relative paths begin. -/
  start : Location

namespace FileTree

/-- The entry at a location; the root is always a directory. -/
def get? (tree : FileTree) (location : Location) : Option Entry :=
  if location = [] then some .directory else tree.entries.lookup location

/-- Whether the location lies strictly below the other one. -/
def below (upper location : Location) : Bool :=
  upper.isPrefixOf location && upper.length < location.length

/-- The locations in use strictly below another. -/
def locationsBelow (tree : FileTree) (upper : Location) : List Location :=
  (tree.entries.map (·.1)).filter (below upper)

/-- The tree with a new entry in front. -/
def insert (tree : FileTree) (location : Location) (entry : Entry) : FileTree :=
  { tree with entries := (location, entry) :: tree.entries }

/-- The tree without the entry at one location. -/
def erase (tree : FileTree) (location : Location) : FileTree :=
  { tree with entries := tree.entries.filter (·.1 ≠ location) }

/-- The tree with one file changed under all of its names. -/
def setFile (tree : FileTree) (identity : Nat) (record : FileRecord) : FileTree :=
  { tree with files := fun other => if other = identity then record else tree.files other }

/-- The number, or the next one after the file of an entry. -/
private def freshAbove (next : Nat) (entry : Location × Entry) : Nat :=
  match entry.2 with
  | .file identity => max next (identity + 1)
  | _ => next

/-- A number that no file of the tree has. -/
def freshIdentity (tree : FileTree) : Nat :=
  tree.entries.foldl freshAbove 0

/-- An empty file, before it is written to. -/
def blankFile : FileRecord where
  content := []
  mode := 0o644
  modified := ⟨0, 0⟩
  accessed := ⟨0, 0⟩

/-- A tree with nothing but directories down to where relative paths begin. -/
def startingAt (start : Location) : FileTree where
  entries := (List.range start.length).map fun count => (start.take (count + 1), .directory)
  files := fun _ => blankFile
  start := start

theorem get?_insert_self (tree : FileTree) {location : Location} (inside : location ≠ [])
    (entry : Entry) : (tree.insert location entry).get? location = some entry := by
  simp [get?, insert, inside]

theorem get?_insert_of_ne (tree : FileTree) {location other : Location}
    (different : other ≠ location) (entry : Entry) :
    (tree.insert location entry).get? other = tree.get? other := by
  have missed : (other == location) = false := by simpa using different
  unfold get? insert
  split
  · rfl
  · rw [List.lookup_cons, missed]

/-- Of the entries at some locations only, the others are not found. -/
theorem lookup_filter (keep : Location → Bool) (entries : List (Location × Entry))
    (location : Location) : (entries.filter fun entry => keep entry.1).lookup location =
      if keep location then entries.lookup location else none := by
  induction entries with
  | nil => simp
  | cons first rest ih =>
    obtain ⟨place, entry⟩ := first
    by_cases same : location = place
    · subst place
      by_cases kept : keep location = true
      · rw [List.filter_cons_of_pos (by exact kept), List.lookup_cons_self, List.lookup_cons_self,
          if_pos kept]
      · rw [List.filter_cons_of_neg (by exact kept), ih, if_neg kept, if_neg kept]
    · have missed : (location == place) = false := by simpa using same
      rw [List.lookup_cons, missed, List.filter_cons]
      split
      · rw [List.lookup_cons, missed, ih]
      · exact ih

theorem get?_erase_self (tree : FileTree) {location : Location} (inside : location ≠ []) :
    (tree.erase location).get? location = none := by
  rw [get?, if_neg inside]
  exact (lookup_filter (· ≠ location) tree.entries location).trans (if_neg (by simp))

theorem get?_erase_of_ne (tree : FileTree) {location other : Location}
    (different : other ≠ location) : (tree.erase location).get? other = tree.get? other := by
  unfold get?
  split
  · rfl
  · exact (lookup_filter (· ≠ location) tree.entries other).trans (if_pos (by simpa using different))

@[simp]
theorem files_setFile_self (tree : FileTree) (identity : Nat) (record : FileRecord) :
    (tree.setFile identity record).files identity = record := by
  simp [setFile]

theorem files_setFile_of_ne (tree : FileTree) {identity other : Nat} (different : other ≠ identity)
    (record : FileRecord) : (tree.setFile identity record).files other = tree.files other := by
  simp [setFile, different]

theorem setFile_setFile (tree : FileTree) (identity : Nat) (first last : FileRecord) :
    (tree.setFile identity first).setFile identity last = tree.setFile identity last := by
  simp only [setFile, FileTree.mk.injEq, true_and, and_true]
  funext other
  split
  · rfl
  · rfl

theorem setFile_files (tree : FileTree) (identity : Nat) :
    tree.setFile identity (tree.files identity) = tree := by
  unfold setFile
  congr 1
  funext other
  split
  · rename_i same
    rw [same]
  · rfl

/-- A new file shares its record with no entry of the tree. -/
theorem lt_freshIdentity {tree : FileTree} {location : Location} {identity : Nat}
    (member : (location, Entry.file identity) ∈ tree.entries) : identity < tree.freshIdentity := by
  have grows (entries : List (Location × Entry)) (next : Nat) :
      next ≤ entries.foldl freshAbove next ∧
        ∀ place used, (place, Entry.file used) ∈ entries → used < entries.foldl freshAbove next := by
    induction entries generalizing next with
    | nil => simp
    | cons first rest ih =>
      obtain ⟨reached, above⟩ := ih (freshAbove next first)
      have kept : next ≤ freshAbove next first := by
        unfold freshAbove
        split <;> omega
      refine ⟨Nat.le_trans kept reached, fun place used found => ?_⟩
      rcases List.mem_cons.mp found with same | later
      · subst same
        have covered : used < freshAbove next (place, Entry.file used) := by
          simp only [freshAbove]
          omega
        exact Nat.lt_of_lt_of_le covered reached
      · exact above place used later
  exact (grows tree.entries 0).2 location identity member

end FileTree

end Haulage
