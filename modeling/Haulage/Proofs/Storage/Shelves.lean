import Haulage.Proofs.Storage.Sharing

/-! A store that keeps the keys of each bucket in order and shows no more of them on a page than it
likes to. It obliges. -/
namespace Haulage

/-- Keys in order, none of them twice. -/
structure Shelf where
  keys : List String
  sorted : keys.Pairwise (· < ·)

namespace Shelf

def empty : Shelf := ⟨[], .nil⟩

def without (shelf : Shelf) (keys : List String) : Shelf where
  keys := shelf.keys.filter (· ∉ keys)
  sorted := shelf.sorted.filter _

def insert (shelf : Shelf) (key : String) : Shelf where
  keys := shelf.keys.filter (· < key) ++ key :: shelf.keys.filter (key < ·)
  sorted := by
    rw [List.pairwise_append, List.pairwise_cons]
    refine ⟨shelf.sorted.filter _, ⟨?_, shelf.sorted.filter _⟩, ?_⟩
    · intro later member
      simpa using (List.mem_filter.mp member).2
    · intro earlier before later member
      have below : earlier < key := by simpa using (List.mem_filter.mp before).2
      rcases List.mem_cons.mp member with same | above
      · rwa [same]
      · exact below.trans (by simpa using (List.mem_filter.mp above).2)

theorem mem_without {shelf : Shelf} {keys : List String} {key : String} :
    key ∈ (shelf.without keys).keys ↔ key ∈ shelf.keys ∧ key ∉ keys := by
  simp [without]

theorem mem_insert {shelf : Shelf} {key other : String} :
    other ∈ (shelf.insert key).keys ↔ other = key ∨ other ∈ shelf.keys := by
  simp only [insert, List.mem_append, List.mem_cons, List.mem_filter, decide_eq_true_eq]
  rcases lt_trichotomy other key with below | same | above
  · simp [below, below.ne, below.not_gt]
  · simp [same]
  · simp [above, above.ne', above.not_gt]

end Shelf

/-- The keys of each bucket. -/
abbrev Shelves := String → Shelf

namespace Shelves

def held (shelves : Shelves) : Holdings := fun bucket => (shelves bucket).keys.toFinset

/-- The first so many of the pending keys. -/
def page (size : Nat) (pending : List String) : Page where
  items := (pending.take size).map (ObjectInfo.file · 0)
  truncated := decide (size < pending.length)
  token := if size < pending.length then (pending.take size).getLast? else none

theorem keys_page (size : Nat) (pending : List String) :
    (page size pending).keys = pending.take size := by
  simp [page, Page.keys, ObjectInfo.file, Function.comp_def]

theorem page_shows {size : Nat} (roomy : 0 < size) (pending : List String) :
    (page size pending).Shows pending where
  run := by
    rw [keys_page]
    exact List.take_prefix ..
  progress nothing := by
    rw [keys_page, List.take_eq_nil_iff] at nothing
    exact nothing.resolve_left (by omega)
  truncated := by
    rw [keys_page, page, ne_eq, List.take_eq_self_iff]
    simp
  token cut := by
    have longer : size < pending.length := by simpa [page] using cut
    rw [keys_page, page, if_pos longer]

/-- How many keys a page has room for: no more than asked for, but one at least. -/
def room (most : Nat) (options : ListOptions) : Nat :=
  max 1 ((options.maxKeys.map Int.toNat).elim most (min most))

/-- A store over shelves with its own bound on the size of a page. -/
def store (most : Nat) : Store Shelves where
  list path options shelves :=
    (.ok (page (room most options) ((shelves path.bucket).keys.filter fun key =>
      path.Covers key ∧ After options.token key)), shelves)
  delete bucket keys shelves :=
    (.ok keys, Function.update shelves bucket ((shelves bucket).without keys))
  put path _ _ shelves :=
    (.ok (ObjectInfo.file path.key 0),
      Function.update shelves path.bucket ((shelves path.bucket).insert path.key))

def connector (most : Nat) : Connector Shelves where
  connect shelves := (.ok (store most), shelves)

theorem pending_held (shelves : Shelves) (path : RemotePath) (token : Option String) :
    shelves.held.pending path token =
      (shelves path.bucket).keys.filter fun key => path.Covers key ∧ After token key := by
  have sorted := (shelves path.bucket).sorted.filter fun key => path.Covers key ∧ After token key
  have same : (shelves.held.under path).filter (After token) =
      ((shelves path.bucket).keys.filter fun key => path.Covers key ∧ After token key).toFinset := by
    ext key
    simp [held, and_assoc]
  rw [Holdings.pending, same, List.toFinset_sort _ (sorted.imp ne_of_lt)]
  exact sorted.imp le_of_lt

theorem store_obliging (most : Nat) : (store most).Obliging held where
  list := by
    intro path options state page next answered
    cases answered
    rw [pending_held]
    exact ⟨rfl, page_shows (by simp [room]) _⟩
  delete := by
    intro bucket keys state gone next answered
    cases answered
    funext other
    ext key
    by_cases same : other = bucket
    · subst other
      simp [held, Shelf.mem_without, Holdings.without]
    · simp [held, Holdings.without, same]
  lists path options state roomy := by
    refine ⟨_, _, rfl, ?_⟩
    intro most' asked
    have positive := roomy most' asked
    rw [keys_page, List.length_take]
    simp only [room, Option.mem_def.mp asked, Option.map_some, Option.elim_some]
    omega
  deletes _ _ _ := ⟨_, rfl⟩

theorem connector_obliging (most : Nat) : (connector most).Obliging held where
  connects _ := ⟨_, _, rfl, rfl, store_obliging most⟩

/-- Other clients reach the shelves themselves. -/
def editing : Editing held where
  edit shelves change :=
    Function.update shelves change.bucket <|
      if change.present then (shelves change.bucket).insert change.key
      else (shelves change.bucket).without [change.key]
  held_edit shelves change := by
    funext bucket
    ext key
    rw [Holdings.mem_edited]
    by_cases same : bucket = change.bucket
    · subst bucket
      simp only [held, Function.update_self, List.mem_toFinset, Edit.Touches, true_and]
      split
      · rw [Shelf.mem_insert]
        grind
      · rw [Shelf.mem_without]
        grind
    · simp [held, Edit.Touches, same, Ne.symm same]

end Shelves

end Haulage
