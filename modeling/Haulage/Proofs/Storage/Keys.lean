import Haulage.Proofs.Storage.Log
import Mathlib.Data.Finset.Sort
import Mathlib.Data.String.Basic

/-! Stores seen as finite sets of keys, one for each bucket. A truthful store answers, if at all, with
a sorted run of the keys it holds at that moment; an obliging one answers every call. -/
namespace Haulage

/-- A path covers the keys that begin with its own. -/
def RemotePath.Covers (path : RemotePath) (key : String) : Prop :=
  path.key.toList <+: key.toList

instance (path : RemotePath) : DecidablePred path.Covers := fun key =>
  inferInstanceAs (Decidable (path.key.toList <+: key.toList))

/-- Every key comes after no token. -/
def After (token : Option String) (key : String) : Prop := ∀ last ∈ token, last < key

instance (token : Option String) : DecidablePred (After token) := fun key =>
  inferInstanceAs (Decidable (∀ last ∈ token, last < key))

/-- The keys held in each bucket. -/
abbrev Holdings := String → Finset String

namespace Holdings

variable {holdings : Holdings} {path : RemotePath} {token : Option String} {keys : List String}
  {bucket key : String}

/-- The keys that a path covers. -/
def under (holdings : Holdings) (path : RemotePath) : Finset String :=
  (holdings path.bucket).filter path.Covers

/-- The keys that a path covers and that come after a token, in order. -/
def pending (holdings : Holdings) (path : RemotePath) (token : Option String) : List String :=
  ((holdings.under path).filter (After token)).sort

/-- What is held without some keys of one bucket. -/
def without (holdings : Holdings) (bucket : String) (keys : List String) : Holdings :=
  Function.update holdings bucket (holdings bucket \ keys.toFinset)

/-- What is held without any key that a path covers. -/
def cleared (holdings : Holdings) (path : RemotePath) : Holdings :=
  Function.update holdings path.bucket ((holdings path.bucket).filter fun key => ¬ path.Covers key)

@[simp]
theorem mem_under : key ∈ holdings.under path ↔ key ∈ holdings path.bucket ∧ path.Covers key :=
  Finset.mem_filter

@[simp]
theorem mem_pending :
    key ∈ holdings.pending path token ↔ key ∈ holdings.under path ∧ After token key := by
  rw [pending, Finset.mem_sort, Finset.mem_filter]

theorem pairwise_pending (holdings : Holdings) (path : RemotePath) (token : Option String) :
    (holdings.pending path token).Pairwise (· < ·) :=
  (Finset.sortedLT_sort _).pairwise

@[simp]
theorem mem_without {other : String} :
    key ∈ holdings.without bucket keys other ↔
      key ∈ holdings other ∧ ¬ (other = bucket ∧ key ∈ keys) := by
  by_cases same : other = bucket
  · subst other
    simp [without]
  · simp [without, same]

theorem mem_cleared :
    key ∈ holdings.cleared path bucket ↔
      key ∈ holdings bucket ∧ ¬ (bucket = path.bucket ∧ path.Covers key) := by
  by_cases same : bucket = path.bucket
  · subst bucket
    simp [cleared]
  · simp [cleared, same]

@[simp]
theorem without_nil : holdings.without bucket [] = holdings := by
  simp [without]

theorem without_append (first second : List String) :
    holdings.without bucket (first ++ second) =
      (holdings.without bucket first).without bucket second := by
  funext other
  ext key
  simp only [mem_without, List.mem_append]
  tauto

theorem under_without : (holdings.without path.bucket keys).under path =
    holdings.under path \ keys.toFinset := by
  ext key
  simp
  tauto

theorem cleared_without (covered : ∀ key ∈ keys, path.Covers key) :
    (holdings.without path.bucket keys).cleared path = holdings.cleared path := by
  funext bucket
  by_cases same : bucket = path.bucket
  · subst bucket
    ext key
    simp only [cleared, Function.update_self, Finset.mem_filter, mem_without]
    exact ⟨fun ⟨⟨held, _⟩, other⟩ => ⟨held, other⟩,
      fun ⟨held, other⟩ => ⟨⟨held, fun ⟨_, member⟩ => other (covered key member)⟩, other⟩⟩
  · simp [cleared, without, same]

theorem cleared_of_under_eq_empty (empty : holdings.under path = ∅) :
    holdings.cleared path = holdings := by
  rw [cleared, Finset.filter_true_of_mem, Function.update_eq_self]
  intro key held covered
  have member := mem_under.mpr ⟨held, covered⟩
  simp [empty] at member

end Holdings

/-- The page begins the pending keys, with one of them at least while there are any. It is cut short
exactly when some are left out, and then the listing goes on behind its last key. -/
structure Page.Shows (page : Page) (pending : List String) : Prop where
  run : page.keys <+: pending
  progress : page.keys = [] → pending = []
  truncated : page.truncated = true ↔ page.keys ≠ pending
  token : page.truncated = true → page.token = page.keys.getLast?

namespace Page.Shows

variable {page : Page} {pending : List String} {key next : String}

theorem covers {holdings : Holdings} {path : RemotePath} {token : Option String}
    (shows : page.Shows (holdings.pending path token)) (member : key ∈ page.keys) :
    path.Covers key :=
  (Holdings.mem_under.mp (Holdings.mem_pending.mp (shows.run.subset member)).1).2

theorem keys_eq_of_next?_eq_none (shows : page.Shows pending) (ended : page.next? = none) :
    page.keys = pending := by
  by_contra cut
  have truncated := shows.truncated.mpr cut
  rw [Page.next?, if_pos truncated, shows.token truncated, List.getLast?_eq_none_iff] at ended
  exact cut (ended.trans (shows.progress ended).symm)

theorem getLast?_eq_of_next?_eq_some (shows : page.Shows pending)
    (going : page.next? = some next) : page.keys.getLast? = some next := by
  by_cases truncated : page.truncated = true
  · rw [← shows.token truncated]
    simpa [Page.next?, truncated] using going
  · simp [Page.next?, truncated] at going

theorem card_without {holdings : Holdings} {path : RemotePath} {token : Option String}
    (shows : page.Shows (holdings.pending path token)) :
    ((holdings.without path.bucket page.keys).under path).card + page.keys.length =
      (holdings.under path).card := by
  have nodup := (holdings.pairwise_pending path token).imp ne_of_lt |>.sublist shows.run.sublist
  have inside : page.keys.toFinset ⊆ holdings.under path := by
    intro key member
    have pending := shows.run.subset (List.mem_toFinset.mp member)
    exact (Holdings.mem_pending.mp pending).1
  rw [Holdings.under_without, ← List.toFinset_card_of_nodup nodup,
    Finset.card_sdiff_add_card_eq_card inside]

/-- No key slips between two pages. -/
theorem mem_or_lt (shows : page.Shows pending) (sorted : pending.Pairwise (· < ·))
    (going : page.next? = some next) (member : key ∈ pending) : key ∈ page.keys ∨ next < key := by
  obtain ⟨rest, whole⟩ := shows.run
  rw [← whole, List.mem_append] at member
  rcases member with shown | later
  · exact .inl shown
  · right
    rw [← whole, List.pairwise_append] at sorted
    exact sorted.2.2 next (List.mem_of_getLast? (shows.getLast?_eq_of_next?_eq_some going)) key later

/-- After the last page nothing is left, if nothing lay before its token. -/
theorem under_without_eq_empty {holdings : Holdings} {path : RemotePath} {token : Option String}
    (shows : page.Shows (holdings.pending path token))
    (ahead : ∀ key ∈ holdings.under path, After token key) (ended : page.next? = none) :
    (holdings.without path.bucket page.keys).under path = ∅ := by
  rw [Holdings.under_without, Finset.sdiff_eq_empty_iff_subset]
  intro key member
  rw [List.mem_toFinset, shows.keys_eq_of_next?_eq_none ended, Holdings.mem_pending]
  exact ⟨member, ahead key member⟩

/-- What another page leaves comes after its own token. -/
theorem after_of_mem_without {holdings : Holdings} {path : RemotePath} {token : Option String}
    (shows : page.Shows (holdings.pending path token))
    (ahead : ∀ key ∈ holdings.under path, After token key) (going : page.next? = some next)
    (member : key ∈ (holdings.without path.bucket page.keys).under path) :
    After (some next) key := by
  rw [Holdings.under_without, Finset.mem_sdiff, List.mem_toFinset] at member
  obtain ⟨member, unshown⟩ := member
  have pending := Holdings.mem_pending.mpr ⟨member, ahead key member⟩
  have later := (shows.mem_or_lt (Holdings.pairwise_pending ..) going pending).resolve_left unshown
  simpa [After] using later

end Page.Shows

variable {σ : Type}

/-- The answers that a store does give are true of the keys that it holds. -/
structure Store.Truthful (store : Store σ) (held : σ → Holdings) : Prop where
  list : ∀ {path options state page next}, store.list path options state = (.ok page, next) →
    held next = held state ∧ page.Shows ((held state).pending path options.token)
  delete : ∀ {bucket keys state gone next}, store.delete bucket keys state = (.ok gone, next) →
    held next = (held state).without bucket keys

/-- A truthful store that answers every call with room for a key, with no more keys than asked for,
and that echoes the keys it removes. -/
structure Store.Obliging (store : Store σ) (held : σ → Holdings) : Prop
    extends store.Truthful held where
  lists : ∀ path options state, (∀ most ∈ options.maxKeys, 0 < most) →
    ∃ page next, store.list path options state = (.ok page, next) ∧
      ∀ most ∈ options.maxKeys, (page.keys.length : Int) ≤ most
  deletes : ∀ bucket keys state, ∃ next, store.delete bucket keys state = (.ok keys, next)

structure Connector.Truthful (connector : Connector σ) (held : σ → Holdings) : Prop where
  connect : ∀ {state store next}, connector.connect state = (.ok store, next) →
    held next = held state ∧ store.Truthful held

structure Connector.Obliging (connector : Connector σ) (held : σ → Holdings) : Prop where
  connects : ∀ state, ∃ store next, connector.connect state = (.ok store, next) ∧
    held next = held state ∧ store.Obliging held

theorem Connector.Obliging.truthful {connector : Connector σ} {held : σ → Holdings}
    (obliging : connector.Obliging held) : connector.Truthful held where
  connect := by
    intro state store next answered
    obtain ⟨store, next, connected, unchanged, serving⟩ := obliging.connects state
    rw [answered] at connected
    cases connected
    exact ⟨unchanged, serving.toTruthful⟩

end Haulage
