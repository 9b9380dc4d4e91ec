import Haulage.Proofs.Storage.Keys

/-! One call that goes wrong. Calls are counted, and the one that is struck reports a fault. Nothing
comes of it, save that a deletion may have removed some of its keys by then. -/
namespace Haulage

structure Mishap where
  /-- The number of calls made before the one that is struck. -/
  call : Nat
  fault : Fault
  /-- The keys that a struck deletion removes all the same. -/
  removes : String → Bool

variable {σ α : Type} {mishap : Mishap}

/-- The answer with the calls counted; in place of the struck one there is a fault, and what it left
behind. -/
def Answer.struck (answer : Answer σ α) (mishap : Mishap) (remains : σ → σ) : Answer (σ × Nat) α :=
  fun (state, made) =>
    if made = mishap.call then (.error mishap.fault, remains state, made + 1)
    else
      let (result, state) := answer state
      (result, state, made + 1)

/-- What a struck deletion leaves behind. -/
def Mishap.remains (mishap : Mishap) (store : Store σ) (bucket : String) (keys : List String)
    (state : σ) : σ :=
  match keys.filter mishap.removes with
  | [] => state
  | removed => (store.delete bucket removed state).2

def Store.struck (store : Store σ) (mishap : Mishap) : Store (σ × Nat) where
  list path options := (store.list path options).struck mishap id
  delete bucket keys := (store.delete bucket keys).struck mishap (mishap.remains store bucket keys)
  put path source tree := (store.put path source tree).struck mishap id

def Connector.struck (connector : Connector σ) (mishap : Mishap) : Connector (σ × Nat) where
  connect := fun state =>
    let (result, state) := connector.connect.struck mishap id state
    (result.map (·.struck mishap), state)

theorem Answer.struck_of_ne {answer : Answer σ α} {state next : σ} {result : Except Fault α}
    {made : Nat} (answered : answer state = (result, next)) (remains : σ → σ)
    (other : made ≠ mishap.call) :
    answer.struck mishap remains (state, made) = (result, next, made + 1) := by
  simp only [Answer.struck, if_neg other, answered]

theorem Answer.struck_here {made : Nat} (here : made = mishap.call) (answer : Answer σ α)
    (remains : σ → σ) (state : σ) :
    answer.struck mishap remains (state, made) =
      (.error mishap.fault, remains state, mishap.call + 1) := by
  simp only [Answer.struck, here, if_true]

/-- A struck answer is the fault or the answer. -/
theorem Answer.of_struck {answer : Answer σ α} {remains : σ → σ} {start after : σ × Nat}
    {result : Except Fault α} (answered : answer.struck mishap remains start = (result, after)) :
    (result = .error mishap.fault ∧ after.1 = remains start.1) ∨
      answer start.1 = (result, after.1) := by
  obtain ⟨state, made⟩ := start
  by_cases here : made = mishap.call
  · rw [Answer.struck_here here] at answered
    cases answered
    exact .inl ⟨rfl, rfl⟩
  · match plain : answer state with
    | (heard, next) =>
      rw [Answer.struck_of_ne plain remains here] at answered
      cases answered
      exact .inr rfl

theorem Connector.struck_of_ne {connector : Connector σ} {state next : σ} {made : Nat}
    {result : Except Fault (Store σ)} (answered : connector.connect state = (result, next))
    (other : made ≠ mishap.call) :
    (connector.struck mishap).connect (state, made) =
      (result.map (·.struck mishap), next, made + 1) := by
  simp only [Connector.struck, Answer.struck_of_ne answered id other]

theorem Connector.struck_here {made : Nat} (here : made = mishap.call) (connector : Connector σ)
    (state : σ) :
    (connector.struck mishap).connect (state, made) =
      (.error mishap.fault, state, mishap.call + 1) := by
  simp only [Connector.struck, Answer.struck_here here, Except.map, id]

/-- A truthful store whose failures do no more than was asked: where a listing fails nothing changes,
where a deletion fails nothing goes but keys of its own. -/
structure Store.Contained (store : Store σ) (held : σ → Holdings) : Prop
    extends store.Truthful held where
  unlisted : ∀ {path options state fault next}, (∀ most ∈ options.maxKeys, 0 < most) →
    store.list path options state = (.error fault, next) → held next = held state
  undeleted : ∀ {bucket keys state fault next}, store.delete bucket keys state = (.error fault, next) →
    ∃ removed, removed ⊆ keys ∧ held next = (held state).without bucket removed

namespace Store.Obliging

variable {store : Store σ} {held : σ → Holdings}

theorem held_remains (obliging : store.Obliging held) (mishap : Mishap) (bucket : String)
    (keys : List String) (state : σ) :
    held (mishap.remains store bucket keys state) =
      (held state).without bucket (keys.filter mishap.removes) := by
  obtain ⟨next, deleted⟩ := obliging.deletes bucket (keys.filter mishap.removes) state
  unfold Mishap.remains
  split
  case h_1 none => rw [none, Holdings.without_nil]
  case h_2 => rw [deleted, obliging.delete deleted]

theorem struck_contained (obliging : store.Obliging held) (mishap : Mishap) :
    (store.struck mishap).Contained fun state => held state.1 where
  list := by
    intro path options state page next answered
    rcases Answer.of_struck answered with ⟨failed, _⟩ | plain
    · cases failed
    · exact obliging.list plain
  delete := by
    intro bucket keys state gone next answered
    rcases Answer.of_struck answered with ⟨failed, _⟩ | plain
    · cases failed
    · exact obliging.delete plain
  unlisted := by
    intro path options state fault next roomy answered
    rcases Answer.of_struck answered with ⟨_, same⟩ | plain
    · rw [same, id]
    · obtain ⟨_, _, listed, _⟩ := obliging.lists path options state.1 roomy
      cases plain.symm.trans listed
  undeleted := by
    intro bucket keys state fault next answered
    rcases Answer.of_struck answered with ⟨_, same⟩ | plain
    · exact ⟨keys.filter mishap.removes, List.filter_subset_self keys, by
        rw [same, obliging.held_remains]⟩
    · obtain ⟨_, deleted⟩ := obliging.deletes bucket keys state.1
      cases plain.symm.trans deleted

end Store.Obliging

/-- Of the keys that a path covers some may be gone; nothing else has happened. -/
structure Holdings.Thinned (path : RemotePath) (before after : Holdings) : Prop where
  subset : ∀ bucket, after bucket ⊆ before bucket
  covers : ∀ {bucket key}, key ∈ before bucket → key ∉ after bucket →
    bucket = path.bucket ∧ path.Covers key

namespace Holdings.Thinned

variable {path : RemotePath} {before middle after : Holdings}

theorem refl (holdings : Holdings) : Thinned path holdings holdings where
  subset _ := Finset.Subset.refl _
  covers present absent := absurd present absent

theorem trans (first : Thinned path before middle) (second : Thinned path middle after) :
    Thinned path before after where
  subset bucket := (second.subset bucket).trans (first.subset bucket)
  covers {bucket key} present absent := by
    by_cases between : key ∈ middle bucket
    · exact second.covers between absent
    · exact first.covers present between

theorem without {keys : List String} (covered : ∀ key ∈ keys, path.Covers key) :
    Thinned path before (before.without path.bucket keys) where
  subset _ _ member := (mem_without.mp member).1
  covers {bucket key} present absent := by
    rw [mem_without, not_and, not_not] at absent
    obtain ⟨here, named⟩ := absent present
    exact ⟨here, covered key named⟩

/-- What has to remain is the same. -/
theorem cleared_eq (thinned : Thinned path before after) :
    after.cleared path = before.cleared path := by
  funext bucket
  ext key
  rw [mem_cleared, mem_cleared]
  constructor
  · rintro ⟨held, outside⟩
    exact ⟨thinned.subset bucket held, outside⟩
  · rintro ⟨held, outside⟩
    exact ⟨by_contra fun gone => outside (thinned.covers held gone), outside⟩

theorem card_under_le (thinned : Thinned path before after) :
    (after.under path).card ≤ (before.under path).card := by
  apply Finset.card_le_card
  intro key member
  obtain ⟨held, covered⟩ := mem_under.mp member
  exact mem_under.mpr ⟨thinned.subset _ held, covered⟩

end Holdings.Thinned

end Haulage
