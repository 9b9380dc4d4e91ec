import Haulage.Proofs.Storage.Keys
import Haulage.Storage.Rehearsal

/-! Stores whose listings come to an end, whatever is deleted in between: something is left over
after each page that has a next one, and less of it than before the page. -/
namespace Haulage

variable {σ : Type} {path : RemotePath}

/-- A listing that goes on takes from what is left below the path behind a token; a deletion adds
nothing to it. -/
structure Store.Exhaustible (store : Store σ) (path : RemotePath)
    (left : Option String → σ → Nat) : Prop where
  list : ∀ {options state page next listed}, store.list path options state = (.ok page, listed) →
    page.next? = some next → left (some next) listed < left options.token state
  delete : ∀ {bucket keys state result next}, store.delete bucket keys state = (result, next) →
    ∀ token, left token next ≤ left token state

structure Connector.Exhaustible (connector : Connector σ) (path : RemotePath)
    (left : Option String → σ → Nat) : Prop where
  connect : ∀ {state store next}, connector.connect state = (.ok store, next) →
    left none next ≤ left none state ∧ store.Exhaustible path left

/-- Replies laid down beforehand are used up. -/
theorem Rehearsal.connector_exhaustible (path : RemotePath) :
    Rehearsal.connector.Exhaustible path fun _ script => script.lists.length where
  connect := by
    intro state store next answered
    simp only [Rehearsal.connector] at answered
    generalize state.connects.head?.join = reply at answered
    cases reply with
    | some fault => cases answered
    | none =>
      cases answered
      refine ⟨Nat.le_refl _, ?_, ?_⟩
      · rintro options ⟨connects, lists, deletes, puts⟩ page next listed answered going
        cases lists with
        | nil =>
          cases answered
          cases going
        | cons reply rest =>
          cases answered
          exact Nat.lt_succ_self _
      · intro bucket keys state result next answered token
        cases answered
        exact Nat.le_refl _

namespace Holdings

variable {holdings : Holdings} {token : Option String} {keys : List String} {next : String}

theorem length_pending_without_le (bucket : String) :
    ((holdings.without bucket keys).pending path token).length ≤
      (holdings.pending path token).length := by
  rw [pending, pending, Finset.length_sort, Finset.length_sort]
  apply Finset.card_le_card
  intro key member
  simp only [Finset.mem_filter, mem_under, mem_without] at member ⊢
  exact ⟨⟨member.1.1.1, member.1.2⟩, member.2⟩

/-- Behind a pending key there are fewer. -/
theorem length_pending_lt (member : next ∈ holdings.pending path token) :
    (holdings.pending path (some next)).length < (holdings.pending path token).length := by
  obtain ⟨held, after⟩ := mem_pending.mp member
  rw [pending, pending, Finset.length_sort, Finset.length_sort]
  apply Finset.card_lt_card
  refine Finset.ssubset_iff_subset_ne.mpr ⟨?_, ?_⟩
  · intro key later
    obtain ⟨present, beyond⟩ := Finset.mem_filter.mp later
    exact Finset.mem_filter.mpr ⟨present, fun last same => (after last same).trans (beyond next rfl)⟩
  · intro same
    have itself : next ∈ (holdings.under path).filter (After token) :=
      Finset.mem_filter.mpr ⟨held, after⟩
    rw [← same] at itself
    exact lt_irrefl next ((Finset.mem_filter.mp itself).2 next rfl)

end Holdings

/-- Pages of finitely many keys run out of keys. -/
theorem Connector.Obliging.exhaustible {connector : Connector σ} {held : σ → Holdings}
    (obliging : connector.Obliging held) (path : RemotePath) :
    connector.Exhaustible path fun token state => ((held state).pending path token).length where
  connect := by
    intro state store next answered
    obtain ⟨_, _, connected, unchanged, serving⟩ := obliging.connects state
    rw [answered] at connected
    cases connected
    refine ⟨by rw [unchanged], ?_, ?_⟩
    · intro options state page next listed answered going
      obtain ⟨unchanged, shows⟩ := serving.list answered
      rw [unchanged]
      exact Holdings.length_pending_lt (shows.run.subset
        (List.mem_of_getLast? (shows.getLast?_eq_of_next?_eq_some going)))
    · intro bucket keys state result next answered token
      obtain ⟨_, deleted⟩ := serving.deletes bucket keys state
      rw [answered] at deleted
      cases deleted
      rw [serving.delete answered]
      exact Holdings.length_pending_without_le bucket

end Haulage
