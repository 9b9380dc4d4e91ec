import Haulage.Proofs.Storage.Shelves

/-! Stores that also take in what is put: once a put has succeeded, the bucket holds its key. -/
namespace Haulage

/-- A truthful store that holds what it says is stored. -/
structure Store.Filling {σ : Type} (store : Store σ) (held : σ → Holdings) : Prop
    extends store.Truthful held where
  put : ∀ {path source files state info next},
    store.put path source files state = (.ok info, next) →
    held next = (held state).edited ⟨path.bucket, path.key, true⟩

structure Connector.Filling {σ : Type} (connector : Connector σ) (held : σ → Holdings) : Prop where
  connect : ∀ {state store next}, connector.connect state = (.ok store, next) →
    held next = held state ∧ store.Filling held

theorem Connector.Filling.truthful {σ : Type} {connector : Connector σ} {held : σ → Holdings}
    (filling : connector.Filling held) : connector.Truthful held where
  connect answered := by
    obtain ⟨unchanged, serving⟩ := filling.connect answered
    exact ⟨unchanged, serving.toTruthful⟩

theorem Holdings.mem_edited_put (holdings : Holdings) (bucket key : String) :
    key ∈ holdings.edited ⟨bucket, key, true⟩ bucket := by
  rw [Holdings.mem_edited, if_pos ⟨rfl, rfl⟩]

namespace Shelves

theorem store_filling (most : Nat) : (store most).Filling held where
  toTruthful := (store_obliging most).toTruthful
  put := by
    intro path source files state info next answered
    cases answered
    exact editing.held_edit state ⟨path.bucket, path.key, true⟩

theorem connector_filling (most : Nat) : (connector most).Filling held where
  connect answered := by
    cases answered
    exact ⟨rfl, store_filling most⟩

end Shelves

end Haulage
