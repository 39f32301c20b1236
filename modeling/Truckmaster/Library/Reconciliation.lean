import Mathlib.Data.List.Nodup
import Mathlib.Tactic

/-! Passes that visit one item after another, each visit settling the cells that belong to its item. -/

namespace Reconciliation

structure Visits (σ ι κ α β : Type) where
  visit : σ → ι → σ
  cell : σ → κ → α
  view : σ → β
  owns : ι → κ → Prop
  settle : ι → β → κ → α → α
  view_visit : ∀ s i, view (visit s i) = view s
  cell_owned : ∀ s i k, owns i k → cell (visit s i) k = settle i (view s) k (cell s k)
  cell_other : ∀ s i k, ¬ owns i k → cell (visit s i) k = cell s k

namespace Visits

variable {σ ι κ α β : Type} (v : Visits σ ι κ α β)

def Apart (items : List ι) : Prop := items.Pairwise (fun i j => ∀ k, v.owns i k → ¬ v.owns j k)

lemma apart_of_keys (items : List ι) {γ : Type} (key : ι → γ) (hkeys : (items.map key).Nodup)
    (howns : ∀ i j k, v.owns i k → v.owns j k → key i = key j) : v.Apart items := by
  rw [List.Nodup, List.pairwise_map] at hkeys
  exact hkeys.imp (fun hne k hi hj => hne (howns _ _ k hi hj))

lemma cell_foldl_other (items : List ι) (s : σ) (k : κ) (hk : ∀ i ∈ items, ¬ v.owns i k) :
    v.cell (items.foldl v.visit s) k = v.cell s k := by
  induction items generalizing s with
  | nil => rfl
  | cons i rest ih =>
    rw [List.foldl_cons, ih _ (fun j hj => hk j (List.mem_cons_of_mem i hj))]
    exact v.cell_other s i k (hk i List.mem_cons_self)

lemma cell_foldl_owned (items : List ι) (s : σ) (hapart : v.Apart items) {i : ι} (hi : i ∈ items) {k : κ}
    (hk : v.owns i k) : v.cell (items.foldl v.visit s) k = v.settle i (v.view s) k (v.cell s k) := by
  induction items generalizing s with
  | nil => cases hi
  | cons j rest ih =>
    obtain ⟨hhead, hrest⟩ := List.pairwise_cons.mp hapart
    rw [List.foldl_cons]
    rcases List.mem_cons.mp hi with rfl | hmem
    · rw [v.cell_foldl_other rest _ k (fun m hm => hhead m hm k hk)]
      exact v.cell_owned s i k hk
    · have hother : ¬ v.owns j k := fun hj => hhead i hmem k hj hk
      rw [ih (v.visit s j) hrest hmem, v.view_visit, v.cell_other s j k hother]

end Visits

lemma foldl_at_rest {σ ι : Type} (visit : σ → ι → σ) (items : List ι) (s : σ)
    (h : ∀ i ∈ items, visit s i = s) : items.foldl visit s = s := by
  induction items with
  | nil => rfl
  | cons i rest ih =>
    rw [List.foldl_cons, h i List.mem_cons_self]
    exact ih (fun j hj => h j (List.mem_cons_of_mem i hj))

end Reconciliation
