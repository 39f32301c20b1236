import Mathlib.Data.List.Nodup
import Mathlib.Tactic

/-! One pass over a list of items: each gets a verdict that depends on the items admitted before it, and the
verdicts can be read from the state at the end. -/

namespace Passes

variable {σ ρ κ ν : Type*} {step : σ → ρ → σ} {key : ρ → κ} {mark : σ → κ → Option ν} {verdict : List ρ → ρ → ν}
  {admits : ν → Bool} {holds : List ρ → σ → Prop} {good : ρ → Prop}

section Columns

variable {β : Type*}

lemma foldl_tally (count : σ → ℕ) {p : ρ → Bool} (hstep : ∀ s a, count (step s a) = count s + if p a then 1 else 0)
    (s : σ) (l : List ρ) : count (l.foldl step s) = count s + l.countP p := by
  induction l generalizing s with
  | nil => rfl
  | cons a l ih =>
    rw [List.foldl_cons, ih, hstep, List.countP_cons]
    omega

lemma foldl_sum (count : σ → ℕ) {f : ρ → ℕ} (hstep : ∀ s a, count (step s a) = count s + f a) (s : σ) (l : List ρ) :
    count (l.foldl step s) = count s + (l.map f).sum := by
  induction l generalizing s with
  | nil => rfl
  | cons a l ih => rw [List.foldl_cons, ih, hstep, List.map_cons, List.sum_cons, Nat.add_assoc]

lemma foldl_constant (column : σ → β) (hstep : ∀ s a, column (step s a) = column s) (s : σ) (l : List ρ) :
    column (l.foldl step s) = column s := by
  induction l generalizing s with
  | nil => rfl
  | cons a l ih => rw [List.foldl_cons, ih, hstep]

lemma foldl_collect (column : σ → List β) {f : ρ → β} (hstep : ∀ s a, column (step s a) = column s ++ [f a]) (s : σ)
    (l : List ρ) : column (l.foldl step s) = column s ++ l.map f := by
  induction l generalizing s with
  | nil => exact (List.append_nil _).symm
  | cons a l ih => rw [List.foldl_cons, ih, hstep, List.append_assoc, List.map_cons, List.singleton_append]

lemma foldl_update [DecidableEq κ] (column : σ → κ → Option ν) {f : ρ → ν}
    (hstep : ∀ s a, column (step s a) = Function.update (column s) (key a) (some (f a)))
    (s : σ) {l : List ρ} (hnodup : (l.map key).Nodup) (k : κ) :
    column (l.foldl step s) k = ((l.find? (fun a => key a = k)).map f).or (column s k) := by
  induction l generalizing s with
  | nil => rfl
  | cons a l ih =>
    rw [List.map_cons, List.nodup_cons] at hnodup
    rw [List.foldl_cons, ih _ hnodup.2, hstep]
    by_cases hk : key a = k
    · subst hk
      have hnone : l.find? (fun b => key b = key a) = none := by
        refine List.find?_eq_none.mpr (fun b hb hsame => hnodup.1 ?_)
        rw [← of_decide_eq_true hsame]
        exact List.mem_map_of_mem hb
      rw [hnone, List.find?_cons_of_pos (by simp), Function.update_self, Option.map_none, Option.none_or, Option.map_some,
        Option.some_or]
    · rw [List.find?_cons_of_neg (by simpa using hk), Function.update_of_ne (Ne.symm hk)]

end Columns

/-- What one step of a pass does. `holds acc` says what the items `acc` have made of the state. -/
structure Step (step : σ → ρ → σ) (key : ρ → κ) (mark : σ → κ → Option ν) (verdict : List ρ → ρ → ν)
    (admits : ν → Bool) (holds : List ρ → σ → Prop) (good : ρ → Prop) : Prop where
  keeps : ∀ acc s r, good r → holds acc s →
    holds (if admits (verdict acc r) then acc ++ [r] else acc) (step s r)
  marks : ∀ acc s r, good r → holds acc s → mark (step s r) (key r) = some (verdict acc r)
  frame : ∀ acc s r k, good r → holds acc s → k ≠ key r → mark (step s r) k = mark s k

variable (h : Step step key mark verdict admits holds good)

include h

lemma foldl_frame (acc : List ρ) (s : σ) (hs : holds acc s) {rows : List ρ} (hgood : ∀ r ∈ rows, good r) {k : κ}
    (hk : k ∉ rows.map key) : mark (rows.foldl step s) k = mark s k := by
  induction rows generalizing acc s with
  | nil => rfl
  | cons r rest ih =>
    obtain ⟨hr, hrest⟩ := List.forall_mem_cons.mp hgood
    rw [List.map_cons, List.mem_cons, not_or] at hk
    rw [List.foldl_cons, ih _ _ (h.keeps acc s r hr hs) hrest hk.2, h.frame acc s r k hr hs hk.1]

theorem foldl_verdict (acc : List ρ) (s : σ) (hs : holds acc s) {rows : List ρ} (hgood : ∀ r ∈ rows, good r)
    (hnodup : (rows.map key).Nodup) {front back : List ρ} {r : ρ} (hsplit : rows = front ++ r :: back) :
    mark (rows.foldl step s) (key r) =
      some (verdict (acc ++ front.filter (fun b => (mark (rows.foldl step s) (key b)).any admits)) r) := by
  induction front generalizing acc s rows with
  | nil =>
    obtain rfl : rows = r :: back := hsplit
    obtain ⟨hr, hback⟩ := List.forall_mem_cons.mp hgood
    rw [List.map_cons, List.nodup_cons] at hnodup
    rw [List.foldl_cons, foldl_frame h _ _ (h.keeps acc s r hr hs) hback hnodup.1, h.marks acc s r hr hs, List.filter_nil,
      List.append_nil]
  | cons b front ih =>
    obtain rfl : rows = b :: (front ++ r :: back) := hsplit
    obtain ⟨hb, hrest⟩ := List.forall_mem_cons.mp hgood
    rw [List.map_cons, List.nodup_cons] at hnodup
    have hfirst : mark ((b :: (front ++ r :: back)).foldl step s) (key b) = some (verdict acc b) := by
      rw [List.foldl_cons, foldl_frame h _ _ (h.keeps acc s b hb hs) hrest hnodup.1, h.marks acc s b hb hs]
    rw [List.filter_cons, hfirst, Option.any_some]
    have hlater := ih _ _ (h.keeps acc s b hb hs) hrest hnodup.2 rfl
    rw [List.foldl_cons, hlater]
    split_ifs
    · rw [List.append_assoc, List.singleton_append]
    · rfl

end Passes
