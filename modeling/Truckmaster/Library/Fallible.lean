import Truckmaster.Library.Runs

/-! Commands that check before they write: what an accepted one did, and services that keep their
state when a command is refused. -/

namespace Fallible

open Runs

universe u

variable {ε σ κ : Type*} {α β : Type u}

def ensure (p : Prop) [Decidable p] (e : ε) : Except ε Unit := if p then .ok () else .error e

def require (o : Option α) (e : ε) : Except ε α := o.elim (.error e) .ok

lemma bind_eq_ok {x : Except ε α} {f : α → Except ε β} {b : β} :
    (x >>= f) = .ok b ↔ ∃ a, x = .ok a ∧ f a = .ok b := by
  cases x <;> simp [bind, Except.bind]

lemma pure_eq_ok {a b : α} : (pure a : Except ε α) = .ok b ↔ a = b := by
  simp [pure, Except.pure]

lemma map_eq_ok {x : Except ε α} {f : α → β} {b : β} : f <$> x = .ok b ↔ ∃ a, x = .ok a ∧ f a = b := by
  cases x <;> simp [Functor.map, Except.map]

lemma map_eq_error {x : Except ε α} {f : α → β} {e : ε} : f <$> x = .error e ↔ x = .error e := by
  cases x <;> simp [Functor.map, Except.map]

lemma ensure_eq_ok {p : Prop} [Decidable p] {e : ε} {u : Unit} : ensure p e = .ok u ↔ p := by
  by_cases h : p <;> simp [ensure, h]

lemma require_eq_ok {o : Option α} {e : ε} {a : α} : require o e = .ok a ↔ o = some a := by
  cases o <;> simp [require]

lemma bind_eq_error {x : Except ε α} {f : α → Except ε β} {e : ε} :
    (x >>= f) = .error e ↔ x = .error e ∨ ∃ a, x = .ok a ∧ f a = .error e := by
  cases x <;> simp [bind, Except.bind]

lemma pure_ne_error {a : α} {e : ε} : (pure a : Except ε α) ≠ .error e := by
  simp [pure, Except.pure]

lemma ensure_eq_error {p : Prop} [Decidable p] {e e' : ε} : ensure p e = .error e' ↔ ¬ p ∧ e = e' := by
  by_cases h : p <;> simp [ensure, h]

lemma ensure_of {p : Prop} [Decidable p] {e : ε} (h : p) : ensure p e = .ok () := if_pos h

lemma ensure_not {p : Prop} [Decidable p] {e : ε} (h : ¬ p) : ensure p e = .error e := if_neg h

@[simp] lemma ok_bind {a : α} {f : α → Except ε β} : (Except.ok a >>= f) = f a := rfl

lemma mapM_eq_ok {f : α → Except ε β} {xs : List α} {ys : List β} :
    xs.mapM f = .ok ys ↔ List.Forall₂ (fun x y => f x = .ok y) xs ys := by
  induction xs generalizing ys with
  | nil => rw [List.mapM_nil, pure_eq_ok, List.forall₂_nil_left_iff, eq_comm]
  | cons x xs ih =>
    rw [List.mapM_cons, bind_eq_ok, List.forall₂_cons_left_iff]
    refine exists_congr (fun y => ?_)
    rw [bind_eq_ok]
    constructor
    · rintro ⟨hx, rest, hrest, hys⟩
      exact ⟨rest, hx, ih.mp hrest, (pure_eq_ok.mp hys).symm⟩
    · rintro ⟨rest, hx, hrest, rfl⟩
      exact ⟨hx, rest, ih.mpr hrest, rfl⟩

lemma exists_mapM_ok {f : α → Except ε β} {xs : List α} (h : ∀ x ∈ xs, ∃ y, f x = .ok y) : ∃ ys, xs.mapM f = .ok ys := by
  induction xs with
  | nil => exact ⟨[], rfl⟩
  | cons x xs ih =>
    obtain ⟨y, hy⟩ := h x List.mem_cons_self
    obtain ⟨ys, hys⟩ := ih (fun x hx => h x (List.mem_cons_of_mem _ hx))
    exact ⟨y :: ys, mapM_eq_ok.mpr (.cons hy (mapM_eq_ok.mp hys))⟩

def accepted (x : Except ε α) (h : x.toOption.isSome) : α := x.toOption.get h

lemma eq_accepted {x : Except ε α} (h : x.toOption.isSome) : x = .ok (accepted x h) := by
  cases x with
  | error e => cases h
  | ok a => rfl

/-- The state after a command that may be refused: a refusal leaves it as it was. -/
def attempt (exec : κ → σ → Except ε σ) (s : σ) (k : κ) : σ := (exec k s).toOption.getD s

lemma attempt_cases (exec : κ → σ → Except ε σ) (s : σ) (k : κ) :
    attempt exec s k = s ∨ exec k s = .ok (attempt exec s k) := by
  cases h : exec k s with
  | error e => simp [attempt, h, Except.toOption]
  | ok t => simp [attempt, h, Except.toOption]

lemma attempt_of_ok {exec : κ → σ → Except ε σ} {s t : σ} {k : κ} (h : exec k s = .ok t) :
    attempt exec s k = t := by simp [attempt, h, Except.toOption]

abbrev Serving (exec : κ → σ → Except ε σ) : σ → κ → σ → Prop := Total (attempt exec)

lemma serving_invariant {exec : κ → σ → Except ε σ} {P : σ → Prop}
    (hexec : ∀ s k t, P s → exec k s = .ok t → P t) {s t : σ} {ks : List κ}
    (h : Run (Serving exec) s ks t) (hs : P s) : P t := by
  refine h.invariant (fun a k b ha hb => ?_) hs
  obtain rfl := hb
  rcases attempt_cases exec a k with hrefused | hok
  · rw [hrefused]
    exact ha
  · exact hexec a k _ ha hok

end Fallible
