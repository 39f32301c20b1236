import Truckmaster.Library.Runs

/-! Deterministic systems that answer their events, and when the answers to some of the events do not depend on the
others. -/

namespace Noninterference

open Runs

variable {σ ε ο : Type*}

def answers (serve : σ → ε → σ × ο) (mine : ε → Bool) : σ → List ε → List ο
  | _, [] => []
  | s, e :: es =>
    if mine e then (serve s e).2 :: answers serve mine (serve s e).1 es else answers serve mine (serve s e).1 es

/-- `R` relates the states of a run to those of the run in which only the events of `mine` take place. -/
structure Unwinding (serve : σ → ε → σ × ο) (guard : σ → ε → Prop) (mine : ε → Bool) (R : σ → σ → Prop) : Prop where
  answered {s t : σ} {e : ε} : R s t → guard s e → mine e = true → (serve s e).2 = (serve t e).2
  kept {s t : σ} {e : ε} : R s t → guard s e → mine e = true → R (serve s e).1 (serve t e).1
  ignored {s t : σ} {e : ε} : R s t → guard s e → mine e = false → R (serve s e).1 t

variable {serve : σ → ε → σ × ο} {guard : σ → ε → Prop} {mine : ε → Bool} {R : σ → σ → Prop}

lemma Unwinding.run (h : Unwinding serve guard mine R) {s t u : σ} {es : List ε} (hR : R s t)
    (hrun : Run (Guarded (Total (fun s e => (serve s e).1)) guard) s es u) :
    answers serve mine s es = answers serve mine t (es.filter mine) ∧
      R u ((es.filter mine).foldl (fun s e => (serve s e).1) t) := by
  induction hrun generalizing t with
  | nil => exact ⟨rfl, hR⟩
  | cons he _ ih =>
    obtain ⟨rfl, hguard⟩ := he
    rename_i e _ _
    cases hmine : mine e with
    | true =>
      obtain ⟨hanswers, hlast⟩ := ih (h.kept hR hguard hmine)
      simp only [List.filter_cons_of_pos hmine, answers, hmine, if_true, List.foldl_cons]
      exact ⟨List.cons_eq_cons.mpr ⟨h.answered hR hguard hmine, hanswers⟩, hlast⟩
    | false =>
      obtain ⟨hanswers, hlast⟩ := ih (h.ignored hR hguard hmine)
      have hother : ¬ mine e = true := by simp [hmine]
      simp only [List.filter_cons_of_neg hother, answers, hmine, Bool.false_eq_true, if_false]
      exact ⟨hanswers, hlast⟩

lemma Unwinding.answers_eq (h : Unwinding serve guard mine R) {s t u : σ} {es : List ε} (hR : R s t)
    (hrun : Run (Guarded (Total (fun s e => (serve s e).1)) guard) s es u) :
    answers serve mine s es = answers serve mine t (es.filter mine) := (h.run hR hrun).1

end Noninterference
