import Truckmaster.Library.ReadCommitted

/-! A row that every session locks before it writes it: the writes of at most one session are open on it. -/

namespace ReadCommitted

variable {D K I L W : Type*} [DecidableEq I] [DecidableEq K] {c : Code D K L W} {k : K} {touches : W → Prop}
  {s t : State D K I L W} {e : Event I} {i j : I}

/-- The code writes what `touches` the row `k` only in a statement that locks it. -/
structure Locks (c : Code D K L W) (k : K) (touches : W → Prop) : Prop where
  run : ∀ f next d, c.action f = .run next → ∀ w ∈ (next d).2, ¬ touches w
  lock : ∀ f row next d, c.action f = .lock row next → row ≠ k → ∀ w ∈ (next d).2, ¬ touches w

def Guards (s : State D K I L W) (k : K) (touches : W → Prop) : Prop :=
  ∀ i, (∃ w ∈ (s.session i).writes, touches w) → s.owner k = some i

omit [DecidableEq I] [DecidableEq K] in
lemma guards_begin (d : D) (frame : I → L) : Guards (begin d frame : State D K I L W) k touches := by
  rintro i ⟨w, hw, _⟩
  cases hw

omit [DecidableEq I] [DecidableEq K] in
lemma Guards.alone (h : Guards s k touches) (hi : ∃ w ∈ (s.session i).writes, touches w)
    (hj : ∃ w ∈ (s.session j).writes, touches w) : i = j :=
  Option.some.inj ((h i hi).symm.trans (h j hj))

omit [DecidableEq K] in
lemma finish_session (s : State D K I L W) (i : I) (d : D) (l : L) :
    (s.finish i d l).session = Function.update s.session i ⟨l, []⟩ := rfl

omit [DecidableEq K] in
lemma write_session (s : State D K I L W) (i : I) (r : L × List W) :
    (s.write i r).session = Function.update s.session i ⟨r.1, (s.session i).writes ++ r.2⟩ := rfl

omit [DecidableEq K] in
lemma Guards.finish (h : Guards s k touches) (d : D) (l : L) : Guards (s.finish i d l) k touches := by
  intro j hj
  by_cases hij : j = i
  · subst hij
    obtain ⟨w, hw, _⟩ := hj
    rw [finish_session, Function.update_self] at hw
    cases hw
  · rw [finish_session, Function.update_of_ne hij] at hj
    have howner := h j hj
    exact (if_neg (fun heq => hij (Option.some.inj (howner.symm.trans heq)))).trans howner

omit [DecidableEq K] in
lemma Guards.write (h : Guards s k touches) (owner : K → Option I) {r : L × List W}
    (howner : ∀ j, s.owner k = some j → owner k = some j)
    (hr : (∃ w ∈ r.2, touches w) → owner k = some i) :
    Guards { s.write i r with owner } k touches := by
  intro j hj
  by_cases hij : j = i
  · subst hij
    obtain ⟨w, hw, htouch⟩ := hj
    dsimp only at hw
    rw [write_session, Function.update_self] at hw
    rcases List.mem_append.mp hw with hold | hnew
    · exact howner j (h j ⟨w, hold, htouch⟩)
    · exact hr ⟨w, hnew, htouch⟩
  · dsimp only at hj
    rw [write_session, Function.update_of_ne hij] at hj
    exact howner j (h j hj)

lemma Locks.guards (hc : Locks c k touches) (h : Guards s k touches) (hstep : step c s e = some t) :
    Guards t k touches := by
  cases e with
  | fail i =>
    obtain rfl := Option.some.inj hstep
    exact h.finish _ _
  | advance i =>
    cases ha : c.action (s.session i).frame with
    | run next =>
      simp only [step, ha, Option.some.injEq] at hstep
      subst hstep
      refine h.write s.owner (fun _ hj => hj) ?_
      rintro ⟨w, hw, htouch⟩
      exact absurd htouch (hc.run _ _ _ ha w hw)
    | lock row next =>
      simp only [step, ha, Option.ite_none_right_eq_some, Option.some.injEq] at hstep
      obtain ⟨hfree, rfl⟩ := hstep
      refine h.write (s.take i row).owner (fun j hj => ?_) ?_
      · by_cases hrow : row = k
        · subst hrow
          rcases hfree with hnone | hown
          · cases hnone.symm.trans hj
          · obtain rfl := Option.some.inj (hown.symm.trans hj)
            exact Function.update_self ..
        · exact (Function.update_of_ne (Ne.symm hrow) _ _).trans hj
      · rintro ⟨w, hw, htouch⟩
        by_cases hrow : row = k
        · subst hrow
          exact Function.update_self ..
        · exact absurd htouch (hc.lock _ _ _ _ ha hrow w hw)
    | commit next =>
      simp only [step, ha, Option.some.injEq] at hstep
      subst hstep
      exact h.finish _ _
    | rollback next =>
      simp only [step, ha, Option.some.injEq] at hstep
      subst hstep
      exact h.finish _ _
    | stop => simp [step, ha] at hstep

end ReadCommitted
