import Truckmaster.Library.ReadCommitted

/-! Sessions that read a clock, and the rule for what each of them knows while the clock moves on. -/

namespace ReadCommitted

open Runs

structure Clocked (T D K I L W : Type*) where
  now : T
  state : State D K I L W

inductive ClockedEvent (T I : Type*)
  | tick (now : T)
  | session (e : Event I)

variable {T D K I L W : Type*} [LE T] [DecidableLE T] [DecidableEq I] [DecidableEq K] {c : T → Code D K L W}

/-- The clock never goes back; a session runs the code for the time it meets. -/
def clockedStep (c : T → Code D K L W) (s : Clocked T D K I L W) : ClockedEvent T I → Option (Clocked T D K I L W)
  | .tick now => if s.now ≤ now then some { s with now } else none
  | .session e => (step (c s.now) s.state e).map (fun t => { s with state := t })

structure Holds (P : T → D → Prop) (Q : I → T → D → Session L W → Prop) (s : Clocked T D K I L W) : Prop where
  committed : P s.now s.state.committed
  sessions : ∀ i, Q i s.now s.state.committed (s.state.session i)

/-- The steps of a session carry on what it knows, and the guard keeps the clock and the commits of the others from
making it false. -/
structure KnowsAt (c : T → Code D K L W) (guard : Clocked T D K I L W → ClockedEvent T I → Prop) (P : T → D → Prop)
    (Q : I → T → D → Session L W → Prop) : Prop where
  tick : ∀ (s : Clocked T D K I L W) now, guard s (.tick now) → s.now ≤ now → Holds P Q s → Holds P Q { s with now }
  statement : ∀ (s : Clocked T D K I L W) i r, guard s (.session (.advance i)) → Holds P Q s →
    ((c s.now).action (s.state.session i).frame).moves (visible (c s.now) s.state i) = some r →
    Q i s.now s.state.committed ⟨r.1, (s.state.session i).writes ++ r.2⟩
  commit : ∀ (s : Clocked T D K I L W) i next, guard s (.session (.advance i)) → Holds P Q s →
    (c s.now).action (s.state.session i).frame = .commit next →
    P s.now (visible (c s.now) s.state i) ∧ Q i s.now (visible (c s.now) s.state i) ⟨next, []⟩ ∧
      ∀ j, j ≠ i → Q j s.now (visible (c s.now) s.state i) (s.state.session j)
  abort : ∀ (s : Clocked T D K I L W) i next, Holds P Q s →
    ((c s.now).action (s.state.session i).frame = .rollback next ∨ next = (c s.now).fail (s.state.session i).frame) →
    Q i s.now s.state.committed ⟨next, []⟩

section Rules

variable {guard : Clocked T D K I L W → ClockedEvent T I → Prop} {P : T → D → Prop}
  {Q : I → T → D → Session L W → Prop} {s t : Clocked T D K I L W} {es : List (ClockedEvent T I)}

omit [DecidableLE T] in
lemma KnowsAt.session_step (hQ : KnowsAt c guard P Q) {u : State D K I L W} {e : Event I} (hs : Holds P Q s)
    (hguard : guard s (.session e)) (h : step (c s.now) s.state e = some u) : Holds P Q { s with state := u } := by
  have hended (i : I) (d : D) (next : L) (hd : P s.now d) (hown : Q i s.now d ⟨next, []⟩)
      (hothers : ∀ j, j ≠ i → Q j s.now d (s.state.session j)) : Holds P Q { s with state := s.state.finish i d next } := by
    refine ⟨hd, fun j => ?_⟩
    by_cases hji : j = i
    · subst hji
      simpa only [State.finish, Function.update_self] using hown
    · simpa only [State.finish, Function.update_of_ne hji] using hothers j hji
  have hmoved (i : I) (owner : K → Option I) (r : L × List W)
      (hown : Q i s.now s.state.committed ⟨r.1, (s.state.session i).writes ++ r.2⟩) :
      Holds P Q { s with state := { s.state.write i r with owner } } := by
    refine ⟨hs.committed, fun j => ?_⟩
    by_cases hji : j = i
    · subst hji
      simpa only [State.write, Function.update_self] using hown
    · simpa only [State.write, Function.update_of_ne hji] using hs.sessions j
  cases e with
  | fail i =>
    obtain rfl := Option.some.inj h
    exact hended i _ _ hs.committed (hQ.abort s i _ hs (Or.inr rfl)) (fun j _ => hs.sessions j)
  | advance i =>
    cases haction : (c s.now).action (s.state.session i).frame with
    | run next =>
      simp only [step, haction, Option.some.injEq] at h
      subst h
      refine hmoved i s.state.owner _ (hQ.statement s i _ hguard hs ?_)
      rw [haction]
      rfl
    | lock row next =>
      simp only [step, haction, Option.ite_none_right_eq_some, Option.some.injEq] at h
      obtain ⟨_, rfl⟩ := h
      refine hmoved i (s.state.take i row).owner _ (hQ.statement s i _ hguard hs ?_)
      rw [haction]
      rfl
    | commit next =>
      simp only [step, haction, Option.some.injEq] at h
      subst h
      obtain ⟨hd, hown, hothers⟩ := hQ.commit s i next hguard hs haction
      exact hended i _ _ hd hown hothers
    | rollback next =>
      simp only [step, haction, Option.some.injEq] at h
      subst h
      exact hended i _ _ hs.committed (hQ.abort s i next hs (Or.inl haction)) (fun j _ => hs.sessions j)
    | stop => simp only [step, haction, reduceCtorEq] at h

lemma KnowsAt.step (hQ : KnowsAt c guard P Q) {e : ClockedEvent T I} (hs : Holds P Q s) (hguard : guard s e)
    (h : clockedStep c s e = some t) : Holds P Q t := by
  cases e with
  | tick now =>
    simp only [clockedStep, Option.ite_none_right_eq_some, Option.some.injEq] at h
    obtain ⟨hle, rfl⟩ := h
    exact hQ.tick s now hguard hle hs
  | session e =>
    obtain ⟨u, hstep, rfl⟩ := Option.map_eq_some_iff.mp h
    exact hQ.session_step hs hguard hstep

theorem KnowsAt.run (hQ : KnowsAt c guard P Q) (h₀ : Holds P Q s)
    (h : Run (Guarded (Enabled (clockedStep c)) guard) s es t) : Holds P Q t :=
  h.invariant (fun _ _ _ hs he => hQ.step hs he.2 he.1) h₀

end Rules

end ReadCommitted
