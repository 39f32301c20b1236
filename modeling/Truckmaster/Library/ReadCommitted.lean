import Truckmaster.Library.Runs

/-! Transactions under READ COMMITTED: each statement sees the rows committed when it runs and the
writes of its own transaction, and a row written by one open transaction is locked for the others. -/

namespace ReadCommitted

open Runs

/-- What a session does next. A statement over several rows is one `lock` for each row it found. -/
inductive Action (D K L W : Type*)
  | run (next : D → L × List W)
  | lock (row : K) (next : D → L × List W)
  | commit (next : L)
  | rollback (next : L)
  | stop

namespace Action

variable {D K L W : Type*}

def moves : Action D K L W → D → Option (L × List W)
  | .run next, d => some (next d)
  | .lock _ next, d => some (next d)
  | _, _ => none

def ends : Action D K L W → Option L
  | .commit next => some next
  | .rollback next => some next
  | _ => none

def commits : Action D K L W → Bool
  | .commit _ => true
  | _ => false

variable {D' K' L' W' : Type*}

def within (view : D' → D) (row : K → K') (frame : L → L') (write : W → W') : Action D K L W → Action D' K' L' W'
  | .run next => .run fun d => (frame (next (view d)).1, (next (view d)).2.map write)
  | .lock k next => .lock (row k) fun d => (frame (next (view d)).1, (next (view d)).2.map write)
  | .commit next => .commit (frame next)
  | .rollback next => .rollback (frame next)
  | .stop => .stop

variable {view : D' → D} {row : K → K'} {frame : L → L'} {write : W → W'} {a : Action D K L W}

lemma within_moves {d : D'} {r : L' × List W'} (h : (a.within view row frame write).moves d = some r) :
    ∃ next, r.1 = frame next := by
  cases a with
  | run next => exact ⟨(next (view d)).1, (congrArg Prod.fst (Option.some.inj h)).symm⟩
  | lock k next => exact ⟨(next (view d)).1, (congrArg Prod.fst (Option.some.inj h)).symm⟩
  | commit next => cases h
  | rollback next => cases h
  | stop => cases h

lemma within_ends {l : L'} (h : (a.within view row frame write).ends = some l) : ∃ next, l = frame next := by
  cases a with
  | run next => cases h
  | lock k next => cases h
  | commit next => exact ⟨next, (Option.some.inj h).symm⟩
  | rollback next => exact ⟨next, (Option.some.inj h).symm⟩
  | stop => cases h

end Action

/-- Session code over a database `D` with lockable rows `K`, local frames `L` and row writes `W`.
A session whose connection or transaction is lost goes on from `fail`. -/
structure Code (D K L W : Type*) where
  action : L → Action D K L W
  apply : W → D → D
  fail : L → L

structure Session (L W : Type*) where
  frame : L
  writes : List W

structure State (D K I L W : Type*) where
  committed : D
  owner : K → Option I
  session : I → Session L W

inductive Event (I : Type*)
  | advance (i : I)
  | fail (i : I)

variable {D K I L W : Type*} [DecidableEq I]

def begin (d : D) (frame : I → L) : State D K I L W where
  committed := d
  owner _ := none
  session i := ⟨frame i, []⟩

namespace State

variable (s : State D K I L W) (i : I)

def write (r : L × List W) : State D K I L W :=
  { s with session := Function.update s.session i ⟨r.1, (s.session i).writes ++ r.2⟩ }

def take [DecidableEq K] (row : K) : State D K I L W :=
  { s with owner := Function.update s.owner row (some i) }

def finish (d : D) (frame : L) : State D K I L W where
  committed := d
  owner row := if s.owner row = some i then none else s.owner row
  session := Function.update s.session i ⟨frame, []⟩

end State

variable (c : Code D K L W)

namespace Code

def applyAll (ws : List W) (d : D) : D := ws.foldl (fun d w => c.apply w d) d

@[simp] lemma applyAll_nil (d : D) : c.applyAll [] d = d := rfl
@[simp] lemma applyAll_cons (w : W) (ws : List W) (d : D) :
    c.applyAll (w :: ws) d = c.applyAll ws (c.apply w d) := rfl

lemma applyAll_append (ws vs : List W) (d : D) :
    c.applyAll (ws ++ vs) d = c.applyAll vs (c.applyAll ws d) := List.foldl_append ..

lemma applyAll_preserves {P : D → Prop} (hw : ∀ w d, P d → P (c.apply w d)) (ws : List W) (d : D)
    (hd : P d) : P (c.applyAll ws d) := by
  induction ws generalizing d with
  | nil => exact hd
  | cons w ws ih => exact ih _ (hw w d hd)

end Code

def visible (s : State D K I L W) (i : I) : D := c.applyAll (s.session i).writes s.committed

variable [DecidableEq K]

def step (s : State D K I L W) : Event I → Option (State D K I L W)
  | .advance i =>
    match c.action (s.session i).frame with
    | .run next => some (s.write i (next (visible c s i)))
    | .lock row next =>
      if s.owner row = none ∨ s.owner row = some i then
        some ((s.take i row).write i (next (visible c s i)))
      else none
    | .commit next => some (s.finish i (visible c s i) next)
    | .rollback next => some (s.finish i s.committed next)
    | .stop => none
  | .fail i => some (s.finish i s.committed (c.fail (s.session i).frame))

lemma step_committed {s t : State D K I L W} {e : Event I} (h : step c s e = some t) :
    t.committed = s.committed ∨ ∃ i next, e = .advance i ∧
      c.action (s.session i).frame = .commit next ∧ t = s.finish i (visible c s i) next := by
  cases e with
  | fail i =>
    obtain rfl := Option.some.inj h
    exact Or.inl rfl
  | advance i =>
    cases ha : c.action (s.session i).frame with
    | run next =>
      simp only [step, ha, Option.some.injEq] at h
      subst h
      exact Or.inl rfl
    | lock row next =>
      simp only [step, ha, Option.ite_none_right_eq_some, Option.some.injEq] at h
      obtain ⟨_, rfl⟩ := h
      exact Or.inl rfl
    | commit next =>
      simp only [step, ha, Option.some.injEq] at h
      exact Or.inr ⟨i, next, rfl, ha, h.symm⟩
    | rollback next =>
      simp only [step, ha, Option.some.injEq] at h
      subst h
      exact Or.inl rfl
    | stop => simp [step, ha] at h

lemma step_session {s t : State D K I L W} {e : Event I} (h : step c s e = some t) :
    ∃ i x, t.session = Function.update s.session i x ∧
      ((∃ r, (c.action (s.session i).frame).moves (visible c s i) = some r ∧
        x = ⟨r.1, (s.session i).writes ++ r.2⟩) ∨
      (∃ next, ((c.action (s.session i).frame).ends = some next ∨ next = c.fail (s.session i).frame) ∧
        x = ⟨next, []⟩)) := by
  cases e with
  | fail i =>
    obtain rfl := Option.some.inj h
    exact ⟨i, _, rfl, Or.inr ⟨_, Or.inr rfl, rfl⟩⟩
  | advance i =>
    cases ha : c.action (s.session i).frame with
    | run next =>
      simp only [step, ha, Option.some.injEq] at h
      subst h
      exact ⟨i, _, rfl, Or.inl ⟨_, by rw [ha]; rfl, rfl⟩⟩
    | lock row next =>
      simp only [step, ha, Option.ite_none_right_eq_some, Option.some.injEq] at h
      obtain ⟨_, rfl⟩ := h
      exact ⟨i, _, rfl, Or.inl ⟨_, by rw [ha]; rfl, rfl⟩⟩
    | commit next =>
      simp only [step, ha, Option.some.injEq] at h
      subst h
      exact ⟨i, _, rfl, Or.inr ⟨next, Or.inl (by rw [ha]; rfl), rfl⟩⟩
    | rollback next =>
      simp only [step, ha, Option.some.injEq] at h
      subst h
      exact ⟨i, _, rfl, Or.inr ⟨next, Or.inl (by rw [ha]; rfl), rfl⟩⟩
    | stop => simp [step, ha] at h

section Rules

variable {s₀ s : State D K I L W} {es : List (Event I)}

/-- What a session knows of the rows: each write of anyone leaves it true, and each statement of its own
extends it from the rows it sees. -/
structure Knows (Q : I → D → Session L W → Prop) : Prop where
  stable : ∀ i d x w, Q i d x → Q i (c.apply w d) x
  statement : ∀ i d f ws r, Q i d ⟨f, ws⟩ → (c.action f).moves (c.applyAll ws d) = some r → Q i d ⟨r.1, ws ++ r.2⟩
  ending : ∀ i d f ws next, Q i d ⟨f, ws⟩ → ((c.action f).ends = some next ∨ next = c.fail f) → Q i d ⟨next, []⟩

variable {c}

lemma Knows.step {Q : I → D → Session L W → Prop} (hQ : Knows c Q) {t : State D K I L W} {e : Event I}
    (hs : ∀ i, Q i s.committed (s.session i)) (h : step c s e = some t) (i : I) : Q i t.committed (t.session i) := by
  have hcommitted : ∀ x, Q i s.committed x → Q i t.committed x := by
    intro x hx
    rcases step_committed c h with hc | ⟨j, next, _, _, rfl⟩
    · rwa [hc]
    · exact c.applyAll_preserves (P := fun d => Q i d x) (fun w d hd => hQ.stable i d x w hd) _ _ hx
  apply hcommitted
  obtain ⟨j, x, hsession, hx⟩ := step_session c h
  rw [hsession]
  by_cases hij : i = j
  · subst hij
    rw [Function.update_self]
    rcases hx with ⟨r, hact, rfl⟩ | ⟨next, hact, rfl⟩
    · exact hQ.statement i _ _ _ _ (hs i) hact
    · exact hQ.ending i _ _ _ next (hs i) hact
  · rw [Function.update_of_ne hij]
    exact hs i

lemma Knows.run {Q : I → D → Session L W → Prop} (hQ : Knows c Q) (h₀ : ∀ i, Q i s₀.committed (s₀.session i))
    (h : Run (Enabled (ReadCommitted.step c)) s₀ es s) (i : I) : Q i s.committed (s.session i) :=
  h.invariant (P := fun s => ∀ i, Q i s.committed (s.session i)) (fun _ _ _ hs he => hQ.step hs he) h₀ i

lemma Knows.committed {Q : I → D → Session L W → Prop} {P : D → Prop} {guard : State D K I L W → Event I → Prop}
    (hQ : Knows c Q) (hcommit : ∀ s i next, c.action (s.session i).frame = .commit next → guard s (.advance i) →
      Q i s.committed (s.session i) → P s.committed → P (visible c s i))
    (h₀ : ∀ i, Q i s₀.committed (s₀.session i)) (hP : P s₀.committed)
    (h : Run (Guarded (Enabled (ReadCommitted.step c)) guard) s₀ es s) : P s.committed := by
  have hboth : P s.committed ∧ ∀ i, Q i s.committed (s.session i) := by
    refine h.invariant (P := fun s => P s.committed ∧ ∀ i, Q i s.committed (s.session i)) ?_ ⟨hP, h₀⟩
    rintro a e b ⟨ha, hq⟩ ⟨he, hguard⟩
    refine ⟨?_, hQ.step hq he⟩
    rcases step_committed c he with hc | ⟨i, next, rfl, hact, rfl⟩
    · rwa [hc]
    · exact hcommit a i next hact hguard (hq i) ha
  exact hboth.1

/-- What session code does from `x` on the rows `d` while no other session takes a step. -/
inductive Alone (c : Code D K L W) (d : D) : Session L W → D → L → Prop
  | moves {x : Session L W} {r : L × List W} {d' : D} {l : L}
      (h : (c.action x.frame).moves (c.applyAll x.writes d) = some r)
      (rest : Alone c d ⟨r.1, x.writes ++ r.2⟩ d' l) : Alone c d x d' l
  | commit {x : Session L W} {l : L} (h : c.action x.frame = .commit l) : Alone c d x (c.applyAll x.writes d) l
  | rollback {x : Session L W} {l : L} (h : c.action x.frame = .rollback l) : Alone c d x d l

omit [DecidableEq I] [DecidableEq K] in
lemma Alone.writes {d d' : D} {f f' l : L} {ws vs : List W}
    (h : (c.action f).moves (c.applyAll ws d) = some (f', vs)) (rest : Alone c d ⟨f', ws ++ vs⟩ d' l) :
    Alone c d ⟨f, ws⟩ d' l := .moves h rest

omit [DecidableEq I] [DecidableEq K] in
lemma Alone.reads {d d' : D} {f f' l : L} {ws : List W} (h : (c.action f).moves (c.applyAll ws d) = some (f', []))
    (rest : Alone c d ⟨f', ws⟩ d' l) : Alone c d ⟨f, ws⟩ d' l := by
  apply Alone.writes h
  rwa [List.append_nil]

lemma step_moves {i : I} {r : L × List W} (hfree : ∀ row, s.owner row = none ∨ s.owner row = some i)
    (h : (c.action (s.session i).frame).moves (visible c s i) = some r) :
    ∃ t, step c s (.advance i) = some t ∧ t.committed = s.committed ∧
      t.session i = ⟨r.1, (s.session i).writes ++ r.2⟩ ∧ ∀ row, t.owner row = none ∨ t.owner row = some i := by
  cases ha : c.action (s.session i).frame with
  | run next =>
    rw [ha] at h
    obtain rfl := Option.some.inj h
    refine ⟨s.write i (next (visible c s i)), ?_, rfl, Function.update_self .., hfree⟩
    simp only [step, ha]
  | lock row next =>
    rw [ha] at h
    obtain rfl := Option.some.inj h
    refine ⟨(s.take i row).write i (next (visible c s i)), ?_, rfl, Function.update_self .., fun row' => ?_⟩
    · simp only [step, ha, if_pos (hfree row)]
    · by_cases hrow : row' = row
      · subst hrow
        exact Or.inr (Function.update_self ..)
      · have hsame : ((s.take i row).write i (next (visible c s i))).owner row' = s.owner row' :=
          Function.update_of_ne hrow ..
        rw [hsame]
        exact hfree row'
  | commit next => simp [ha, Action.moves] at h
  | rollback next => simp [ha, Action.moves] at h
  | stop => simp [ha, Action.moves] at h

lemma Alone.run {x : Session L W} {d d' : D} {l : L} (h : Alone c d x d' l) {s : State D K I L W} {i : I}
    (hd : s.committed = d) (hx : s.session i = x) (hfree : ∀ row, s.owner row = none ∨ s.owner row = some i) :
    ∃ n t, Run (Enabled (ReadCommitted.step c)) s (List.replicate n (.advance i)) t ∧ t.committed = d' ∧
      t.session i = ⟨l, []⟩ ∧ ∀ row, t.owner row = none := by
  have hreleased (d' : D) (l : L) (s : State D K I L W)
      (hfree : ∀ row, s.owner row = none ∨ s.owner row = some i) (row : K) : (s.finish i d' l).owner row = none := by
    rcases hfree row with hnone | hown
    · exact (if_neg (hnone ▸ nofun)).trans hnone
    · exact if_pos hown
  induction h generalizing s with
  | moves h _ ih =>
    subst hd hx
    obtain ⟨t, hstep, hcommitted, hsession, howner⟩ := step_moves hfree h
    obtain ⟨n, u, hrun, hend⟩ := ih hcommitted hsession howner
    exact ⟨n + 1, u, .cons hstep hrun, hend⟩
  | @commit x l h =>
    subst hd hx
    refine ⟨1, s.finish i (visible c s i) l, .single ?_, rfl, Function.update_self .., hreleased _ _ s hfree⟩
    simp only [Enabled, ReadCommitted.step, h]
  | @rollback x l h =>
    subst hd hx
    refine ⟨1, s.finish i s.committed l, .single ?_, rfl, Function.update_self .., hreleased _ _ s hfree⟩
    simp only [Enabled, ReadCommitted.step, h]

lemma Alone.run_begin {d d' : D} {l : L} {i : I} (frame : I → L) (h : Alone c d ⟨frame i, []⟩ d' l) :
    ∃ n t, Run (Enabled (ReadCommitted.step c)) (begin d frame : State D K I L W) (List.replicate n (.advance i)) t ∧
      t.committed = d' ∧ t.session i = ⟨l, []⟩ := by
  obtain ⟨n, t, hrun, hcommitted, hsession, _⟩ := h.run (s := begin d frame) rfl rfl (fun _ => Or.inl rfl)
  exact ⟨n, t, hrun, hcommitted, hsession⟩

end Rules

end ReadCommitted
