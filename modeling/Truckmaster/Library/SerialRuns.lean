import Mathlib.Order.WellFounded
import Truckmaster.Library.Transactions

/-! Sessions that commit only while no other one is under way leave what the same transactions leave one after
another, and each serial order is such a run. -/

namespace Transactions

open ReadCommitted Runs

variable {D K ε α : Type} {W : Type*}

/-- The statements of `p` that see the rows `d` have led to `q`, and have written `ws`. -/
inductive Reaches (apply : W → D → D) (d : D) (p : Txn D K W ε α) : Txn D K W ε α → List W → Prop
  | start : Reaches apply d p p []
  | statement {row : Option K} {writes : D → List W} {next : D → Txn D K W ε α} {ws : List W}
      (h : Reaches apply d p (.statement row writes next) ws) :
      Reaches apply d p (next (ws.foldl (fun d w => apply w d) d)) (ws ++ writes (ws.foldl (fun d w => apply w d) d))

inductive Below : Txn D K W ε α → Txn D K W ε α → Prop
  | next (row : Option K) (writes : D → List W) (next : D → Txn D K W ε α) (d : D) :
      Below (next d) (.statement row writes next)

lemma below_wellFounded : WellFounded (Below : Txn D K W ε α → Txn D K W ε α → Prop) := by
  refine ⟨fun p => ?_⟩
  induction p with
  | done a => exact ⟨_, nofun⟩
  | throw e => exact ⟨_, nofun⟩
  | statement row writes next ih =>
    refine ⟨_, fun q hq => ?_⟩
    cases hq with
    | next _ _ _ d => exact ih d

section Reaches

variable {apply : W → D → D} {d : D} {p q : Txn D K W ε α} {ws : List W}

lemma Reaches.run (h : Reaches apply d p q ws) : p.run apply d = q.run apply (ws.foldl (fun d w => apply w d) d) := by
  induction h with
  | start => rfl
  | statement h ih => rw [ih, List.foldl_append, Txn.run]

lemma Reaches.self_or_below (h : Reaches apply d p q ws) : q = p ∧ ws = [] ∨ Relation.TransGen Below q p := by
  induction h with
  | start => exact Or.inl ⟨rfl, rfl⟩
  | statement h ih =>
    right
    rcases ih with ⟨rfl, rfl⟩ | hbelow
    · exact .single (.next _ _ _ _)
    · exact .head (.next _ _ _ _) hbelow

lemma Reaches.self (h : Reaches apply d p p ws) : ws = [] := by
  rcases h.self_or_below with ⟨_, hnil⟩ | hbelow
  · exact hnil
  · exact absurd hbelow (below_wellFounded.transGen.irrefl.irrefl p)

lemma Reaches.of_throw {e : ε} (h : Reaches apply d (.throw e) q ws) : q = .throw e := by
  induction h with
  | start => rfl
  | statement _ ih => cases ih

lemma Reaches.of_read {row : Option K} {next : D → Txn D K W ε α}
    (h : Reaches apply d (.statement row (fun _ => []) next) q ws) :
    q = .statement row (fun _ => []) next ∨ Reaches apply d (next d) q ws := by
  induction h with
  | start => exact Or.inl rfl
  | statement h ih =>
    right
    rcases ih with hfirst | hreached
    · obtain ⟨rfl, rfl, rfl⟩ := Txn.statement.inj hfirst
      obtain rfl := h.self
      exact .start
    · exact hreached.statement

lemma foldl_related {R : D → D → Prop} (hR : ∀ w d d', R d d' → R (apply w d) (apply w d')) {d' : D} (hd : R d d')
    (ws : List W) : R (ws.foldl (fun d w => apply w d) d) (ws.foldl (fun d w => apply w d) d') := by
  induction ws generalizing d d' with
  | nil => exact hd
  | cons w ws ih => exact ih (hR w d d' hd)

lemma Reaches.transfer {R : D → D → Prop} (hR : ∀ w d d', R d d' → R (apply w d) (apply w d')) {d' : D} (hd : R d d')
    (hp : p.BlindTo R) (h : Reaches apply d p q ws) : Reaches apply d' p q ws ∧ q.BlindTo R := by
  induction h with
  | start => exact ⟨.start, hp⟩
  | @statement row writes next ws h ih =>
    obtain ⟨hreaches, hblind⟩ := ih
    obtain ⟨hwrites, hnext, hrest⟩ := hblind _ _ (foldl_related hR hd ws)
    refine ⟨?_, hrest⟩
    rw [hwrites, hnext]
    exact hreaches.statement

end Reaches

section Sessions

variable {I : Type} [DecidableEq I] [DecidableEq K] {apply : W → D → D} {lost : ε} {requests : I → Txn D K W ε α}
  {d₀ : D} {s t : State D K I (Frame D K W ε α) W} {e : Event I} {es : List (Event I)} {i : I}

def Underway (requests : I → Txn D K W ε α) (s : State D K I (Frame D K W ε α) W) (i : I) : Prop :=
  ∃ p, (s.session i).frame = .running p ∧ p ≠ requests i ∧ ∀ e, p ≠ .throw e

def CommitsAlone (requests : I → Txn D K W ε α) (s : State D K I (Frame D K W ε α) W) : Event I → Prop
  | .advance i => (∃ a, (s.session i).frame = .running (.done a)) → ∀ j ≠ i, ¬ Underway requests s j
  | .fail _ => True

def OnCourse (apply : W → D → D) (request : Txn D K W ε α) (d : D) (x : Session (Frame D K W ε α) W) : Prop :=
  ∀ p, x.frame = .running p → (∃ e, p = .throw e) ∨ Reaches apply d request p x.writes

/-- The requests that have succeeded, in the order of their commits, have led from `d₀` to what is committed. -/
structure SerialFrom (apply : W → D → D) (requests : I → Txn D K W ε α) (d₀ : D) (order : List I)
    (s : State D K I (Frame D K W ε α) W) : Prop where
  nodup : order.Nodup
  succeeded : ∀ i, i ∈ order ↔ ∃ a, (s.session i).frame = .answered (.ok a)
  committed : order.foldlM (fun d i => (requests i).exec apply d) d₀ = .ok s.committed
  sessions : ∀ i, OnCourse apply (requests i) s.committed (s.session i)

omit [DecidableEq I] [DecidableEq K] in
lemma serialFrom_begin : SerialFrom apply requests d₀ []
    (begin d₀ (fun i => .running (requests i)) : State D K I (Frame D K W ε α) W) where
  nodup := List.nodup_nil
  succeeded i := ⟨fun h => absurd h List.not_mem_nil, fun ⟨_, h⟩ => by cases h⟩
  committed := rfl
  sessions i p hp := by
    obtain rfl := Frame.running.inj hp
    exact Or.inr .start

omit [DecidableEq K] in
lemma SerialFrom.update {order : List I} (h : SerialFrom apply requests d₀ order s)
    {x : Session (Frame D K W ε α) W} (hcommitted : t.committed = s.committed)
    (hsession : t.session = Function.update s.session i x)
    (hanswer : ∀ a, x.frame = .answered (.ok a) ↔ (s.session i).frame = .answered (.ok a))
    (hx : OnCourse apply (requests i) s.committed x) : SerialFrom apply requests d₀ order t where
  nodup := h.nodup
  succeeded j := by
    rw [h.succeeded, hsession]
    by_cases hj : j = i
    · subst hj
      rw [Function.update_self]
      exact exists_congr (fun a => (hanswer a).symm)
    · rw [Function.update_of_ne hj]
  committed := hcommitted ▸ h.committed
  sessions j := by
    rw [hcommitted, hsession]
    by_cases hj : j = i
    · subst hj
      rw [Function.update_self]
      exact hx
    · rw [Function.update_of_ne hj]
      exact h.sessions j

omit [DecidableEq I] [DecidableEq K] in
/-- A session that is about to commit would do the same if it ran alone on the rows that are committed now. -/
lemma OnCourse.exec {a : α} {p : Txn D K W ε α} {d : D} {x : Session (Frame D K W ε α) W} (h : OnCourse apply p d x)
    (hframe : x.frame = .running (.done a)) : p.exec apply d = .ok (x.writes.foldl (fun d w => apply w d) d) :=
  Txn.exec_eq_ok.mpr ⟨a, ((h _ hframe).resolve_left nofun).run⟩

omit [DecidableEq K] in
lemma SerialFrom.commit {order : List I} {a : α} (h : SerialFrom apply requests d₀ order s)
    (hframe : (s.session i).frame = .running (.done a))
    (hkeep : ∀ j ≠ i, OnCourse apply (requests j) (visible (code apply lost) s i) (s.session j)) :
    SerialFrom apply requests d₀ (order ++ [i])
      (s.finish i (visible (code apply lost) s i) (.answered (.ok a))) := by
  have hother (j : I) (hj : j ≠ i) :
      ((s.finish i (visible (code apply lost) s i) (.answered (.ok a))).session j) = s.session j :=
    Function.update_of_ne hj ..
  have hself : ((s.finish i (visible (code apply lost) s i) (.answered (.ok a))).session i).frame = .answered (.ok a) := by
    simp only [State.finish, Function.update_self]
  have hnot : i ∉ order := fun hmem => by
    obtain ⟨b, hb⟩ := (h.succeeded i).mp hmem
    cases hframe.symm.trans hb
  refine ⟨h.nodup.append (List.nodup_singleton i) (List.disjoint_singleton.mpr hnot), fun j => ?_, ?_, fun j => ?_⟩
  · by_cases hj : j = i
    · subst hj
      exact ⟨fun _ => ⟨a, hself⟩, fun _ => List.mem_append_right _ (List.mem_singleton_self j)⟩
    · rw [hother j hj, ← h.succeeded j, List.mem_append, List.mem_singleton]
      exact or_iff_left hj
  · rw [List.foldlM_append, h.committed]
    have hexec : (requests i).exec apply s.committed = .ok (visible (code apply lost) s i) :=
      (h.sessions i).exec hframe
    change (requests i).exec apply s.committed >>= pure = _
    rw [hexec]
    rfl
  · by_cases hj : j = i
    · subst hj
      intro p hp
      cases hself.symm.trans hp
    · rw [hother j hj]
      exact hkeep j hj

omit [DecidableEq I] [DecidableEq K] in
lemma OnCourse.idle {d d' : D} (h : OnCourse apply (requests i) d (s.session i)) (hidle : ¬ Underway requests s i) :
    OnCourse apply (requests i) d' (s.session i) := by
  intro p hp
  by_cases hthrow : ∃ e, p = .throw e
  · exact Or.inl hthrow
  · have hstart : p = requests i := by
      by_contra hne
      exact hidle ⟨p, hp, hne, fun e he => hthrow ⟨e, he⟩⟩
    subst hstart
    have hreached := (h _ hp).resolve_left hthrow
    rw [hreached.self]
    exact Or.inr .start

/-- Whoever commits leaves the others on course. -/
def KeepsCourse (apply : W → D → D) (requests : I → Txn D K W ε α)
    (guard : State D K I (Frame D K W ε α) W → Event I → Prop) : Prop :=
  ∀ s i a d, guard s (.advance i) → (s.session i).frame = .running (.done a) →
    (s.session i).writes.foldl (fun d w => apply w d) s.committed = d → (requests i).exec apply s.committed = .ok d →
    ∀ j ≠ i, OnCourse apply (requests j) s.committed (s.session j) → OnCourse apply (requests j) d (s.session j)

lemma SerialFrom.step {guard : State D K I (Frame D K W ε α) W → Event I → Prop} {order : List I}
    (hguard : KeepsCourse apply requests guard) (h : SerialFrom apply requests d₀ order s) (he : guard s e)
    (hstep : step (code apply lost) s e = some t) : ∃ order', SerialFrom apply requests d₀ order' t := by
  have hrefused (i : I) (failure : ε) (hrunning : ∀ a, (s.session i).frame ≠ .answered (.ok a)) :
      SerialFrom apply requests d₀ order (s.finish i s.committed (.answered (.error failure))) :=
    h.update rfl rfl (fun a => ⟨by rintro ⟨⟩, fun ha => absurd ha (hrunning a)⟩) (by rintro _ ⟨⟩)
  cases e with
  | fail i =>
    obtain rfl := Option.some.inj hstep
    cases hi : (s.session i).frame with
    | running p =>
      rw [show (code apply lost).fail (.running p) = .answered (.error lost) from rfl]
      exact ⟨order, hrefused i lost (fun a => by simp [hi])⟩
    | answered answer =>
      refine ⟨order, h.update rfl rfl (fun a => ?_) (by rintro _ ⟨⟩)⟩
      rw [hi]
      exact .rfl
  | advance i =>
    rcases hi : (s.session i).frame with p | answer
    · cases p with
      | done a =>
        simp only [ReadCommitted.step, code, hi, Frame.action, Option.some.injEq] at hstep
        subst hstep
        exact ⟨order ++ [i], h.commit hi (fun j hj =>
          hguard s i a _ he hi rfl ((h.sessions i).exec hi) j hj (h.sessions j))⟩
      | throw e =>
        simp only [ReadCommitted.step, code, hi, Frame.action, Option.some.injEq] at hstep
        subst hstep
        exact ⟨order, hrefused i e (fun a => by simp [hi])⟩
      | statement row writes next =>
        have hreaches := (h.sessions i _ hi).resolve_left (by rintro ⟨_, ⟨⟩⟩)
        let next' : Session (Frame D K W ε α) W := ⟨.running (next (visible (code apply lost) s i)),
          (s.session i).writes ++ writes (visible (code apply lost) s i)⟩
        have hnext : OnCourse apply (requests i) s.committed next' := by
          intro p hp
          obtain rfl := Frame.running.inj hp
          exact Or.inr hreaches.statement
        have hkeeps (a : α) : next'.frame = .answered (.ok a) ↔ (s.session i).frame = .answered (.ok a) :=
          ⟨by rintro ⟨⟩, fun ha => by cases hi.symm.trans ha⟩
        cases row with
        | none =>
          simp only [ReadCommitted.step, code, hi, Frame.action, Option.some.injEq] at hstep
          subst hstep
          exact ⟨order, h.update rfl rfl hkeeps hnext⟩
        | some row =>
          simp only [ReadCommitted.step, code, hi, Frame.action, Option.ite_none_right_eq_some,
            Option.some.injEq] at hstep
          obtain ⟨_, rfl⟩ := hstep
          exact ⟨order, h.update rfl rfl hkeeps hnext⟩
    · simp only [ReadCommitted.step, code, hi, Frame.action, reduceCtorEq] at hstep

theorem serial_run_of {guard : State D K I (Frame D K W ε α) W → Event I → Prop}
    (hguard : KeepsCourse apply requests guard)
    (h : Run (Guarded (Enabled (ReadCommitted.step (code apply lost))) guard)
      (begin d₀ (fun i => .running (requests i))) es s) : ∃ order, SerialFrom apply requests d₀ order s :=
  h.invariant (P := fun s => ∃ order, SerialFrom apply requests d₀ order s)
    (fun _ _ _ ⟨_, ha⟩ he => ha.step hguard he.2 he.1) ⟨[], serialFrom_begin⟩

omit [DecidableEq I] [DecidableEq K] in
lemma commitsAlone_keepsCourse : KeepsCourse apply requests (CommitsAlone requests) :=
  fun _ _ a _ halone hframe _ _ j hj hon => hon.idle (halone ⟨a, hframe⟩ j hj)

theorem serial_run (h : Run (Guarded (Enabled (ReadCommitted.step (code apply lost))) (CommitsAlone requests))
    (begin d₀ (fun i => .running (requests i))) es s) : ∃ order, SerialFrom apply requests d₀ order s :=
  serial_run_of commitsAlone_keepsCourse h

omit [DecidableEq I] [DecidableEq K] in
lemma foldlM_exec_invariant {P : D → Prop} (hP : ∀ i d d', P d → (requests i).exec apply d = .ok d' → P d')
    {order : List I} {d d' : D} (hd : P d) (h : order.foldlM (fun d i => (requests i).exec apply d) d = .ok d') :
    P d' := by
  induction order generalizing d with
  | nil =>
    obtain rfl := Except.ok.inj h
    exact hd
  | cons i order ih =>
    rw [List.foldlM_cons] at h
    cases hexec : (requests i).exec apply d with
    | error e =>
      rw [hexec] at h
      cases h
    | ok u =>
      rw [hexec] at h
      exact ih (hP i d u hd hexec) h

theorem serial_invariant {P : D → Prop} (hP : ∀ i d d', P d → (requests i).exec apply d = .ok d' → P d') (hd : P d₀)
    (h : Run (Guarded (Enabled (ReadCommitted.step (code apply lost))) (CommitsAlone requests))
      (begin d₀ (fun i => .running (requests i))) es s) : P s.committed := by
  obtain ⟨order, horder⟩ := serial_run h
  exact foldlM_exec_invariant hP hd horder.committed

lemma run_alone_guarded {n : ℕ} (hothers : ∀ j ≠ i, ¬ Underway requests s j)
    (h : Run (Enabled (ReadCommitted.step (code apply lost))) s (List.replicate n (.advance i)) t) :
    Run (Guarded (Enabled (ReadCommitted.step (code apply lost))) (CommitsAlone requests)) s
      (List.replicate n (.advance i)) t ∧ ∀ j ≠ i, t.session j = s.session j := by
  induction n generalizing s with
  | zero =>
    cases h
    exact ⟨.nil _, fun _ _ => rfl⟩
  | succ n ih =>
    cases h with
    | @cons _ u _ _ _ he hrest =>
      have hsame (j : I) (hj : j ≠ i) : u.session j = s.session j := by
        rcases hi : (s.session i).frame with p | answer
        · rcases p with a | e | ⟨row, writes, next⟩
          · simp only [Enabled, ReadCommitted.step, code, hi, Frame.action, Option.some.injEq] at he
            subst he
            exact Function.update_of_ne hj ..
          · simp only [Enabled, ReadCommitted.step, code, hi, Frame.action, Option.some.injEq] at he
            subst he
            exact Function.update_of_ne hj ..
          · cases row with
            | none =>
              simp only [Enabled, ReadCommitted.step, code, hi, Frame.action, Option.some.injEq] at he
              subst he
              exact Function.update_of_ne hj ..
            | some row =>
              simp only [Enabled, ReadCommitted.step, code, hi, Frame.action, Option.ite_none_right_eq_some,
                Option.some.injEq] at he
              obtain ⟨_, rfl⟩ := he
              exact Function.update_of_ne hj ..
        · simp only [Enabled, ReadCommitted.step, code, hi, Frame.action, reduceCtorEq] at he
      have hstill (j : I) (hj : j ≠ i) : ¬ Underway requests u j := by
        rw [Underway, hsame j hj]
        exact hothers j hj
      obtain ⟨hrun, hlast⟩ := ih hstill hrest
      exact ⟨.cons ⟨he, fun _ => hothers⟩ hrun, fun j hj => (hlast j hj).trans (hsame j hj)⟩

theorem run_serially {order : List I} (hnodup : order.Nodup)
    (hwaiting : ∀ i, s.session i = ⟨.running (requests i), []⟩ ∨ i ∉ order ∧ ¬ Underway requests s i)
    (hfree : ∀ row, s.owner row = none) :
    ∃ es t, Run (Guarded (Enabled (ReadCommitted.step (code apply lost))) (CommitsAlone requests)) s es t ∧
      t.committed = order.foldl (fun d i => ((requests i).commit apply d).2) s.committed := by
  have hquiet {s : State D K I (Frame D K W ε α) W} {j : I} (hj : s.session j = ⟨.running (requests j), []⟩) :
      ¬ Underway requests s j := by
    rintro ⟨p, hp, hne, _⟩
    rw [hj] at hp
    exact hne (Frame.running.inj hp).symm
  induction order generalizing s with
  | nil => exact ⟨[], s, .nil s, rfl⟩
  | cons i order ih =>
    obtain ⟨hi, hrest⟩ := List.nodup_cons.mp hnodup
    have hothers (j : I) : ¬ Underway requests s j := (hwaiting j).elim hquiet And.right
    have hstart := (hwaiting i).resolve_right (fun h => h.1 List.mem_cons_self)
    have halone : Alone (code apply lost) s.committed ⟨.running (requests i), []⟩ _ _ :=
      alone_commit (requests i) s.committed
    obtain ⟨n, u, hrun, hcommitted, hsession, howner⟩ :=
      halone.run (i := i) rfl hstart (fun row => Or.inl (hfree row))
    obtain ⟨hguarded, hsame⟩ := run_alone_guarded (fun j _ => hothers j) hrun
    have hnext (j : I) : u.session j = ⟨.running (requests j), []⟩ ∨ j ∉ order ∧ ¬ Underway requests u j := by
      by_cases hj : j = i
      · subst hj
        refine Or.inr ⟨hi, fun ⟨p, hp, _⟩ => ?_⟩
        rw [hsession] at hp
        cases hp
      · rw [Underway, hsame j hj]
        exact (hwaiting j).imp_right (fun h => ⟨fun hmem => h.1 (List.mem_cons_of_mem _ hmem), h.2⟩)
    obtain ⟨es, t, hlast, hend⟩ := ih hrest hnext howner
    refine ⟨_, t, hguarded.append hlast, ?_⟩
    rw [hend, hcommitted, List.foldl_cons]

end Sessions

end Transactions
