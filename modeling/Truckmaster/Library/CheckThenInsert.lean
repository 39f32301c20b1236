import Truckmaster.Library.Transactions

/-! Transactions that look for a row and insert it where there is none. A statement that fails aborts its
transaction: the code may catch the error, but every later statement is refused and the commit rolls back. -/

namespace Transactions

open Fallible ReadCommitted Runs

variable {D K W ε α I X : Type}

inductive RolledBack (ε α : Type)
  | failed (e : ε)
  | returned (a : α)

namespace Txn

/-- What is left of a program whose transaction is aborted. -/
def aborted (refused : ε) : Txn D K W (RolledBack ε α) α → Txn D K W (RolledBack ε α) α
  | .done a => .throw (.returned a)
  | .throw e => .throw e
  | .statement _ _ _ => .throw (.failed refused)

def tryInsert (row : K) (taken : D → Bool) (w : W) (violated refused : ε)
    (handler : ε → Txn D K W (RolledBack ε α) α) (next : Txn D K W (RolledBack ε α) α) :
    Txn D K W (RolledBack ε α) α :=
  .statement (some row) (fun d => if taken d then [] else [w])
    (fun d => if taken d then (handler violated).aborted refused else next)

end Txn

/-- One key of a unique index: the row under it, its insertion, and what holds of the rest of the rows. -/
structure Slot (D K W X : Type) where
  key : K
  row : D → Option X
  put : X → W
  world : D → Prop

namespace Slot

variable (slot : Slot D K W X)

def Grows (d d' : D) : Prop := ∀ x, slot.row d = some x → slot.row d' = some x

/-- The program looks for the row, answers `answer` of it, and makes one insertion where there is none, of a row
that `fits`. -/
def Ready (fits : X → Prop) (answer : X → α) : Txn D K W ε α → D → Prop
  | .done a, d => ∃ x, slot.row d = some x ∧ a = answer x
  | .throw _, _ => False
  | .statement none writes next, d => ∀ d', slot.world d' → slot.Grows d d' →
      writes d' = [] ∧ Ready fits answer (next d') d'
  | .statement (some row) writes next, d => row = slot.key ∧ ∀ d', slot.world d' → slot.Grows d d' →
      (slot.row d' = none → ∃ x, fits x ∧ writes d' = [slot.put x] ∧ next d' = .done (answer x)) ∧
        (slot.row d' ≠ none → ∃ e, next d' = .throw e)

end Slot

def Frame.inserting : Frame D K W ε α → Bool
  | .running (.statement (some _) _ _) => true
  | _ => false

def Frame.ended : Frame D K W ε α → Bool
  | .answered _ => true
  | .running _ => false

def Vacant (row : D → Option X) (s : State D K I (Frame D K W ε α) W) : Event I → Prop
  | .advance i => (s.session i).frame.inserting = true → row s.committed = none
  | .fail i => (s.session i).frame.ended = true

instance {row : D → Option X} (s : State D K I (Frame D K W ε α) W) (e : Event I) :
    Decidable (Vacant row s e) :=
  match e with
  | .advance i => inferInstanceAs (Decidable ((s.session i).frame.inserting = true → row s.committed = none))
  | .fail i => inferInstanceAs (Decidable ((s.session i).frame.ended = true))

namespace Slot

section Runs

variable {slot : Slot D K W X} {fits : I → X → Prop} {answer : I → X → α} {apply : W → D → D} {lost : ε}
  {s t : State D K I (Frame D K W ε α) W} {e : Event I} {i : I} {d d' : D}

lemma Grows.refl (d : D) : slot.Grows d d := fun _ => id

lemma Grows.trans {d'' : D} (h : slot.Grows d d') (h' : slot.Grows d' d'') : slot.Grows d d'' :=
  fun x hx => h' x (h x hx)

lemma Grows.of_none (h : slot.row d = none) : slot.Grows d d' := by
  intro x hx
  rw [h] at hx
  cases hx

lemma Ready.grows {P : X → Prop} {f : X → α} {p : Txn D K W ε α} (h : slot.Ready P f p d) (hgrows : slot.Grows d d') :
    slot.Ready P f p d' := by
  cases p with
  | done a =>
    obtain ⟨x, hx, ha⟩ := h
    exact ⟨x, hgrows x hx, ha⟩
  | throw e => exact h
  | statement row writes next =>
    cases row with
    | none => exact fun d'' hw hd => h d'' hw (hgrows.trans hd)
    | some row => exact ⟨h.1, fun d'' hw hd => h.2 d'' hw (hgrows.trans hd)⟩

/-- Where a session stands: before its insertion, between it and its commit, or after its answer. -/
inductive Stands (slot : Slot D K W X) (fits : I → X → Prop) (answer : I → X → α) (d : D) (owner : K → Option I)
    (i : I) : Session (Frame D K W ε α) W → Prop
  | before {p : Txn D K W ε α} (h : slot.Ready (fits i) (answer i) p d) : Stands slot fits answer d owner i ⟨.running p, []⟩
  | inserted {x : X} (hfits : fits i x) (howner : owner slot.key = some i) (hvacant : slot.row d = none) :
      Stands slot fits answer d owner i ⟨.running (.done (answer i x)), [slot.put x]⟩
  | answered {x : X} (h : slot.row d = some x) : Stands slot fits answer d owner i ⟨.answered (.ok (answer i x)), []⟩

def Inv (slot : Slot D K W X) (fits : I → X → Prop) (answer : I → X → α) (s : State D K I (Frame D K W ε α) W) : Prop :=
  slot.world s.committed ∧ ∀ i, Stands slot fits answer s.committed s.owner i (s.session i)

/-- A session whose insertion failed, or whose connection was lost. -/
def Doomed (s : State D K I (Frame D K W ε α) W) : Prop :=
  ∃ i e, (s.session i).frame = .running (.throw e) ∨ (s.session i).frame = .answered (.error e)

structure Lawful (slot : Slot D K W X) (fits : I → X → Prop) (apply : W → D → D) : Prop where
  stores : ∀ i x d, fits i x → slot.row d = none → slot.row (apply (slot.put x) d) = some x
  keeps : ∀ i x d, fits i x → slot.row d = none → slot.world d → slot.world (apply (slot.put x) d)

lemma Stands.congr {owner owner' : K → Option I} {x : Session (Frame D K W ε α) W}
    (h : Stands slot fits answer d owner i x) (howner : owner slot.key = some i → owner' slot.key = some i) :
    Stands slot fits answer d owner' i x := by
  cases h with
  | before h => exact .before h
  | inserted hfits hown hvacant => exact .inserted hfits (howner hown) hvacant
  | answered h => exact .answered h

variable [DecidableEq I]

lemma Inv.update {x : Session (Frame D K W ε α) W} (hworld : slot.world t.committed)
    (hsession : t.session = Function.update s.session i x) (hx : Stands slot fits answer t.committed t.owner i x)
    (hothers : ∀ j, j ≠ i → Stands slot fits answer t.committed t.owner j (s.session j)) : Inv slot fits answer t := by
  refine ⟨hworld, fun j => ?_⟩
  rw [hsession]
  by_cases hj : j = i
  · subst hj
    rwa [Function.update_self]
  · rw [Function.update_of_ne hj]
    exact hothers j hj

variable [DecidableEq K]

lemma Inv.step (hlaw : slot.Lawful fits apply) (hs : Inv slot fits answer s) (hguard : Vacant slot.row s e)
    (h : ReadCommitted.step (code apply lost) s e = some t) : Inv slot fits answer t := by
  obtain ⟨hworld, hstands⟩ := hs
  have hreleased (i j : I) (hj : j ≠ i) (d : D) (frame : Frame D K W ε α) (hown : s.owner slot.key = some j) :
      (s.finish i d frame).owner slot.key = some j := releasing_other hj hown
  cases e with
  | fail i =>
    obtain rfl := Option.some.inj h
    have hi := hstands i
    obtain ⟨frame, ws, hsession⟩ : ∃ frame ws, s.session i = ⟨frame, ws⟩ := ⟨_, _, rfl⟩
    rw [hsession] at hi
    cases hi with
    | answered hrow =>
      refine Inv.update (i := i) hworld rfl ?_ (fun j hj => (hstands j).congr (hreleased i j hj _ _))
      rw [hsession]
      exact .answered hrow
    | before hready => simp [Vacant, hsession, Frame.ended] at hguard
    | inserted hfits hown hvacant => simp [Vacant, hsession, Frame.ended] at hguard
  | advance i =>
    have hi := hstands i
    obtain ⟨frame, ws, hsession⟩ : ∃ frame ws, s.session i = ⟨frame, ws⟩ := ⟨_, _, rfl⟩
    rw [hsession] at hi
    cases hi with
    | answered hrow => simp [ReadCommitted.step, hsession, code, Frame.action] at h
    | @inserted x hfits hown hvacant =>
      simp only [ReadCommitted.step, hsession, code, Frame.action, Option.some.injEq] at h
      subst h
      have hvisible : visible (code apply lost) s i = apply (slot.put x) s.committed := by
        rw [visible, hsession]
        rfl
      have hrow : slot.row (visible (code apply lost) s i) = some x := by
        rw [hvisible]
        exact hlaw.stores i x _ hfits hvacant
      refine Inv.update (i := i) ?_ rfl (.answered hrow) (fun j hj => ?_)
      · change slot.world (visible (code apply lost) s i)
        rw [hvisible]
        exact hlaw.keeps i x _ hfits hvacant hworld
      · have hother := hstands j
        generalize s.session j = y at hother
        cases hother with
        | before hready => exact .before (hready.grows (.of_none hvacant))
        | inserted _ hown' _ => exact absurd (Option.some.inj (hown'.symm.trans hown)) hj
        | answered hrow' => rw [hvacant] at hrow'; cases hrow'
    | @before p hready =>
      have hvisible : visible (code apply lost) s i = s.committed := by
        rw [visible, hsession]
        rfl
      cases p with
      | throw e => exact hready.elim
      | done a =>
        obtain ⟨x, hrow, rfl⟩ := hready
        simp only [ReadCommitted.step, hsession, code, Frame.action, Option.some.injEq] at h
        subst h
        refine Inv.update (i := i) ?_ rfl ?_ (fun j hj => ?_)
        · change slot.world (visible (code apply lost) s i)
          rwa [hvisible]
        · change Stands slot fits answer (visible (code apply lost) s i) _ i _
          rw [hvisible]
          exact .answered hrow
        · change Stands slot fits answer (visible (code apply lost) s i) _ j _
          rw [hvisible]
          exact (hstands j).congr (hreleased i j hj _ _)
      | statement row writes next =>
        cases row with
        | none =>
          obtain ⟨hwrites, hnext⟩ := hready s.committed hworld (.refl _)
          simp only [ReadCommitted.step, hsession, code, Frame.action, Option.some.injEq] at h
          subst h
          refine Inv.update (i := i) hworld rfl ?_ (fun j _ => hstands j)
          change Stands slot fits answer s.committed s.owner i ⟨.running (next (visible (code apply lost) s i)),
            (s.session i).writes ++ writes (visible (code apply lost) s i)⟩
          rw [hvisible, hwrites, hsession]
          exact .before hnext
        | some row =>
          obtain ⟨rfl, hinsert⟩ := hready
          simp only [ReadCommitted.step, hsession, code, Frame.action, Option.ite_none_right_eq_some,
            Option.some.injEq] at h
          obtain ⟨hfree, rfl⟩ := h
          have hvacant : slot.row s.committed = none := hguard (by rw [hsession]; rfl)
          obtain ⟨x, hfits, hwrites, hnext⟩ := (hinsert s.committed hworld (.refl _)).1 hvacant
          refine Inv.update (i := i) hworld rfl ?_ (fun j hj => (hstands j).congr (fun hown => ?_))
          · change Stands slot fits answer s.committed _ i ⟨.running (next (visible (code apply lost) s i)),
              (s.session i).writes ++ writes (visible (code apply lost) s i)⟩
            rw [hvisible, hwrites, hnext, hsession]
            exact .inserted hfits (Function.update_self ..) hvacant
          · rcases hfree with hnone | hmine
            · rw [hnone] at hown
              cases hown
            · exact absurd (Option.some.inj (hown.symm.trans hmine)) hj

lemma Inv.doomed (hs : Inv slot fits answer s) (hguard : ¬ Vacant slot.row s e)
    (h : ReadCommitted.step (code apply lost) s e = some t) : Doomed t := by
  obtain ⟨hworld, hstands⟩ := hs
  cases e with
  | fail i =>
    obtain rfl := Option.some.inj h
    refine ⟨i, lost, Or.inr ?_⟩
    change (Function.update s.session i _ i).frame = _
    rw [Function.update_self]
    cases hframe : (s.session i).frame with
    | running p => rfl
    | answered a => simp [Vacant, hframe, Frame.ended] at hguard
  | advance i =>
    obtain ⟨hinserting, hstored⟩ := Classical.not_imp.mp hguard
    have hi := hstands i
    obtain ⟨frame, ws, hsession⟩ : ∃ frame ws, s.session i = ⟨frame, ws⟩ := ⟨_, _, rfl⟩
    rw [hsession] at hi hinserting
    cases hi with
    | answered hrow => cases hinserting
    | inserted hfits hown hvacant => cases hinserting
    | @before p hready =>
      cases p with
      | done a => cases hinserting
      | throw e => cases hinserting
      | statement row writes next =>
        cases row with
        | none => cases hinserting
        | some row =>
          have hvisible : visible (code apply lost) s i = s.committed := by
            rw [visible, hsession]
            rfl
          obtain ⟨e, hnext⟩ := (hready.2 s.committed hworld (.refl _)).2 hstored
          simp only [ReadCommitted.step, hsession, code, Frame.action, Option.ite_none_right_eq_some,
            Option.some.injEq] at h
          obtain ⟨_, rfl⟩ := h
          refine ⟨i, e, Or.inl ?_⟩
          change (Function.update s.session i _ i).frame = _
          rw [Function.update_self]
          change Frame.running (next (visible (code apply lost) s i)) = _
          rw [hvisible, hnext]

lemma Doomed.step (hs : Doomed s) (h : ReadCommitted.step (code apply lost) s e = some t) : Doomed t := by
  obtain ⟨i, error, hi⟩ := hs
  obtain ⟨j, x, hsession, hx⟩ := step_session (code apply lost) h
  by_cases hij : i = j
  · subst hij
    have hframe : (t.session i).frame = x.frame := by rw [hsession, Function.update_self]
    rcases hi with hi | hi
    · rcases hx with ⟨r, hmoves, rfl⟩ | ⟨next, hends, rfl⟩
      · rw [hi] at hmoves
        cases hmoves
      · rw [hi] at hends
        rcases hends with hends | rfl
        · obtain rfl := Option.some.inj hends
          exact ⟨i, _, Or.inr hframe⟩
        · exact ⟨i, _, Or.inr hframe⟩
    · rcases hx with ⟨r, hmoves, rfl⟩ | ⟨next, hends, rfl⟩
      · rw [hi] at hmoves
        cases hmoves
      · rw [hi] at hends
        rcases hends with hends | rfl
        · cases hends
        · exact ⟨i, _, Or.inr hframe⟩
  · exact ⟨i, error, by rwa [hsession, Function.update_of_ne hij]⟩

theorem answers_iff_vacant {requests : I → Txn D K W ε α} {d₀ : D} {es : List (Event I)}
    (hlaw : slot.Lawful fits apply) (hready : ∀ i, slot.Ready (fits i) (answer i) (requests i) d₀)
    (hworld : slot.world d₀)
    (h : Run (Enabled (ReadCommitted.step (code apply lost))) (begin d₀ (fun i => .running (requests i))) es s)
    (hended : ∀ i, (s.session i).frame.ended = true) :
    (∀ i, ∃ x, slot.row s.committed = some x ∧ (s.session i).frame = .answered (.ok (answer i x))) ↔
      Run (Guarded (Enabled (ReadCommitted.step (code apply lost))) (Vacant slot.row))
        (begin d₀ (fun i => .running (requests i))) es s := by
  have hbegin : Inv slot fits answer (begin d₀ (fun i => .running (requests i))) :=
    ⟨hworld, fun i => .before (hready i)⟩
  constructor
  · intro hanswers
    refine (guarded_or_bad (fun _ _ _ hs hguard he => hs.step hlaw hguard he) (fun _ _ _ hs hguard he =>
      hs.doomed hguard he) (fun _ _ _ hs he => hs.step he) hbegin h).resolve_right ?_
    rintro ⟨i, e, hi⟩
    obtain ⟨x, _, hanswer⟩ := hanswers i
    rw [hanswer] at hi
    rcases hi with hi | hi
    · cases hi
    · cases hi
  · intro hguarded i
    obtain ⟨_, hstands⟩ := hguarded.invariant (P := Inv slot fits answer)
      (fun _ _ _ hs he => hs.step hlaw he.2 he.1) hbegin
    have hi := hstands i
    have hdone := hended i
    generalize s.session i = y at hi hdone ⊢
    cases hi with
    | before hready => cases hdone
    | inserted hfits hown hvacant => cases hdone
    | @answered x hrow => exact ⟨x, hrow, rfl⟩

end Runs

end Slot

end Transactions
