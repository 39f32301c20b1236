import Mathlib.Data.List.Basic
import Mathlib.Logic.Function.Basic
import Mathlib.Tactic

/-! Rows behind row level security: what a statement finds of them, the writes it may make, and the writes of open
transactions that have not been committed. -/

namespace RowSecurity

variable {κ ρ χ α : Type*}

abbrev Rows (κ ρ : Type*) := κ → Option ρ

/-- The rows that a context may see and write. The policy of one row may ask for others. -/
abbrev Policy (χ κ ρ : Type*) := χ → Rows κ ρ → κ → ρ → Bool

abbrev Write (κ ρ : Type*) := κ × Option ρ

section Rows

def restrict (V : κ → ρ → Bool) (rows : Rows κ ρ) : Rows κ ρ := fun k => (rows k).filter (V k)

def seen (p : Policy χ κ ρ) (c : χ) (rows : Rows κ ρ) : Rows κ ρ := restrict (p c rows) rows

variable {V : κ → ρ → Bool} {rows : Rows κ ρ} {k : κ} {r : ρ}

lemma restrict_eq_some : restrict V rows k = some r ↔ rows k = some r ∧ V k r = true := Option.filter_eq_some_iff

lemma restrict_eq_none : restrict V rows k = none ↔ ∀ r, rows k = some r → V k r = false := by
  unfold restrict
  cases rows k with
  | none => simp
  | some r => cases hV : V k r <;> simp [Option.filter, hV]

lemma restrict_restrict (V : κ → ρ → Bool) (rows : Rows κ ρ) : restrict V (restrict V rows) = restrict V rows := by
  funext k
  unfold restrict
  cases rows k with
  | none => rfl
  | some r => cases hV : V k r <;> simp [Option.filter, hV]

lemma seen_isSome_old {p : Policy χ κ ρ} {c : χ} {old : ρ} (hseen : (seen p c rows k).isSome = true)
    (hold : rows k = some old) : p c rows k old = true := by
  obtain ⟨r, hr⟩ := Option.isSome_iff_exists.mp hseen
  obtain ⟨hrow, hallowed⟩ := restrict_eq_some.mp hr
  obtain rfl := Option.some.inj (hrow.symm.trans hold)
  exact hallowed

variable [DecidableEq κ]

/-- The rows with the writes of one transaction over them. -/
def pending (rows : Rows κ ρ) (log : List (Write κ ρ)) : Rows κ ρ :=
  log.foldl (fun rows w => Function.update rows w.1 w.2) rows

variable {log ws : List (Write κ ρ)}

lemma pending_of_notMem (hk : k ∉ log.map Prod.fst) : pending rows log k = rows k := by
  induction log generalizing rows with
  | nil => rfl
  | cons w log ih =>
    obtain ⟨hw, hlog⟩ := not_or.mp (fun h => hk (List.mem_cons.mpr h))
    exact (ih hlog).trans (Function.update_of_ne hw _ _)

lemma pending_cases (rows : Rows κ ρ) (log : List (Write κ ρ)) (k : κ) :
    pending rows log k = rows k ∧ k ∉ log.map Prod.fst ∨ ∃ w ∈ log, w.1 = k ∧ pending rows log k = w.2 := by
  induction log generalizing rows with
  | nil => exact .inl ⟨rfl, List.not_mem_nil⟩
  | cons w log ih =>
    rcases ih (Function.update rows w.1 w.2) with ⟨heq, hk⟩ | ⟨v, hv, hvk, heq⟩
    · by_cases hw : w.1 = k
      · exact .inr ⟨w, List.mem_cons_self, hw, heq.trans (hw ▸ Function.update_self ..)⟩
      · refine .inl ⟨heq.trans (Function.update_of_ne (Ne.symm hw) _ _), ?_⟩
        rw [List.map_cons, List.mem_cons, not_or]
        exact ⟨Ne.symm hw, hk⟩
    · exact .inr ⟨v, List.mem_cons_of_mem _ hv, hvk, heq⟩

lemma restrict_pending (h : ∀ w ∈ log, ∀ r, w.2 = some r → V w.1 r = true) :
    restrict V (pending rows log) = pending (restrict V rows) log := by
  induction log generalizing rows with
  | nil => rfl
  | cons w log ih =>
    obtain ⟨hfirst, hlog⟩ := List.forall_mem_cons.mp h
    have hone : restrict V (Function.update rows w.1 w.2) = Function.update (restrict V rows) w.1 w.2 := by
      funext k
      by_cases hk : k = w.1
      · subst hk
        rw [Function.update_self]
        unfold restrict
        rw [Function.update_self]
        cases hw : w.2 with
        | none => rfl
        | some r => simp [Option.filter, hfirst r hw]
      · rw [Function.update_of_ne hk]
        unfold restrict
        rw [Function.update_of_ne hk]
    exact (ih hlog).trans (congrArg (fun rows => pending rows log) hone)

lemma restrict_pending_outside (hold : ∀ w ∈ log, restrict V rows w.1 = none)
    (hnew : ∀ w ∈ log, ∀ r, w.2 = some r → V w.1 r = false) : restrict V (pending rows log) = restrict V rows := by
  funext k
  rcases pending_cases rows log k with ⟨heq, _⟩ | ⟨w, hw, rfl, heq⟩
  · unfold restrict
    rw [heq]
  · rw [hold w hw, restrict_eq_none]
    intro r hr
    exact hnew w hw r (heq.symm.trans hr)

end Rows

/-- A statement chooses its writes from the rows that it sees. -/
inductive Statement (κ ρ α : Type*)
  | select (read : Rows κ ρ → α)
  | insert (added : Rows κ ρ → List (κ × ρ))
  | update (changed : Rows κ ρ → List (κ × ρ))
  | delete (removed : Rows κ ρ → List κ)

inductive Outcome (κ ρ α : Type*)
  | read (result : α)
  | wrote (ws : List (Write κ ρ))
  | denied
  | duplicate
  | violated
  | waits

/-- Constraints let writes stand or not; a foreign key may write over rows that name what is deleted. -/
inductive Verdict (κ ρ : Type*)
  | stand (acts : List (Write κ ρ))
  | violated
  | waits
  deriving DecidableEq

/-- Foreign keys and unique indexes judge the writes of a transaction by all rows and by what the open transactions have
written: no policy keeps a row from them. -/
abbrev Constraints (ι κ ρ : Type*) := Rows κ ρ → (ι → List (Write κ ρ)) → ι → List (Write κ ρ) → Verdict κ ρ

namespace Statement

lemma any_eq_false {β : Type*} {l : List β} {q : β → Bool} (h : ¬ l.any q = true) {x : β} (hx : x ∈ l) :
    q x = false :=
  Bool.eq_false_iff.mpr (fun hq => h (List.any_eq_true.mpr ⟨x, hx, hq⟩))

lemma any_congr_of_mem {β : Type*} {l : List β} {q q' : β → Bool} (h : ∀ x ∈ l, q x = q' x) : l.any q = l.any q' := by
  rw [Bool.eq_iff_iff, List.any_eq_true, List.any_eq_true]
  exact exists_congr (fun x => and_congr_right (fun hx => by rw [h x hx]))

variable [DecidableEq κ]

/-- The rows that a write puts must be allowed as well; a key that an open transaction has written is waited for. -/
def execute (p : Policy χ κ ρ) (c : χ) (rows : Rows κ ρ) (locked : κ → Bool) : Statement κ ρ α → Outcome κ ρ α
  | .select read => .read (read (seen p c rows))
  | .insert added =>
    let new := added (seen p c rows)
    if new.any (fun w => !p c rows w.1 w.2) then .denied
    else if new.any (fun w => locked w.1) then .waits
    else if new.any (fun w => (rows w.1).isSome) || !decide (new.map Prod.fst).Nodup then .duplicate
    else .wrote (new.map (fun w => (w.1, some w.2)))
  | .update changed =>
    let new := (changed (seen p c rows)).filter (fun w => (seen p c rows w.1).isSome)
    if new.any (fun w => locked w.1) then .waits
    else if new.any (fun w => !p c rows w.1 w.2) then .denied
    else .wrote (new.map (fun w => (w.1, some w.2)))
  | .delete removed =>
    let old := (removed (seen p c rows)).filter (fun k => (seen p c rows k).isSome)
    if old.any locked then .waits else .wrote (old.map (fun k => (k, none)))

def inserts (visible : Rows κ ρ) : Statement κ ρ α → List κ
  | .insert added => (added visible).map Prod.fst
  | _ => []

variable {p : Policy χ κ ρ} {c : χ} {rows rows' : Rows κ ρ} {locked locked' : κ → Bool} {s : Statement κ ρ α}
  {ws : List (Write κ ρ)} {w : Write κ ρ}

lemma execute_wrote (h : s.execute p c rows locked = .wrote ws) (hw : w ∈ ws) :
    (∀ old, rows w.1 = some old → p c rows w.1 old = true) ∧ (∀ new, w.2 = some new → p c rows w.1 new = true) ∧
      locked w.1 = false := by
  cases s with
  | select read => cases h
  | insert added =>
    simp only [execute] at h
    split at h
    next => cases h
    next hdenied =>
      split at h
      next => cases h
      next hfree =>
        split at h
        next => cases h
        next hnew =>
          cases h
          obtain ⟨v, hv, rfl⟩ := List.mem_map.mp hw
          obtain ⟨htaken, _⟩ := Bool.or_eq_false_iff.mp (Bool.eq_false_iff.mpr hnew)
          refine ⟨fun old hold => ?_, ?_, any_eq_false hfree hv⟩
          · have hnone := any_eq_false (Bool.eq_false_iff.mp htaken) hv
            rw [hold] at hnone
            cases hnone
          · rintro new ⟨⟩
            exact Bool.not_eq_false' .. |>.mp (any_eq_false hdenied hv)
  | update changed =>
    simp only [execute] at h
    split at h
    next => cases h
    next hfree =>
      split at h
      next => cases h
      next hdenied =>
        cases h
        obtain ⟨v, hv, rfl⟩ := List.mem_map.mp hw
        obtain ⟨_, hseen⟩ := List.mem_filter.mp hv
        refine ⟨fun old hold => seen_isSome_old hseen hold, ?_, any_eq_false hfree hv⟩
        rintro new ⟨⟩
        exact Bool.not_eq_false' .. |>.mp (any_eq_false hdenied hv)
  | delete removed =>
    simp only [execute] at h
    split at h
    next => cases h
    next hfree =>
      cases h
      obtain ⟨k, hk, rfl⟩ := List.mem_map.mp hw
      obtain ⟨_, hseen⟩ := List.mem_filter.mp hk
      exact ⟨fun old hold => seen_isSome_old hseen hold, by rintro new ⟨⟩, any_eq_false hfree hk⟩

/-- The outcome rests on the rows that are seen, on the keys that are waited for among them, and on whether the keys
of new rows are free. -/
lemma execute_congr (hseen : seen p c rows = seen p c rows') (hallowed : p c rows = p c rows')
    (hlocked : ∀ k, (seen p c rows k).isSome = true → locked k = locked' k)
    (hfree : ∀ k ∈ s.inserts (seen p c rows), locked k = false ∧ locked' k = false ∧ rows k = none ∧ rows' k = none) :
    s.execute p c rows locked = s.execute p c rows' locked' := by
  cases s with
  | select read => simp only [execute, hseen]
  | insert added =>
    have hkey : ∀ w ∈ added (seen p c rows), locked w.1 = false ∧ locked' w.1 = false ∧ rows w.1 = none ∧
        rows' w.1 = none := fun w hw => hfree w.1 (List.mem_map_of_mem hw)
    have hnone (l : κ → Bool) (hl : ∀ w ∈ added (seen p c rows), l w.1 = false) :
        (added (seen p c rows)).any (fun w => l w.1) = false := by
      rw [List.any_eq_false]
      exact fun w hw => Bool.eq_false_iff.mp (hl w hw)
    simp only [execute, ← hseen, ← hallowed]
    rw [hnone locked (fun w hw => (hkey w hw).1), hnone locked' (fun w hw => (hkey w hw).2.1),
      hnone (fun k => (rows k).isSome) (fun w hw => Option.isSome_eq_false_iff.mpr (by simp [(hkey w hw).2.2.1])),
      hnone (fun k => (rows' k).isSome) (fun w hw => Option.isSome_eq_false_iff.mpr (by simp [(hkey w hw).2.2.2]))]
  | update changed =>
    have hsame : ((changed (seen p c rows)).filter (fun w => (seen p c rows w.1).isSome)).any (fun w => locked w.1) =
        ((changed (seen p c rows)).filter (fun w => (seen p c rows w.1).isSome)).any (fun w => locked' w.1) := by
      refine any_congr_of_mem (fun w hw => ?_)
      exact hlocked w.1 (List.mem_filter.mp hw).2
    simp only [execute, ← hseen, ← hallowed, hsame]
  | delete removed =>
    have hsame : ((removed (seen p c rows)).filter (fun k => (seen p c rows k).isSome)).any locked =
        ((removed (seen p c rows)).filter (fun k => (seen p c rows k).isSome)).any locked' := by
      refine any_congr_of_mem (fun k hk => ?_)
      exact hlocked k (List.mem_filter.mp hk).2
    simp only [execute, ← hseen, hsame]

end Statement

end RowSecurity
