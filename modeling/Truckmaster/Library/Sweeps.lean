import Mathlib.Data.List.Nodup
import Mathlib.Tactic

/-! Records handled one after another, each on its own: what fails leaves the state as it was and is counted. -/

namespace Sweeps

variable {σ κ : Type*}

structure Tally where
  matched : ℕ := 0
  succeeded : ℕ := 0
  failed : ℕ := 0
  deriving DecidableEq, Repr

namespace Tally

def plus (a b : Tally) : Tally := ⟨a.matched + b.matched, a.succeeded + b.succeeded, a.failed + b.failed⟩

def ofRows {α : Type*} (wanted fails : α → Bool) (rows : List α) : Tally where
  matched := rows.countP wanted
  succeeded := rows.countP (fun a => wanted a && !fails a)
  failed := rows.countP (fun a => wanted a && fails a)

def total {α : Type*} (f : α → Tally) (rows : List α) : Tally := (rows.map f).foldr plus {}

lemma plus_assoc (a b c : Tally) : (a.plus b).plus c = a.plus (b.plus c) := by
  simp [plus, Nat.add_assoc]

lemma none_plus (a : Tally) : plus {} a = a := by
  simp [plus]

lemma ofRows_perm {α : Type*} {wanted : α → Bool} {key : α → κ} {fails : κ → Bool} {l rows : List α}
    (h : l.Perm (rows.filter wanted)) :
    ofRows (fun _ => true) fails (l.map key) = ofRows wanted (fun a => fails (key a)) rows := by
  simp only [ofRows, List.countP_map, h.countP_eq, List.countP_filter, Function.comp_def, Bool.true_and, Bool.and_comm]

end Tally

def step (fails : κ → Bool) (f : κ → σ → Option σ) (x : σ × Tally) (k : κ) : σ × Tally :=
  match if fails k then none else f k x.1 with
  | some t => (t, { x.2 with succeeded := x.2.succeeded + 1 })
  | none => (x.1, { x.2 with failed := x.2.failed + 1 })

def sweep (fails : κ → Bool) (f : κ → σ → Option σ) (records : List κ) (s : σ) (tally : Tally) : σ × Tally :=
  records.foldl (step fails f) (s, { tally with matched := tally.matched + records.length })

variable {fails : κ → Bool} {f : κ → σ → Option σ} {records : List κ} {s : σ} {tally : Tally} {x : σ × Tally}
  {P : σ → Prop}

section Step

variable {k : κ}

lemma step_cases (fails : κ → Bool) (f : κ → σ → Option σ) (x : σ × Tally) (k : κ) :
    (step fails f x k).1 = x.1 ∨ fails k = false ∧ f k x.1 = some (step fails f x k).1 := by
  unfold step
  cases hfails : fails k with
  | true => exact .inl rfl
  | false =>
    simp only [Bool.false_eq_true, if_false]
    cases hf : f k x.1 with
    | none => exact .inl rfl
    | some t => exact .inr ⟨trivial, rfl⟩

lemma step_ok {t : σ} (hfails : fails k = false) (hf : f k x.1 = some t) :
    step fails f x k = (t, { x.2 with succeeded := x.2.succeeded + 1 }) := by
  simp [step, hfails, hf]

lemma step_failed (hfails : fails k = true) : step fails f x k = (x.1, { x.2 with failed := x.2.failed + 1 }) := by
  simp [step, hfails]

end Step

lemma foldl_invariant (hkeep : ∀ k ∈ records, fails k = false → ∀ s t, P s → f k s = some t → P t) (hP : P x.1) :
    P (records.foldl (step fails f) x).1 := by
  induction records generalizing x with
  | nil => exact hP
  | cons k records ih =>
    obtain ⟨hfirst, hrest⟩ := List.forall_mem_cons.mp hkeep
    refine ih hrest ?_
    rcases step_cases fails f x k with heq | ⟨hfails, hf⟩
    · rw [heq]
      exact hP
    · exact hfirst hfails _ _ hP hf

lemma foldl_establishes {Q : κ → σ → Prop} (hok : ∀ k ∈ records, ∀ s, P s → ∃ t, f k s = some t ∧ P t ∧ Q k t)
    (hkeep : ∀ j, ∀ k ∈ records, j ≠ k → ∀ s t, P s → f k s = some t → Q j s → Q j t) (hnodup : records.Nodup)
    (hP : P x.1) : ∀ k ∈ records, fails k = false → Q k (records.foldl (step fails f) x).1 := by
  have hinvariant {k : κ} (hk : k ∈ records) {s t : σ} (hs : P s) (hf : f k s = some t) : P t := by
    obtain ⟨u, hu, hPu, _⟩ := hok k hk s hs
    obtain rfl := Option.some.inj (hu.symm.trans hf)
    exact hPu
  induction records generalizing x with
  | nil =>
    intro k hk
    cases hk
  | cons r records ih =>
    obtain ⟨hr, hrest⟩ := List.nodup_cons.mp hnodup
    obtain ⟨hfirst, hlater⟩ := List.forall_mem_cons.mp hok
    have hnext : P (step fails f x r).1 := by
      rcases step_cases fails f x r with heq | ⟨_, hf⟩
      · rw [heq]
        exact hP
      · exact hinvariant List.mem_cons_self hP hf
    intro k hk hfails
    rcases List.mem_cons.mp hk with rfl | hk
    · obtain ⟨t, hf, hPt, hQ⟩ := hfirst x.1 hP
      rw [List.foldl_cons, step_ok hfails hf]
      refine (foldl_invariant (P := fun s => P s ∧ Q k s) (fun j hj _ s u hs hu => ?_) ⟨hPt, hQ⟩).2
      have hne : k ≠ j := by
        rintro rfl
        exact hr hj
      exact ⟨hinvariant (List.mem_cons_of_mem _ hj) hs.1 hu,
        hkeep k j (List.mem_cons_of_mem _ hj) hne s u hs.1 hu hs.2⟩
    · exact ih hlater (fun j k hk => hkeep j k (List.mem_cons_of_mem _ hk)) hrest hnext
        (fun hk => hinvariant (List.mem_cons_of_mem _ hk)) k hk hfails

lemma sweep_tally (hok : ∀ k ∈ records, ∀ s, P s → ∃ t, f k s = some t ∧ P t) (hP : P s) :
    (sweep fails f records s tally).2 = tally.plus (.ofRows (fun _ => true) fails records) := by
  have hfold (x : σ × Tally) (hx : P x.1) : (records.foldl (step fails f) x).2 = ⟨x.2.matched,
      x.2.succeeded + records.countP (fun k => !fails k), x.2.failed + records.countP fails⟩ := by
    induction records generalizing x with
    | nil => rfl
    | cons k records ih =>
      obtain ⟨hfirst, hlater⟩ := List.forall_mem_cons.mp hok
      rw [List.foldl_cons]
      cases hfails : fails k with
      | true =>
        have hnext : P (step fails f x k).1 := by rwa [step_failed hfails]
        rw [ih hlater _ hnext, step_failed hfails]
        simp [hfails]
        omega
      | false =>
        obtain ⟨t, hf, hPt⟩ := hfirst x.1 hx
        have hnext : P (step fails f x k).1 := by rwa [step_ok hfails hf]
        rw [ih hlater _ hnext, step_ok hfails hf]
        simp [hfails]
        omega
  rw [sweep, hfold _ hP]
  simp [Tally.plus, Tally.ofRows]

end Sweeps
