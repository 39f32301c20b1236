import Mathlib.Algebra.BigOperators.Group.List.Lemmas
import Mathlib.Data.List.Dedup
import Mathlib.Tactic

/-! Rows grouped by a key, and the totals of the groups. -/

namespace Grouping

variable {ρ γ β M : Type*} [DecidableEq γ] [AddCommMonoid M]

/-- `GROUP BY`: one result for each key that occurs. -/
def groupBy (key : ρ → γ) (result : γ → List ρ → β) (rows : List ρ) : List β :=
  (rows.map key).dedup.map (fun g => result g (rows.filter (fun r => key r = g)))

lemma sum_ite_eq {gs : List γ} (hgs : gs.Nodup) {g : γ} (hg : g ∈ gs) (h : γ → M) (m : M) :
    (gs.map (fun g' => if g = g' then m + h g' else h g')).sum = m + (gs.map h).sum := by
  induction gs with
  | nil => cases hg
  | cons g' gs ih =>
    obtain ⟨hfresh, hrest⟩ := List.nodup_cons.mp hgs
    rw [List.map_cons, List.sum_cons, List.map_cons, List.sum_cons]
    by_cases heq : g = g'
    · subst heq
      have hsame : gs.map (fun g' => if g = g' then m + h g' else h g') = gs.map h :=
        List.map_congr_left (fun g' hg' => if_neg (fun heq : g = g' => hfresh (heq ▸ hg')))
      rw [if_pos rfl, hsame, add_assoc]
    · rw [if_neg heq, ih hrest ((List.mem_cons.mp hg).resolve_left heq), add_left_comm]

lemma sum_filter_keys (key : ρ → γ) (f : ρ → M) {gs : List γ} (hgs : gs.Nodup) {rows : List ρ}
    (hkeys : ∀ r ∈ rows, key r ∈ gs) :
    (gs.map (fun g => ((rows.filter (fun r => key r = g)).map f).sum)).sum = (rows.map f).sum := by
  induction rows with
  | nil => simp
  | cons r rows ih =>
    obtain ⟨hr, hrows⟩ := List.forall_mem_cons.mp hkeys
    have hstep (g : γ) : (((r :: rows).filter (fun r => key r = g)).map f).sum =
        if key r = g then f r + ((rows.filter (fun r => key r = g)).map f).sum
        else ((rows.filter (fun r => key r = g)).map f).sum := by
      rw [List.filter_cons]
      by_cases hg : key r = g <;> simp [hg]
    simp only [hstep]
    rw [sum_ite_eq hgs hr, ih hrows, List.map_cons, List.sum_cons]

theorem sum_groupBy (key : ρ → γ) (result : γ → List ρ → β) {measure : β → M} (f : ρ → M)
    (h : ∀ g rows, (∀ r ∈ rows, key r = g) → measure (result g rows) = (rows.map f).sum) (rows : List ρ) :
    ((groupBy key result rows).map measure).sum = (rows.map f).sum := by
  rw [groupBy, List.map_map, ← sum_filter_keys key f (List.nodup_dedup _)
    (fun r (hr : r ∈ rows) => List.mem_dedup.mpr (List.mem_map_of_mem hr))]
  refine congrArg List.sum (List.map_congr_left (fun g _ => h g _ (fun r hr => ?_)))
  simpa using (List.mem_filter.mp hr).2

lemma sum_parts {whole early late gap : ρ → Bool} (f : ρ → M)
    (h : ∀ r, (whole r = true ∧ (early r = true ∧ late r = false ∧ gap r = false ∨
        early r = false ∧ late r = true ∧ gap r = false ∨ early r = false ∧ late r = false ∧ gap r = true)) ∨
      whole r = false ∧ early r = false ∧ late r = false ∧ gap r = false) (rows : List ρ) :
    ((rows.filter whole).map f).sum =
      ((rows.filter early).map f).sum + ((rows.filter late).map f).sum + ((rows.filter gap).map f).sum := by
  induction rows with
  | nil => simp
  | cons r rows ih =>
    rcases h r with ⟨hw, ⟨he, hl, hg⟩ | ⟨he, hl, hg⟩ | ⟨he, hl, hg⟩⟩ | ⟨hw, he, hl, hg⟩ <;>
      simp only [List.filter_cons, hw, he, hl, hg, if_true, Bool.false_eq_true, if_false, List.map_cons, List.sum_cons, ih] <;>
      abel

section Merges

variable {key : ρ → γ} {rows : List ρ}

lemma filter_key_map {gs : List γ} (hgs : gs.Nodup) (row : γ → β) (keyOf : β → γ) (hrow : ∀ g, keyOf (row g) = g) (g : γ) :
    (gs.map row).filter (fun r => keyOf r = g) = if g ∈ gs then [row g] else [] := by
  induction gs with
  | nil => rfl
  | cons g' gs ih =>
    obtain ⟨hfresh, hrest⟩ := List.nodup_cons.mp hgs
    rw [List.map_cons, List.filter_cons, ih hrest]
    by_cases heq : g' = g
    · subst heq
      simp [hrow, hfresh]
    · simp [hrow, heq, Ne.symm heq]

lemma sum_eq_of_groups {σ : Type*} (key : ρ → γ) (key' : σ → γ) {rows' : List σ} {f : ρ → M} {f' : σ → M}
    (h : ∀ g, ((rows.filter (fun r => key r = g)).map f).sum = ((rows'.filter (fun r => key' r = g)).map f').sum) :
    (rows.map f).sum = (rows'.map f').sum := by
  have hgs := List.nodup_dedup (rows.map key ++ rows'.map key')
  rw [← sum_filter_keys key f hgs (fun r hr => List.mem_dedup.mpr (List.mem_append_left _ (List.mem_map_of_mem hr))),
    ← sum_filter_keys key' f' hgs (fun r hr => List.mem_dedup.mpr (List.mem_append_right _ (List.mem_map_of_mem hr)))]
  exact congrArg List.sum (List.map_congr_left (fun g _ => h g))

lemma sum_indicator {σ : Type*} (q : σ → Bool) (l : List σ) : (l.map (fun r => if q r then 1 else 0)).sum = l.countP q := by
  induction l with
  | nil => rfl
  | cons r l ih => rw [List.map_cons, List.sum_cons, ih, List.countP_cons, add_comm]

lemma countP_or {σ : Type*} {p q : σ → Bool} (h : ∀ r, p r = true → q r = false) (l : List σ) :
    l.countP (fun r => p r || q r) = l.countP p + l.countP q := by
  induction l with
  | nil => rfl
  | cons r l ih =>
    rw [List.countP_cons, List.countP_cons, List.countP_cons, ih]
    cases hp : p r with
    | true => simp [h r hp, Nat.add_right_comm]
    | false => simp [Nat.add_assoc]

lemma lookup_groupBy (g : γ) :
    (((groupBy key (fun g rows => (g, rows.length)) rows).find? (fun e => e.1 == g)).map Prod.snd).getD 0 =
      (rows.filter (fun r => key r = g)).length := by
  have hfilter := filter_key_map (List.nodup_dedup (rows.map key))
    (fun g => (g, (rows.filter (fun r => key r = g)).length)) Prod.fst (fun _ => rfl) g
  rw [← List.head?_filter, groupBy]
  simp only [beq_eq_decide] at hfilter ⊢
  rw [hfilter]
  by_cases hg : g ∈ (rows.map key).dedup
  · rw [if_pos hg]
    rfl
  · rw [if_neg hg]
    refine (List.length_eq_zero_iff.mpr (List.filter_eq_nil_iff.mpr (fun r hr hkey => hg ?_))).symm
    exact List.mem_dedup.mpr (List.mem_map.mpr ⟨r, hr, of_decide_eq_true hkey⟩)

lemma groupBy_named {δ σ : Type*} [DecidableEq δ] (name : γ → δ) (result : γ × δ → List ((γ × δ) × σ) → β)
    (rows : List (γ × σ)) :
    groupBy Prod.fst result (rows.map (fun r => ((r.1, name r.1), r.2))) =
      groupBy Prod.fst (fun g rows => result (g, name g) (rows.map (fun r => ((r.1, name r.1), r.2)))) rows := by
  have hkeys : (rows.map (fun r => ((r.1, name r.1), r.2))).map Prod.fst =
      (rows.map Prod.fst).map (fun g => (g, name g)) := by
    rw [List.map_map, List.map_map]
    rfl
  rw [groupBy, groupBy, hkeys, List.dedup_map_of_injective (fun g g' h => (Prod.mk.inj h).1), List.map_map]
  refine List.map_congr_left (fun g _ => ?_)
  rw [Function.comp_apply, List.filter_map]
  congr 2
  refine List.filter_congr (fun r _ => ?_)
  simp only [Function.comp_apply, Prod.mk.injEq, decide_eq_decide]
  exact ⟨And.left, fun h => ⟨h, congrArg name h⟩⟩

end Merges

end Grouping
