import Mathlib.Logic.Relation
import Mathlib.Tactic

/-! Finite runs of a labelled transition relation and the rules that carry a property along them. -/

namespace Runs

variable {σ τ ε : Type*}

inductive Run (step : σ → ε → σ → Prop) : σ → List ε → σ → Prop
  | nil (s : σ) : Run step s [] s
  | cons {s t u : σ} {e : ε} {es : List ε} : step s e t → Run step t es u → Run step s (e :: es) u

def Guarded (step : σ → ε → σ → Prop) (guard : σ → ε → Prop) (s : σ) (e : ε) (t : σ) : Prop :=
  step s e t ∧ guard s e

def Total (next : σ → ε → σ) (s : σ) (e : ε) (t : σ) : Prop := next s e = t

def Enabled (next : σ → ε → Option σ) (s : σ) (e : ε) (t : σ) : Prop := next s e = some t

namespace Run

variable {step : σ → ε → σ → Prop} {s t u : σ} {e : ε} {es ds : List ε}

lemma single (h : step s e t) : Run step s [e] t := .cons h (.nil t)

lemma append (h : Run step s es t) (h' : Run step t ds u) : Run step s (es ++ ds) u := by
  induction h with
  | nil => exact h'
  | cons he _ ih => exact .cons he (ih h')

lemma split (h : Run step s (es ++ ds) u) : ∃ t, Run step s es t ∧ Run step t ds u := by
  induction es generalizing s with
  | nil => exact ⟨s, .nil s, h⟩
  | cons e es ih =>
    cases h with
    | cons he hr =>
      obtain ⟨t, ht, hu⟩ := ih hr
      exact ⟨t, .cons he ht, hu⟩

lemma mono {step' : σ → ε → σ → Prop} (hs : ∀ s e t, step s e t → step' s e t)
    (h : Run step s es t) : Run step' s es t := by
  induction h with
  | nil => exact .nil _
  | cons he _ ih => exact .cons (hs _ _ _ he) ih

lemma unguarded {guard : σ → ε → Prop} (h : Run (Guarded step guard) s es t) : Run step s es t :=
  h.mono (fun _ _ _ he => he.1)

lemma guarded {guard : σ → ε → Prop} (h : Run step s es t) (hguard : ∀ e ∈ es, ∀ s, guard s e) :
    Run (Guarded step guard) s es t := by
  induction h with
  | nil => exact .nil _
  | cons he _ ih =>
    obtain ⟨hfirst, hrest⟩ := List.forall_mem_cons.mp hguard
    exact .cons ⟨he, hfirst _⟩ (ih hrest)

lemma invariant {P : σ → Prop} (hs : ∀ s e t, P s → step s e t → P t)
    (h : Run step s es t) (hp : P s) : P t := by
  induction h with
  | nil => exact hp
  | cons he _ ih => exact ih (hs _ _ _ hp he)

end Run

lemma run_total_iff (next : σ → ε → σ) (s t : σ) (es : List ε) :
    Run (Total next) s es t ↔ es.foldl next s = t := by
  induction es generalizing s with
  | nil => exact ⟨fun h => by cases h; rfl, fun h => by cases h; exact .nil _⟩
  | cons e es ih =>
    constructor
    · intro h
      cases h with
      | cons he hr => cases he; exact (ih _).mp hr
    · intro h
      exact .cons rfl ((ih _).mpr h)

lemma run_total (next : σ → ε → σ) (s : σ) (es : List ε) :
    Run (Total next) s es (es.foldl next s) := (run_total_iff next s _ es).mpr rfl

lemma run_enabled_iff (next : σ → ε → Option σ) (s t : σ) (es : List ε) :
    Run (Enabled next) s es t ↔ es.foldlM next s = some t := by
  induction es generalizing s with
  | nil => exact ⟨fun h => by cases h; rfl, fun h => by cases h; exact .nil _⟩
  | cons e es ih =>
    rw [List.foldlM_cons]
    constructor
    · intro h
      cases h with
      | cons he hr =>
        have hb : next s e = some _ := he
        rw [hb]
        exact (ih _).mp hr
    · intro h
      cases hb : next s e with
      | none => simp [hb] at h
      | some a => exact .cons hb ((ih _).mpr (by simpa [hb] using h))

lemma run_enabled_unique {next : σ → ε → Option σ} {s t u : σ} {es : List ε} (h : Run (Enabled next) s es t)
    (h' : Run (Enabled next) s es u) : t = u :=
  Option.some.inj (((run_enabled_iff next s t es).mp h).symm.trans ((run_enabled_iff next s u es).mp h'))

/-- Where every step off the guard starts in `P` and ends in a state that `R` does not allow it, and a step on it keeps
`P` and `R`, the runs in which `R` holds from every state in `P` on are the guarded ones. -/
lemma stays_iff_guarded {next : σ → ε → Option σ} {P : σ → Prop} {R : σ → σ → Prop} {guard : σ → ε → Prop}
    (hstart : ∀ s, P s → R s s)
    (hkeep : ∀ a s e t, P s → R a s → guard s e → next s e = some t → P t ∧ R a t)
    (hbreak : ∀ s e t, ¬ guard s e → next s e = some t → P s ∧ ¬ R s t) {s t : σ} {es : List ε}
    (h : Run (Enabled next) s es t) :
    (∀ ds ds' u v, ds ++ ds' <+: es → Run (Enabled next) s ds u → Run (Enabled next) u ds' v → P u → R u v) ↔
      Run (Guarded (Enabled next) guard) s es t := by
  constructor
  · intro hstays
    induction h with
    | nil => exact .nil _
    | @cons a b c e es he _ ih =>
      refine .cons ⟨he, ?_⟩ (ih (fun ds ds' u v hpre hu hv => ?_))
      · by_contra hoff
        obtain ⟨hP, hbad⟩ := hbreak _ _ _ hoff he
        exact hbad (hstays [] [e] _ _ ⟨es, rfl⟩ (.nil _) (.single he) hP)
      · exact hstays (e :: ds) ds' u v (List.cons_prefix_cons.mpr ⟨rfl, hpre⟩) (.cons he hu) hv
  · rintro hguarded ds ds' u v ⟨rest, rfl⟩ hu hv hP
    obtain ⟨v', hfirst, _⟩ := hguarded.split
    obtain ⟨u', hdsu, hdsv⟩ := hfirst.split
    obtain rfl := run_enabled_unique hdsu.unguarded hu
    obtain rfl := run_enabled_unique hdsv.unguarded hv
    have hend : P v' ∧ R u' v' := hdsv.invariant (P := fun b => P b ∧ R u' b)
      (fun b e c hb he => hkeep u' b e c hb.1 hb.2 he.2 he.1) ⟨hP, hstart u' hP⟩
    exact hend.2

/-- Where a step on the guard keeps `J` and a step off it leads to what no step leaves, a run from `J` is guarded or
has gone wrong for good. -/
lemma guarded_or_bad {next : σ → ε → Option σ} {J bad : σ → Prop} {guard : σ → ε → Prop}
    (hkeep : ∀ s e t, J s → guard s e → next s e = some t → J t)
    (hbreak : ∀ s e t, J s → ¬ guard s e → next s e = some t → bad t)
    (hbad : ∀ s e t, bad s → next s e = some t → bad t) {s t : σ} {es : List ε} (hs : J s)
    (h : Run (Enabled next) s es t) : Run (Guarded (Enabled next) guard) s es t ∨ bad t := by
  induction h with
  | nil => exact Or.inl (.nil _)
  | @cons a b c e es he hrest ih =>
    by_cases hguard : guard a e
    · rcases ih (hkeep a e b hs hguard he) with hrun | hwrong
      · exact Or.inl (.cons ⟨he, hguard⟩ hrun)
      · exact Or.inr hwrong
    · exact Or.inr (hrest.invariant hbad (hbreak a e b hs hguard he))

def checked (next : σ → ε → Option σ) (guard : σ → ε → Prop) [∀ s e, Decidable (guard s e)] (s : σ) (e : ε) :
    Option σ := if guard s e then next s e else none

lemma run_checked {next : σ → ε → Option σ} {guard : σ → ε → Prop} [∀ s e, Decidable (guard s e)] {s t : σ}
    {es : List ε} (h : es.foldlM (checked next guard) s = some t) :
    Run (Guarded (Enabled next) guard) s es t := by
  refine ((run_enabled_iff _ _ _ _).mpr h).mono (fun a e b hab => ?_)
  rw [Enabled, checked, Option.ite_none_right_eq_some] at hab
  exact ⟨hab.2, hab.1⟩

lemma run_total_checked {next : σ → ε → σ} {guard : σ → ε → Prop} [∀ s e, Decidable (guard s e)] {s : σ}
    {es : List ε} (h : (es.foldlM (checked (fun s e => some (next s e)) guard) s).isSome) :
    Run (Guarded (Total next) guard) s es (es.foldl next s) := by
  obtain ⟨t, ht⟩ := Option.isSome_iff_exists.mp h
  have hrun : Run (Guarded (Total next) guard) s es t :=
    (run_checked ht).mono (fun a e b hab => ⟨Option.some.inj hab.1, hab.2⟩)
  rwa [(run_total_iff next s t es).mp hrun.unguarded]

lemma run_total_snoc {next : σ → ε → σ} {guard : σ → ε → Prop} {s : σ} {es : List ε} {e : ε}
    (h : Run (Guarded (Total next) guard) s es (es.foldl next s)) (he : guard (es.foldl next s) e) :
    Run (Guarded (Total next) guard) s (es ++ [e]) ((es ++ [e]).foldl next s) := by
  refine h.append (.single ⟨?_, he⟩)
  rw [Total, List.foldl_append, List.foldl_cons, List.foldl_nil]

/-- Where a step off the guard breaks the law and a step on it keeps the law, the runs that are lawful
throughout are the guarded ones; `fair` is what every step of the run is known to meet. -/
lemma lawful_iff_guarded_of_fair {next : σ → ε → σ} {J law : σ → Prop} {fair guard : σ → ε → Prop}
    (hinv : ∀ s e, J s → fair s e → J (next s e))
    (hkeep : ∀ s e, J s → law s → fair s e → guard s e → law (next s e))
    (hbreak : ∀ s e, J s → law s → fair s e → ¬ guard s e → ¬ law (next s e)) {s t : σ} {es : List ε} (his : J s)
    (hls : law s) (h : Run (Guarded (Total next) fair) s es t) :
    (∀ ds, ds <+: es → law (ds.foldl next s)) ↔ Run (Guarded (Total next) guard) s es t := by
  induction h with
  | nil =>
    refine ⟨fun _ => .nil _, fun _ ds hds => ?_⟩
    rw [List.prefix_nil.mp hds]
    exact hls
  | @cons s u t e es he _ ih =>
    obtain ⟨rfl, hfair⟩ := he
    constructor
    · intro hall
      have hlaw : law (next s e) := hall [e] ⟨es, rfl⟩
      have hguard : guard s e := by
        by_contra hoff
        exact hbreak s e his hls hfair hoff hlaw
      refine .cons ⟨rfl, hguard⟩ ((ih (hinv s e his hfair) hlaw).mp (fun ds hds => ?_))
      exact hall (e :: ds) (List.cons_prefix_cons.mpr ⟨rfl, hds⟩)
    · intro hrun ds hds
      cases hrun with
      | cons he hr =>
        obtain ⟨rfl, hguard⟩ := he
        cases ds with
        | nil => exact hls
        | cons d ds =>
          obtain ⟨rfl, hrest⟩ := List.cons_prefix_cons.mp hds
          exact (ih (hinv s d his hfair) (hkeep s d his hls hfair hguard)).mpr hr ds hrest

lemma lawful_iff_guarded {next : σ → ε → σ} {J law : σ → Prop} {guard : σ → ε → Prop}
    (hinv : ∀ s e, J s → J (next s e)) (hkeep : ∀ s e, J s → law s → guard s e → law (next s e))
    (hbreak : ∀ s e, J s → law s → ¬ guard s e → ¬ law (next s e)) {s : σ} (his : J s) (hls : law s)
    (es : List ε) :
    (∀ ds, ds <+: es → law (ds.foldl next s)) ↔
      Run (Guarded (Total next) guard) s es (es.foldl next s) :=
  lawful_iff_guarded_of_fair (fun s e hs _ => hinv s e hs)
    (fun s e hs hl _ hg => hkeep s e hs hl hg) (fun s e hs hl _ hg => hbreak s e hs hl hg) his hls
    ((run_total next s es).guarded (fun _ _ _ => trivial))

end Runs
