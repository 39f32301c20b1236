import Truckmaster.Library.Transactions

/-! A count with a bound: a transaction that raises the count has locked one fixed row and has then found the
count below the bound. -/

namespace Quotas

open ReadCommitted Runs Transactions

variable {D K W ε α I : Type}

inductive Phase
  | fresh | held | checked | spent | quiet

structure Counted (apply : W → D → D) (good : D → Prop) (count : D → ℕ) (raises : W → Prop) : Prop where
  good : ∀ w d, good d → good (apply w d)
  quiet : ∀ w d, ¬ raises w → count (apply w d) ≤ count d
  raised : ∀ w d, count (apply w d) ≤ count d + 1

inductive Move (row : K) (count : D → ℕ) (bound : ℕ) (raises : W → Prop) : Phase → Option K → D → List W → Phase → Prop
  | fresh (r : Option K) (d : D) : Move row count bound raises .fresh r d [] .fresh
  | lock (d : D) : Move row count bound raises .fresh (some row) d [] .held
  | held (r : Option K) (d : D) : Move row count bound raises .held r d [] .held
  | check (r : Option K) {d : D} (below : count d < bound) : Move row count bound raises .held r d [] .checked
  | spend (r : Option K) (d : D) (w : W) : Move row count bound raises .checked r d [w] .spent
  | checked (r : Option K) (d : D) {ws : List W} (h : ∀ w ∈ ws, ¬ raises w) :
      Move row count bound raises .checked r d ws .checked
  | spent (r : Option K) (d : D) {ws : List W} (h : ∀ w ∈ ws, ¬ raises w) :
      Move row count bound raises .spent r d ws .spent
  | leave (r : Option K) (d : D) {ws : List W} (h : ∀ w ∈ ws, ¬ raises w) :
      Move row count bound raises .fresh r d ws .quiet
  | quiet (r : Option K) (d : D) {ws : List W} (h : ∀ w ∈ ws, ¬ raises w) :
      Move row count bound raises .quiet r d ws .quiet

def Adds (apply : W → D → D) (count : D → ℕ) (n : ℕ) (ws : List W) : Prop :=
  ∀ d, count (ws.foldl (fun d w => apply w d) d) ≤ count d + n

/-- What a session in the phase knows of the lock, the count and its own writes. -/
def Phase.Knows (apply : W → D → D) (row : K) (count : D → ℕ) (bound : ℕ) (d : D) (owner : K → Option I) (i : I)
    (ws : List W) : Phase → Prop
  | .fresh => ws = []
  | .held => ws = [] ∧ owner row = some i
  | .checked => Adds apply count 0 ws ∧ owner row = some i ∧ count d < bound
  | .spent => Adds apply count 1 ws ∧ owner row = some i ∧ count d < bound
  | .quiet => Adds apply count 0 ws

structure Within (apply : W → D → D) (good : D → Prop) (row : K) (count : D → ℕ) (bound : ℕ) (d : D)
    (owner : K → Option I) (ws : I → List W) (g : I → Phase) : Prop where
  good : good d
  bounded : count d ≤ bound
  sessions : ∀ i, (g i).Knows apply row count bound d owner i (ws i)

section Quota

variable {apply : W → D → D} {good : D → Prop} {row : K} {count : D → ℕ} {bound : ℕ} {raises : W → Prop}
  {d d' : D} {owner owner' : K → Option I} {i : I} {ws vs : List W} {n : ℕ} {p p' : Phase}

lemma Adds.nil : Adds apply count n [] := fun d => Nat.le_add_right (count d) n

lemma Adds.append {m : ℕ} (h : Adds apply count n ws) (h' : Adds apply count m vs) :
    Adds apply count (n + m) (ws ++ vs) := by
  intro d
  rw [List.foldl_append]
  have hws := h d
  have hvs := h' (ws.foldl (fun d w => apply w d) d)
  omega

lemma Counted.adds_quiet (h : Counted apply good count raises) (hws : ∀ w ∈ ws, ¬ raises w) :
    Adds apply count 0 ws := by
  induction ws with
  | nil => exact Adds.nil
  | cons w ws ih =>
    obtain ⟨hw, hrest⟩ := List.forall_mem_cons.mp hws
    intro d
    have hfirst := h.quiet w d hw
    have hothers := ih hrest (apply w d)
    rw [List.foldl_cons]
    omega

lemma Counted.adds_one (h : Counted apply good count raises) (w : W) : Adds apply count 1 [w] := fun d => h.raised w d

/-- What a session knows stays true while the lock stays where it is and, where the session holds it, the count
does not rise. -/
lemma Phase.Knows.stable (h : p.Knows apply row count bound d owner i ws)
    (hlock : owner row = some i → owner' row = some i ∧ count d' ≤ count d) :
    p.Knows apply row count bound d' owner' i ws := by
  cases p with
  | fresh => exact h
  | held => exact ⟨h.1, (hlock h.2).1⟩
  | checked => exact ⟨h.1, (hlock h.2.1).1, (hlock h.2.1).2.trans_lt h.2.2⟩
  | spent => exact ⟨h.1, (hlock h.2.1).1, (hlock h.2.1).2.trans_lt h.2.2⟩
  | quiet => exact h

lemma Phase.Knows.adds (h : p.Knows apply row count bound d owner i ws) :
    Adds apply count 0 ws ∨ (owner row = some i ∧ count d < bound ∧ Adds apply count 1 ws) := by
  cases p with
  | fresh => exact Or.inl (h ▸ Adds.nil)
  | held => exact Or.inl (h.1 ▸ Adds.nil)
  | checked => exact Or.inl h.1
  | spent => exact Or.inr ⟨h.2.1, h.2.2, h.1⟩
  | quiet => exact Or.inl h

variable [DecidableEq I] [DecidableEq K]

omit [DecidableEq I] in
lemma Phase.Knows.moved (hcount : Counted apply good count raises) (h : p.Knows apply row count bound d owner i ws)
    {r : Option K} (hmove : Move row count bound raises p r (ws.foldl (fun d w => apply w d) d) vs p') :
    p'.Knows apply row count bound d (taking r i owner) i (ws ++ vs) := by
  cases hmove with
  | fresh => exact (List.append_nil ws).trans h
  | lock =>
    refine ⟨(List.append_nil ws).trans h, ?_⟩
    exact Function.update_self ..
  | held => exact ⟨(List.append_nil ws).trans h.1, taking_self h.2⟩
  | check r below =>
    obtain ⟨rfl, hlock⟩ := h
    exact ⟨Adds.nil, taking_self hlock, below⟩
  | spend r d w => exact ⟨h.1.append (hcount.adds_one w), taking_self h.2.1, h.2.2⟩
  | checked r d hws => exact ⟨h.1.append (hcount.adds_quiet hws), taking_self h.2.1, h.2.2⟩
  | spent r d hws => exact ⟨h.1.append (hcount.adds_quiet hws), taking_self h.2.1, h.2.2⟩
  | leave r d hws =>
    obtain rfl := h
    exact Adds.nil.append (hcount.adds_quiet hws)
  | quiet r d hws => exact Adds.append h (hcount.adds_quiet hws)

lemma within_marking (hcount : Counted apply good count raises) :
    Marking apply good (Move row count bound raises) .fresh (Within (I := I) apply good row count bound) := by
  constructor
  · intro d owner ws g i h
    exact Txn.foldl_apply (A := fun _ => True) (fun w d _ => hcount.good w d) (ws i) (fun _ _ => trivial) h.good
  · intro d owner ws g i r vs g' h hfree hmove
    refine ⟨h.good, h.bounded, fun j => ?_⟩
    by_cases hj : j = i
    · subst hj
      simp only [Function.update_self]
      exact (h.sessions j).moved hcount hmove
    · simp only [Function.update_of_ne hj]
      exact (h.sessions j).stable (fun hlock => ⟨taking_other hj hfree hlock, le_rfl⟩)
  · intro d owner ws g i h
    have hadds := (h.sessions i).adds
    have hgood := Txn.foldl_apply (A := fun _ => True) (fun w d _ => hcount.good w d) (ws i) (fun _ _ => trivial) h.good
    refine ⟨hgood, ?_, fun j => ?_⟩
    · rcases hadds with hnone | ⟨_, hbelow, hone⟩
      · exact (hnone d).trans h.bounded
      · have hraised := hone d
        omega
    · by_cases hj : j = i
      · subst hj
        simp only [Function.update_self]
        rfl
      · simp only [Function.update_of_ne hj]
        refine (h.sessions j).stable (fun hlock => ⟨releasing_other hj hlock, ?_⟩)
        -- the other session holds the row, so this one has not raised the count
        rcases hadds with hnone | ⟨hown, _, _⟩
        · exact hnone d
        · exact absurd (Option.some.inj (hlock.symm.trans hown)) hj
  · intro d owner ws g i h
    refine ⟨h.good, h.bounded, fun j => ?_⟩
    by_cases hj : j = i
    · subst hj
      simp only [Function.update_self]
      rfl
    · simp only [Function.update_of_ne hj]
      exact (h.sessions j).stable (fun hlock => ⟨releasing_other hj hlock, le_rfl⟩)

theorem count_within {lost : ε} {requests : I → Txn D K W ε α} {s : State D K I (Frame D K W ε α) W}
    {es : List (Event I)} (hcount : Counted apply good count raises) (hgood : good d) (hbound : count d ≤ bound)
    (hrequests : ∀ i, (requests i).Follows good (Move row count bound raises) .fresh (fun _ _ => True))
    (h : Run (Enabled (ReadCommitted.step (code apply lost))) (begin d (fun i => .running (requests i))) es s) :
    count s.committed ≤ bound := by
  obtain ⟨g, hwithin⟩ := (within_marking hcount).run ⟨hgood, hbound, fun _ => rfl⟩ hrequests h
  exact hwithin.bounded

end Quota

section Programs

variable {good : D → Prop} {row : K} {count : D → ℕ} {bound : ℕ} {raises : W → Prop} {p : Txn D K W ε α}

lemma follows_quiet (h : p.Writes (fun w => ¬ raises w)) {g : Phase} (hg : g = .checked ∨ g = .spent ∨ g = .quiet) :
    p.Follows good (Move row count bound raises) g (fun _ g' => g' = g) := by
  induction p with
  | done a => rfl
  | throw e => trivial
  | statement r writes next ih =>
    intro d _
    refine ⟨g, ?_, ih d (h d).2⟩
    rcases hg with rfl | rfl | rfl
    · exact .checked r d (h d).1
    · exact .spent r d (h d).1
    · exact .quiet r d (h d).1

lemma follows_leave (h : p.Writes (fun w => ¬ raises w)) :
    p.Follows good (Move row count bound raises) .fresh (fun _ _ => True) := by
  cases p with
  | done a => trivial
  | throw e => trivial
  | statement r writes next =>
    intro d _
    exact ⟨.quiet, .leave r d (h d).1, (follows_quiet (h d).2 (Or.inr (Or.inr rfl))).mono (fun _ _ _ => trivial)⟩

lemma follows_silent (h : p.Writes (fun _ => False)) {g : Phase} (hg : g = .fresh ∨ g = .held) :
    p.Follows good (Move row count bound raises) g (fun _ g' => g' = g) := by
  induction p with
  | done a => rfl
  | throw e => trivial
  | statement r writes next ih =>
    intro d _
    have hnone : writes d = [] := List.eq_nil_iff_forall_not_mem.mpr (h d).1
    refine ⟨g, ?_, ih d (h d).2⟩
    rw [hnone]
    rcases hg with rfl | rfl
    · exact .fresh r d
    · exact .held r d

section Sequencing

variable {β : Type} {f : α → Txn D K W ε β} {Q : β → Phase → Prop}

lemma follows_silent_bind {g : Phase} (hp : p.Writes (fun _ => False)) (hg : g = .fresh ∨ g = .held)
    (hf : ∀ a, (f a).Follows good (Move row count bound raises) g Q) :
    (p >>= f).Follows good (Move row count bound raises) g Q := by
  refine Txn.Follows.bind ((follows_silent hp hg).mono (fun a g' hg' => ?_))
  rw [hg']
  exact hf a

lemma follows_checked_bind (hp : p.Writes (fun w => ¬ raises w))
    (hf : ∀ a, (f a).Follows good (Move row count bound raises) .checked Q) :
    (p >>= f).Follows good (Move row count bound raises) .checked Q := by
  refine Txn.Follows.bind ((follows_quiet hp (Or.inl rfl)).mono (fun a g' hg' => ?_))
  rw [hg']
  exact hf a

lemma follows_spend {r : Option K} {w : W} {f : Unit → Txn D K W ε β}
    (hf : (f ()).Writes (fun w => ¬ raises w)) :
    ((Txn.statement r (fun _ => [w]) (fun _ => .done ()) : Txn D K W ε Unit) >>= f).Follows good
      (Move row count bound raises) .checked (fun _ g => g = .spent) :=
  Txn.Follows.bind (fun d _ => ⟨.spent, .spend r d w, follows_quiet hf (Or.inr (Or.inl rfl))⟩)

end Sequencing

end Programs

end Quotas
