import Truckmaster.Library.JobQueues
import Truckmaster.Library.Runs

/-! A worker that goes through the jobs of a queue and writes a store. -/

namespace JobQueues

open Runs

variable {σ κ δ τ : Type*} [DecidableEq κ]

structure WorkState (σ κ δ : Type*) where
  store : σ
  queue : Queue κ δ

structure WorkEvent (κ τ : Type*) where
  id : κ
  move : Move
  now : τ
  deriving DecidableEq, Repr

namespace WorkState

def next (attempts : ℕ) (process : κ → δ → τ → σ → σ) (s : WorkState σ κ δ) (e : WorkEvent κ τ) : WorkState σ κ δ :=
  match s.queue e.id with
  | none => s
  | some j =>
    match j.move attempts e.move with
    | none => s
    | some job =>
      { store := if e.move.works then process e.id j.data e.now s.store else s.store
        queue := Function.update s.queue e.id job }

lemma next_cases (attempts : ℕ) (process : κ → δ → τ → σ → σ) (s : WorkState σ κ δ) (e : WorkEvent κ τ) :
    s.next attempts process e = s ∨ ∃ j job, s.queue e.id = some j ∧ j.move attempts e.move = some job ∧
      s.next attempts process e = ⟨if e.move.works then process e.id j.data e.now s.store else s.store,
        Function.update s.queue e.id job⟩ := by
  unfold next
  cases hj : s.queue e.id with
  | none => exact .inl rfl
  | some j =>
    dsimp only
    cases hmove : j.move attempts e.move with
    | none => exact .inl rfl
    | some job => exact .inr ⟨j, job, rfl, hmove, rfl⟩

lemma queue_none {attempts : ℕ} {process : κ → δ → τ → σ → σ} {s t : WorkState σ κ δ} {es : List (WorkEvent κ τ)} {k : κ}
    (hrun : Run (Total (next attempts process)) s es t) (hk : s.queue k = none) : t.queue k = none := by
  refine hrun.invariant (P := fun s => s.queue k = none) (fun s e t hnone he => ?_) hk
  obtain heq | ⟨j, job, hj, _, heq⟩ := s.next_cases attempts process e
  · rw [← he, heq]
    exact hnone
  · have hne : k ≠ e.id := by
      rintro rfl
      rw [hnone] at hj
      cases hj
    rw [← he, heq]
    exact (Function.update_of_ne hne _ _).trans hnone

def Lasts (attempts : ℕ) (s : WorkState σ κ δ) (e : WorkEvent κ τ) : Prop :=
  ∀ j, s.queue e.id = some j → j.givesUp attempts e.move = false

instance (attempts : ℕ) (s : WorkState σ κ δ) (e : WorkEvent κ τ) : Decidable (Lasts attempts s e) :=
  decidable_of_iff (∀ j ∈ s.queue e.id, j.givesUp attempts e.move = false) Iff.rfl

end WorkState

/-- What the work on `jobs` keeps, and that each job leaves its mark, which no other one takes away. -/
structure Leaves (process : κ → δ → τ → σ → σ) (jobs : κ → Option δ) (good : σ → Prop) (done : κ → σ → Prop) : Prop where
  keeps : ∀ k data now s, jobs k = some data → good s → good (process k data now s)
  marks : ∀ k data now s, jobs k = some data → good s → done k (process k data now s)
  stays : ∀ k data k' now s, jobs k = some data → good s → k' ≠ k → done k' s → done k' (process k data now s)

section Leaves

variable {attempts : ℕ} {process : κ → δ → τ → σ → σ} {jobs : κ → Option δ} {good : σ → Prop} {done : κ → σ → Prop}
  {s s₀ : WorkState σ κ δ} {e : WorkEvent κ τ}

/-- Every job is pending or has left its mark, and nothing else is pending. -/
structure Underway (jobs : κ → Option δ) (good : σ → Prop) (done : κ → σ → Prop) (s : WorkState σ κ δ) : Prop where
  good : good s.store
  known : ∀ k j, s.queue k = some j → j.pending = true → jobs k = some j.data
  left : ∀ k data, jobs k = some data → s.queue.Pending k ∨ done k s.store

lemma Leaves.done_process (h : Leaves process jobs good done) {k k' : κ} {data : δ} {now : τ} {d : σ}
    (hjob : jobs k = some data) (hgood : good d) (hdone : done k' d) : done k' (process k data now d) := by
  by_cases hk : k' = k
  · subst hk
    exact h.marks _ _ _ _ hjob hgood
  · exact h.stays _ _ _ _ _ hjob hgood hk hdone

lemma Leaves.next_underway (h : Leaves process jobs good done) (hs : Underway jobs good done s)
    (hlast : s.Lasts attempts e) : Underway jobs good done (s.next attempts process e) := by
  obtain heq | ⟨j, job, hj, hmove, heq⟩ := s.next_cases attempts process e
  · rw [heq]
    exact hs
  rw [heq]
  have hworks (hw : e.move.works = true) : jobs e.id = some j.data := hs.known _ _ hj (Job.move_works hmove hw)
  have hdata : ∀ j', job = some j' → j'.data = j.data ∧ (j'.pending = true → j.pending = true) := by
    rintro j' rfl
    obtain ⟨j'', hsame, hdata, hpending, _⟩ | ⟨j'', hsame, hdata, hpending, _⟩ | ⟨hnone, _⟩ := Job.move_cases hmove
    · obtain rfl := Option.some.inj hsame
      exact ⟨hdata, fun _ => hpending⟩
    · obtain rfl := Option.some.inj hsame
      exact ⟨hdata, fun _ => hpending⟩
    · cases hnone
  refine ⟨?_, fun k j' hj' hpending => ?_, fun k data hk => ?_⟩
  · dsimp only
    split
    next hw => exact h.keeps _ _ _ _ (hworks hw) hs.good
    next => exact hs.good
  · dsimp only at hj'
    by_cases hke : k = e.id
    · subst hke
      rw [Function.update_self] at hj'
      obtain ⟨hsame, hold⟩ := hdata j' hj'
      rw [hsame]
      exact hs.known _ _ hj (hold hpending)
    · rw [Function.update_of_ne hke] at hj'
      exact hs.known k j' hj' hpending
  · rcases hs.left k data hk with ⟨j', hj', hpending⟩ | hdone
    · by_cases hke : k = e.id
      · subst hke
        obtain rfl := Option.some.inj (hj.symm.trans hj')
        obtain ⟨j'', rfl, _, _, hstill⟩ | ⟨j'', rfl, _, _, _, hcause⟩ | ⟨_, hover, _⟩ := Job.move_cases hmove
        · exact .inl ⟨j'', Function.update_self .., hstill⟩
        · rcases hcause with hw | ⟨_, hover⟩
          · right
            dsimp only
            rw [if_pos hw]
            exact h.marks _ _ _ _ (hworks hw) hs.good
          · rw [hlast j hj] at hover
            cases hover
        · rw [hpending] at hover
          cases hover
      · exact .inl ⟨j', (Function.update_of_ne hke _ _).trans hj', hpending⟩
    · right
      dsimp only
      split
      next hw => exact h.done_process (hworks hw) hs.good hdone
      next => exact hdone

theorem Leaves.drained (h : Leaves process jobs good done) (hs : Underway jobs good done s₀) {es : List (WorkEvent κ τ)}
    (hrun : Run (Guarded (Total (WorkState.next attempts process)) (WorkState.Lasts attempts)) s₀ es s)
    (hquiet : ∀ k, ¬ s.queue.Pending k) : good s.store ∧ ∀ k data, jobs k = some data → done k s.store := by
  have hunderway : Underway jobs good done s := by
    refine hrun.invariant (fun s e t hs he => ?_) hs
    obtain ⟨rfl, hlast⟩ := he
    exact h.next_underway hs hlast
  exact ⟨hunderway.good, fun k data hk => (hunderway.left k data hk).resolve_left (hquiet k)⟩

end Leaves

section Added

variable {jobs : List (κ × δ)} {queue : Queue κ δ}

lemma Queue.foldl_add_pending (hfree : ∀ job ∈ jobs, queue job.1 = none) (hdistinct : (jobs.map Prod.fst).Nodup) {k : κ}
    {data : δ} (hmem : (k, data) ∈ jobs) :
    jobs.foldl (fun queue job => queue.add job.1 job.2) queue k = some { data } := by
  rw [Queue.foldl_add_free (hfree _ hmem)]
  have hfound : (jobs.find? (fun job => job.1 = k)).isSome :=
    List.find?_isSome.mpr ⟨_, hmem, decide_eq_true rfl⟩
  obtain ⟨job, hjob⟩ := Option.isSome_iff_exists.mp hfound
  have hkey : job.1 = k := by simpa using List.find?_some hjob
  have hsame : job = (k, data) := List.inj_on_of_nodup_map hdistinct (List.mem_of_find?_eq_some hjob) hmem hkey
  rw [hjob, hsame, Option.map_some]

lemma underway_of_added {work : κ → Option δ} {good : σ → Prop} {done : κ → σ → Prop} {store : σ}
    (hfree : ∀ job ∈ jobs, queue job.1 = none) (hdistinct : (jobs.map Prod.fst).Nodup) (hidle : ∀ k, ¬ queue.Pending k)
    (hwork : ∀ k data, work k = some data ↔ (k, data) ∈ jobs) (hgood : good store) :
    Underway work good done ⟨store, jobs.foldl (fun queue job => queue.add job.1 job.2) queue⟩ := by
  refine ⟨hgood, fun k j hj hpending => ?_, fun k data hk => ?_⟩
  · by_cases hk : ∃ data, (k, data) ∈ jobs
    · obtain ⟨data, hmem⟩ := hk
      have hadded := Queue.foldl_add_pending hfree hdistinct hmem
      obtain rfl := Option.some.inj (hadded.symm.trans hj)
      exact (hwork k data).mpr hmem
    · have hother : ∀ job ∈ jobs, job.1 ≠ k := by
        rintro job hjob rfl
        exact hk ⟨job.2, hjob⟩
      exact absurd ⟨j, (Queue.foldl_add_other hother).symm.trans hj, hpending⟩ (hidle k)
  · exact .inl ⟨_, Queue.foldl_add_pending hfree hdistinct ((hwork k data).mp hk), rfl⟩

end Added

end JobQueues
