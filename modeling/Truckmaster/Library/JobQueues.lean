import Mathlib.Tactic

/-! A queue of jobs known by their ids. A job that fails runs again until its last attempt, a lost one runs again unless
it has been lost before, and a finished job keeps its id until it is evicted. -/

namespace JobQueues

variable {κ δ : Type*}

inductive JobStatus
  | waiting | active | delayed | completed | failed
  deriving DecidableEq, Repr

structure Job (δ : Type*) where
  data : δ
  status : JobStatus := .waiting
  attemptsMade : ℕ := 0
  stalledCounter : ℕ := 0
  deriving DecidableEq, Repr

def maxStalledCount : ℕ := 1

/-- A worker that stalls is lost after it has done the work, or before. -/
inductive Move
  | start | complete | stall (done : Bool) | fail | wake | evict
  deriving DecidableEq, Repr

def Move.works : Move → Bool
  | .complete => true
  | .stall done => done
  | _ => false

namespace Job

def pending (j : Job δ) : Bool :=
  match j.status with
  | .waiting => true
  | .active => true
  | .delayed => true
  | _ => false

def move (attempts : ℕ) (j : Job δ) : Move → Option (Option (Job δ))
  | .start => if j.status = .waiting then some (some { j with status := .active }) else none
  | .complete => if j.status = .active then some (some { j with status := .completed }) else none
  | .stall _ =>
    if j.status = .active then
      some (some { j with
        status := if maxStalledCount < j.stalledCounter + 1 then .failed else .waiting
        stalledCounter := j.stalledCounter + 1 })
    else none
  | .fail =>
    if j.status = .active then
      some (some { j with
        status := if j.attemptsMade + 1 < attempts then .delayed else .failed
        attemptsMade := j.attemptsMade + 1 })
    else none
  | .wake => if j.status = .delayed then some (some { j with status := .waiting }) else none
  | .evict => if j.pending then none else some none

/-- The queue gives the job up before its work is done. -/
def givesUp (attempts : ℕ) (j : Job δ) : Move → Bool
  | .fail => decide (attempts ≤ j.attemptsMade + 1)
  | .stall done => !done && decide (maxStalledCount < j.stalledCounter + 1)
  | _ => false

variable {attempts : ℕ} {j : Job δ} {m : Move} {next : Option (Job δ)}

lemma move_cases (h : j.move attempts m = some next) :
    (∃ j', next = some j' ∧ j'.data = j.data ∧ j.pending = true ∧ j'.pending = true) ∨
    (∃ j', next = some j' ∧ j'.data = j.data ∧ j.pending = true ∧ j'.pending = false ∧
      (m.works = true ∨ m.works = false ∧ j.givesUp attempts m = true)) ∨
    (next = none ∧ j.pending = false ∧ m = .evict) := by
  cases m with
  | start =>
    obtain ⟨hstatus, rfl⟩ := by simpa [move] using h
    exact .inl ⟨_, rfl, rfl, by simp [pending, hstatus], rfl⟩
  | complete =>
    obtain ⟨hstatus, rfl⟩ := by simpa [move] using h
    exact .inr (.inl ⟨_, rfl, rfl, by simp [pending, hstatus], rfl, .inl rfl⟩)
  | stall done =>
    obtain ⟨hstatus, rfl⟩ := by simpa only [move, Option.ite_none_right_eq_some, Option.some.injEq] using h
    by_cases hover : maxStalledCount < j.stalledCounter + 1
    · exact .inr (.inl ⟨_, rfl, rfl, by simp [pending, hstatus], by simp [pending, hover],
        by cases done <;> simp [Move.works, givesUp, hover]⟩)
    · exact .inl ⟨_, rfl, rfl, by simp [pending, hstatus], by simp [pending, hover]⟩
  | fail =>
    obtain ⟨hstatus, rfl⟩ := by simpa [move] using h
    by_cases hlast : j.attemptsMade + 1 < attempts
    · exact .inl ⟨_, rfl, rfl, by simp [pending, hstatus], by simp [pending, hlast]⟩
    · exact .inr (.inl ⟨_, rfl, rfl, by simp [pending, hstatus], by simp [pending, hlast],
        .inr ⟨rfl, decide_eq_true (not_lt.mp hlast)⟩⟩)
  | wake =>
    obtain ⟨hstatus, rfl⟩ := by simpa [move] using h
    exact .inl ⟨_, rfl, rfl, by simp [pending, hstatus], rfl⟩
  | evict =>
    obtain ⟨hpending, rfl⟩ := by simpa [move] using h
    exact .inr (.inr ⟨rfl, hpending, rfl⟩)

lemma move_givesUp (h : j.move attempts m = some next) (hover : j.givesUp attempts m = true) : j.status = .active := by
  cases m with
  | fail =>
    by_contra hstatus
    simp [move, hstatus] at h
  | stall done =>
    by_contra hstatus
    simp [move, hstatus] at h
  | start | complete | wake | evict => cases hover

lemma move_works (h : j.move attempts m = some next) (hworks : m.works = true) : j.pending = true := by
  rcases move_cases h with ⟨_, _, _, hpending, _⟩ | ⟨_, _, _, hpending, _⟩ | ⟨_, _, rfl⟩
  · exact hpending
  · exact hpending
  · cases hworks

end Job

abbrev Queue (κ δ : Type*) := κ → Option (Job δ)

namespace Queue

variable [DecidableEq κ] {queue : Queue κ δ} {id id' : κ} {data : δ} {j : Job δ}

/-- A job whose id is taken, also by a finished job, is not added. -/
def add (queue : Queue κ δ) (id : κ) (data : δ) : Queue κ δ :=
  match queue id with
  | some _ => queue
  | none => Function.update queue id (some { data })

def Pending (queue : Queue κ δ) (id : κ) : Prop := ∃ j, queue id = some j ∧ j.pending = true

omit [DecidableEq κ] in
lemma not_pending_of_all (h : (queue id).all (fun j => !j.pending) = true) : ¬ queue.Pending id := by
  rintro ⟨j, hj, hpending⟩
  rw [hj] at h
  simp [hpending] at h

lemma add_taken (h : queue id = some j) : queue.add id data = queue := by simp [add, h]

lemma add_free (h : queue id = none) : queue.add id data = Function.update queue id (some { data }) := by simp [add, h]

lemma add_other (h : id' ≠ id) : queue.add id data id' = queue id' := by
  cases hid : queue id with
  | some _ => rw [add_taken hid]
  | none => rw [add_free hid, Function.update_of_ne h]

lemma foldl_add_other {jobs : List (κ × δ)} (h : ∀ job ∈ jobs, job.1 ≠ id) :
    jobs.foldl (fun queue job => queue.add job.1 job.2) queue id = queue id := by
  induction jobs generalizing queue with
  | nil => rfl
  | cons job jobs ih =>
    obtain ⟨hfirst, hrest⟩ := List.forall_mem_cons.mp h
    rw [List.foldl_cons, ih hrest, add_other hfirst.symm]

lemma foldl_add_taken {jobs : List (κ × δ)} (h : queue id = some j) :
    jobs.foldl (fun queue job => queue.add job.1 job.2) queue id = some j := by
  induction jobs generalizing queue with
  | nil => exact h
  | cons job jobs ih =>
    rw [List.foldl_cons]
    refine ih ?_
    by_cases hid : id = job.1
    · rw [← hid, add_taken h, h]
    · rw [add_other hid, h]

lemma foldl_add_free {jobs : List (κ × δ)} (h : queue id = none) :
    jobs.foldl (fun queue job => queue.add job.1 job.2) queue id =
      (jobs.find? (fun job => job.1 = id)).map (fun job => { data := job.2 }) := by
  induction jobs generalizing queue with
  | nil => exact h
  | cons job jobs ih =>
    by_cases hid : id = job.1
    · subst hid
      rw [List.foldl_cons, add_free h, foldl_add_taken (Function.update_self _ _ _)]
      simp
    · rw [List.foldl_cons, ih (by rw [add_other hid, h]), List.find?_cons_of_neg (by simpa using Ne.symm hid)]

end Queue

end JobQueues
