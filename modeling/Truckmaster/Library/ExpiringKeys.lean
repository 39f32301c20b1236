import Mathlib.Data.List.Basic
import Mathlib.Tactic

/-! A store of keys that may run out, with the commands on single values and on sets of members. -/

namespace ExpiringKeys

variable {κ α β : Type}

/-- A key without an expiry stays until it is deleted. -/
structure Entry (α : Type) where
  value : α
  expiresAt : Option ℤ

def Entry.live (now : ℤ) (e : Entry α) : Bool := e.expiresAt.all (fun t => decide (now < t))

lemma Entry.live_earlier {e : Entry α} {now later : ℤ} (hle : now ≤ later) (h : e.live later = true) :
    e.live now = true := by
  unfold Entry.live at *
  cases hexpires : e.expiresAt with
  | none => rfl
  | some t =>
    rw [hexpires, Option.all_some, decide_eq_true_eq] at h
    rw [Option.all_some, decide_eq_true_eq]
    exact hle.trans_lt h

def Keys (κ α : Type) : Type := κ → Option (Entry α)

namespace Keys

def empty : Keys κ α := fun _ => none

def current (s : Keys κ α) (now : ℤ) (k : κ) : Option (Entry α) := (s k).filter (Entry.live now)

def get (s : Keys κ α) (now : ℤ) (k : κ) : Option α := (s.current now k).map Entry.value

def smembers (s : Keys κ (List β)) (now : ℤ) (k : κ) : List β := (s.get now k).getD []

variable [DecidableEq κ] [DecidableEq β]

def put (s : Keys κ α) (k : κ) (e : Option (Entry α)) : Keys κ α := fun k' => if k' = k then e else s k'

def set (s : Keys κ α) (k : κ) (v : α) (expiresAt : ℤ) : Keys κ α := s.put k (some ⟨v, some expiresAt⟩)

def del (s : Keys κ α) (k : κ) : Keys κ α := s.put k none

def expire (s : Keys κ α) (now : ℤ) (k : κ) (expiresAt : ℤ) : Keys κ α :=
  s.put k ((s.current now k).map (fun e => { e with expiresAt := some expiresAt }))

def addTo (b : β) : Option (Entry (List β)) → Entry (List β)
  | none => ⟨[b], none⟩
  | some e => { e with value := if b ∈ e.value then e.value else e.value ++ [b] }

def sadd (s : Keys κ (List β)) (now : ℤ) (k : κ) (b : β) : Keys κ (List β) :=
  s.put k (some (addTo b (s.current now k)))

/-- A set that loses its last member is gone. -/
def srem (s : Keys κ (List β)) (now : ℤ) (k : κ) (b : β) : Keys κ (List β) :=
  s.put k (((s.current now k).map (fun e => { e with value := e.value.filter (fun c => c ≠ b) })).filter
    (fun e => !e.value.isEmpty))

section Get

variable {s : Keys κ α} {now later t : ℤ} {k k' : κ} {v : α}

omit [DecidableEq κ] in
lemma get_eq_some : s.get now k = some v ↔ ∃ e, s k = some e ∧ e.live now = true ∧ e.value = v := by
  simp only [get, current, Option.map_eq_some_iff, Option.filter_eq_some_iff, and_assoc]

omit [DecidableEq κ] in
lemma get_earlier (hle : now ≤ later) (h : s.get later k = some v) : s.get now k = some v := by
  obtain ⟨e, hentry, hlive, hvalue⟩ := get_eq_some.mp h
  exact get_eq_some.mpr ⟨e, hentry, e.live_earlier hle hlive, hvalue⟩

omit [DecidableEq κ] in
lemma current_live {e : Entry α} (h : s.current now k = some e) : e.live now = true := by
  rw [current, Option.filter_eq_some_iff] at h
  exact h.2

lemma current_put {e : Option (Entry α)} :
    (s.put k e).current now k' = if k' = k then e.filter (Entry.live now) else s.current now k' := by
  unfold current put
  split <;> rfl

lemma get_put {e : Option (Entry α)} :
    (s.put k e).get now k' = if k' = k then (e.filter (Entry.live now)).map Entry.value else s.get now k' := by
  rw [get, current_put]
  split <;> rfl

lemma get_set (ht : now < t) : (s.set k v t).get now k' = if k' = k then some v else s.get now k' := by
  have hlive : Entry.live now ⟨v, some t⟩ = true := decide_eq_true ht
  rw [set, get_put, Option.filter_some, if_pos hlive, Option.map_some]

lemma get_del : (s.del k).get now k' = if k' = k then none else s.get now k' := get_put

@[simp] lemma get_expire (ht : now < t) : (s.expire now k t).get now k' = s.get now k' := by
  rw [expire, get_put]
  split
  next h =>
    subst h
    unfold get
    cases s.current now k' with
    | none => rfl
    | some e => simp [Entry.live, ht]
  next h => rfl

end Get

section Members

variable {s : Keys κ (List β)} {now later t : ℤ} {k k' : κ} {b c : β}

omit [DecidableEq κ] [DecidableEq β] in
lemma mem_smembers : b ∈ s.smembers now k ↔ ∃ members, s.get now k = some members ∧ b ∈ members := by
  unfold smembers
  cases s.get now k <;> simp

omit [DecidableEq κ] [DecidableEq β] in
lemma mem_smembers_later (hle : now ≤ later) (hlive : (s.get later k).isSome) (h : b ∈ s.smembers now k) :
    b ∈ s.smembers later k := by
  obtain ⟨members, hget⟩ := Option.isSome_iff_exists.mp hlive
  rw [smembers, get_earlier hle hget] at h
  exact mem_smembers.mpr ⟨members, hget, h⟩

lemma mem_smembers_sadd : c ∈ (s.sadd now k b).smembers now k' ↔ c ∈ s.smembers now k' ∨ k' = k ∧ c = b := by
  rw [smembers, sadd, get_put]
  split
  next h =>
    subst h
    unfold smembers get
    cases hcurrent : s.current now k' with
    | none =>
      have hlive : (addTo b none).live now = true := rfl
      rw [Option.filter_some, if_pos hlive]
      simp [addTo]
    | some e =>
      have hlive : (addTo b (some e)).live now = true := by
        have := current_live hcurrent
        exact this
      rw [Option.filter_some, if_pos hlive, Option.map_some, Option.map_some, Option.getD_some, Option.getD_some, addTo]
      by_cases hb : b ∈ e.value
      · rw [if_pos hb]
        exact ⟨Or.inl, fun h => h.elim id (fun h => h.2 ▸ hb)⟩
      · rw [if_neg hb, List.mem_append, List.mem_singleton]
        simp
  next h => simp [h, smembers]

lemma mem_smembers_srem : c ∈ (s.srem now k b).smembers now k' ↔ c ∈ s.smembers now k' ∧ ¬ (k' = k ∧ c = b) := by
  rw [smembers, srem, get_put]
  split
  next h =>
    subst h
    unfold smembers get
    cases hcurrent : s.current now k' with
    | none => simp
    | some e =>
      let rest : Entry (List β) := { e with value := e.value.filter (fun c => c ≠ b) }
      have hlive : rest.live now = true := by
        have := current_live hcurrent
        exact this
      have hmem : c ∈ rest.value ↔ c ∈ e.value ∧ ¬ (k' = k' ∧ c = b) := by simp [rest, List.mem_filter]
      rw [Option.map_some, Option.map_some, Option.getD_some, ← hmem]
      change c ∈ ((((some rest).filter (fun e => !e.value.isEmpty)).filter (Entry.live now)).map Entry.value).getD [] ↔ _
      cases hvalue : rest.value with
      | nil =>
        rw [Option.filter_some, if_neg (by simp [hvalue]), Option.filter_none, Option.map_none, Option.getD_none]
      | cons a as =>
        rw [Option.filter_some, if_pos (by simp [hvalue]), Option.filter_some, if_pos hlive, Option.map_some,
          Option.getD_some, hvalue]
  next h => simp [h, smembers]

omit [DecidableEq β] in
lemma mem_smembers_del : c ∈ (s.del k).smembers now k' ↔ c ∈ s.smembers now k' ∧ k' ≠ k := by
  rw [smembers, get_del]
  split
  next h => simp [h]
  next h => simp [smembers, h]

omit [DecidableEq β] in
@[simp] lemma smembers_expire (ht : now < t) : (s.expire now k t).smembers now k' = s.smembers now k' := by
  rw [smembers, get_expire ht, smembers]

end Members

end Keys

end ExpiringKeys
