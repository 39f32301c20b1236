import Mathlib.Data.List.Basic
import Mathlib.Tactic

/-! Events that are stored as one copy for each recipient, and what tells the copies of one event from another. -/

namespace Fanouts

structure Post (ρ κ υ : Type) where
  key : ρ → κ
  recipient : ρ → υ
  event : ρ → ℕ
  time : ρ → ℤ
  read : ρ → Bool

variable {ρ κ υ : Type} (p : Post ρ κ υ)

/-- Copies of an event are at most `gap` apart; an earlier event with the same key is all read, and further back. -/
structure Log (gap : ℤ) (rows : List ρ) (fired : ℕ) : Prop where
  fired : ∀ a ∈ rows, p.event a < fired
  once : ∀ a ∈ rows, ∀ b ∈ rows, p.event a = p.event b → p.recipient a = p.recipient b → a = b
  together : ∀ a ∈ rows, ∀ b ∈ rows, p.event a = p.event b → p.key a = p.key b ∧ p.time b ≤ p.time a + gap
  apart : ∀ a ∈ rows, ∀ b ∈ rows, p.key a = p.key b → p.event a < p.event b →
    p.time a + gap < p.time b ∧ p.read a = true

variable {p} {gap : ℤ} {rows new : List ρ} {fired : ℕ} {a b : ρ}

lemma log_nil : Log p gap [] fired := by
  constructor <;> intro a ha <;> cases ha

namespace Log

variable (h : Log p gap rows fired)

include h

lemma unread_event (ha : a ∈ rows) (hb : b ∈ rows) (hkey : p.key a = p.key b) (hra : p.read a = false)
    (hrb : p.read b = false) : p.event a = p.event b := by
  rcases lt_trichotomy (p.event a) (p.event b) with hlt | heq | hgt
  · rw [(h.apart a ha b hb hkey hlt).2] at hra
    cases hra
  · exact heq
  · rw [(h.apart b hb a ha hkey.symm hgt).2] at hrb
    cases hrb

lemma event_iff_time (ha : a ∈ rows) (hb : b ∈ rows) (hkey : p.key a = p.key b) (hrb : p.read b = false) :
    p.event a = p.event b ↔ p.time b - gap ≤ p.time a := by
  constructor
  · intro heq
    have hnear := (h.together a ha b hb heq).2
    omega
  · intro htime
    rcases lt_trichotomy (p.event a) (p.event b) with hlt | heq | hgt
    · have hfar := (h.apart a ha b hb hkey hlt).1
      omega
    · exact heq
    · rw [(h.apart b hb a ha hkey.symm hgt).2] at hrb
      cases hrb

lemma mark (f : ρ → ρ) (hkey : ∀ a, p.key (f a) = p.key a) (hrecipient : ∀ a, p.recipient (f a) = p.recipient a)
    (hevent : ∀ a, p.event (f a) = p.event a) (htime : ∀ a, p.time (f a) = p.time a)
    (hread : ∀ a, p.read a = true → p.read (f a) = true) : Log p gap (rows.map f) fired := by
  constructor
  · intro x hx
    obtain ⟨a, ha, rfl⟩ := List.mem_map.mp hx
    rw [hevent]
    exact h.fired a ha
  · intro x hx y hy heq hrec
    obtain ⟨a, ha, rfl⟩ := List.mem_map.mp hx
    obtain ⟨b, hb, rfl⟩ := List.mem_map.mp hy
    rw [hevent, hevent] at heq
    rw [hrecipient, hrecipient] at hrec
    rw [h.once a ha b hb heq hrec]
  · intro x hx y hy heq
    obtain ⟨a, ha, rfl⟩ := List.mem_map.mp hx
    obtain ⟨b, hb, rfl⟩ := List.mem_map.mp hy
    rw [hevent, hevent] at heq
    rw [hkey, hkey, htime, htime]
    exact h.together a ha b hb heq
  · intro x hx y hy hsame hlt
    obtain ⟨a, ha, rfl⟩ := List.mem_map.mp hx
    obtain ⟨b, hb, rfl⟩ := List.mem_map.mp hy
    rw [hkey, hkey] at hsame
    rw [hevent, hevent] at hlt
    rw [htime, htime]
    obtain ⟨hfar, hra⟩ := h.apart a ha b hb hsame hlt
    exact ⟨hfar, hread a hra⟩

lemma post (k : κ) (hevent : ∀ b ∈ new, p.event b = fired) (hkey : ∀ b ∈ new, p.key b = k)
    (honce : ∀ a ∈ new, ∀ b ∈ new, p.recipient a = p.recipient b → a = b)
    (hnear : ∀ a ∈ new, ∀ b ∈ new, p.time b ≤ p.time a + gap)
    (hold : ∀ a ∈ rows, p.key a = k → p.read a = true ∧ ∀ b ∈ new, p.time a + gap < p.time b) :
    Log p gap (rows ++ new) (fired + 1) := by
  have hlater (a b : ρ) (ha : a ∈ rows) (hb : b ∈ new) : p.event a < p.event b := by
    rw [hevent b hb]
    exact h.fired a ha
  constructor
  · intro a ha
    rcases List.mem_append.mp ha with ha | ha
    · exact Nat.lt_succ_of_lt (h.fired a ha)
    · rw [hevent a ha]
      exact Nat.lt_succ_self fired
  · intro a ha b hb heq hrec
    rcases List.mem_append.mp ha with ha | ha <;> rcases List.mem_append.mp hb with hb | hb
    · exact h.once a ha b hb heq hrec
    · exact absurd heq (hlater a b ha hb).ne
    · exact absurd heq (hlater b a hb ha).ne'
    · exact honce a ha b hb hrec
  · intro a ha b hb heq
    rcases List.mem_append.mp ha with ha | ha <;> rcases List.mem_append.mp hb with hb | hb
    · exact h.together a ha b hb heq
    · exact absurd heq (hlater a b ha hb).ne
    · exact absurd heq (hlater b a hb ha).ne'
    · exact ⟨(hkey a ha).trans (hkey b hb).symm, hnear a ha b hb⟩
  · intro a ha b hb hsame hlt
    rcases List.mem_append.mp ha with ha | ha <;> rcases List.mem_append.mp hb with hb | hb
    · exact h.apart a ha b hb hsame hlt
    · obtain ⟨hread, hfar⟩ := hold a ha (hsame.trans (hkey b hb))
      exact ⟨hfar b hb, hread⟩
    · exact absurd hlt (hlater b a hb ha).not_gt
    · rw [hevent a ha, hevent b hb] at hlt
      exact absurd hlt (lt_irrefl _)

end Log

end Fanouts
