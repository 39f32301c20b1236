import Mathlib.Data.Int.Log
import Mathlib.Tactic

/-! The double that is nearest to a rational number. -/

namespace Doubles

/-- The nearest integer, the even one of two that are equally near. -/
def roundEven (x : ℚ) : ℤ :=
  let above := ⌊x + 1 / 2⌋
  if (above : ℚ) = x + 1 / 2 ∧ above % 2 = 1 then above - 1 else above

/-- How far the doubles of this size are apart. -/
def spacing (x : ℚ) : ℚ := 2 ^ max (Int.log 2 |x| - 52) (-1074)

def rounded (x : ℚ) : ℚ := roundEven (x / spacing x) * spacing x

inductive Double
  | finite (value : ℚ)
  | infinite (negative : Bool)
  deriving DecidableEq, Repr

def nearest (x : ℚ) : Double := if |rounded x| < 2 ^ 1024 then .finite (rounded x) else .infinite (decide (x < 0))

/-- The nearest hundredth, the greater one of two that are equally near. -/
def nearestCents (x : ℚ) : ℤ := ⌊100 * x + 1 / 2⌋

variable {x : ℚ} {n : ℤ} {k : ℕ}

lemma spacing_pos (x : ℚ) : 0 < spacing x := by
  unfold spacing
  positivity

lemma roundEven_near (x : ℚ) : |roundEven x - x| ≤ 1 / 2 := by
  have hle := Int.floor_le (x + 1 / 2)
  have hlt := Int.lt_floor_add_one (x + 1 / 2)
  unfold roundEven
  dsimp only
  split
  next htie =>
    push_cast
    rw [abs_le]
    constructor <;> linarith [htie.1]
  next =>
    rw [abs_le]
    constructor <;> linarith

lemma roundEven_of_near (h : |(n : ℚ) - x| < 1 / 2) : roundEven x = n := by
  have hnear := roundEven_near x
  rw [abs_lt] at h
  rw [abs_le] at hnear
  have hbelow : ((roundEven x : ℤ) : ℚ) < (n + 1 : ℤ) := by
    push_cast
    linarith
  have habove : ((n - 1 : ℤ) : ℚ) < (roundEven x : ℤ) := by
    push_cast
    linarith
  have hlt := Int.cast_lt.mp hbelow
  have hgt := Int.cast_lt.mp habove
  omega

lemma rounded_near (x : ℚ) : |rounded x - x| ≤ spacing x / 2 := by
  have hpos := spacing_pos x
  have hscaled : rounded x - x = (roundEven (x / spacing x) - x / spacing x) * spacing x := by
    rw [sub_mul, div_mul_cancel₀ _ hpos.ne', rounded]
  rw [hscaled, abs_mul, abs_of_pos hpos]
  have hle := mul_le_mul_of_nonneg_right (roundEven_near (x / spacing x)) hpos.le
  linarith

lemma rounded_of_near (h : |n * spacing x - x| < spacing x / 2) : rounded x = n * spacing x := by
  have hpos := spacing_pos x
  have hscaled : n * spacing x - x = (n - x / spacing x) * spacing x := by
    rw [sub_mul, div_mul_cancel₀ _ hpos.ne']
  rw [hscaled, abs_mul, abs_of_pos hpos] at h
  have hnear : |(n : ℚ) - x / spacing x| < 1 / 2 := by
    by_contra hfar
    have hge := mul_le_mul_of_nonneg_right (not_lt.mp hfar) hpos.le
    linarith
  rw [rounded, roundEven_of_near hnear]

lemma rounded_nonneg (hx : 0 ≤ x) : 0 ≤ rounded x := by
  have hpos := spacing_pos x
  have hquotient : 0 ≤ x / spacing x := div_nonneg hx hpos.le
  have hnear := (abs_le.mp (roundEven_near (x / spacing x))).1
  have habove : ((-1 : ℤ) : ℚ) < roundEven (x / spacing x) := by
    push_cast
    linarith
  have hnonneg : 0 ≤ roundEven (x / spacing x) := by
    have hlt := Int.cast_lt.mp habove
    omega
  exact mul_nonneg (by exact_mod_cast hnonneg) hpos.le

lemma spacing_eq (h : 2 ^ k ≤ x) (h' : x < 2 ^ (k + 1)) : spacing x = 2 ^ ((k : ℤ) - 52) := by
  have hpos : 0 < x := lt_of_lt_of_le (by positivity) h
  have hlog : Int.log 2 x = k := by
    apply le_antisymm
    · rw [← Int.lt_add_one_iff, ← Int.lt_zpow_iff_log_lt (by norm_num) hpos]
      exact_mod_cast h'
    · rw [← Int.zpow_le_iff_le_log (by norm_num) hpos]
      exact_mod_cast h
  rw [spacing, abs_of_pos hpos, hlog, max_eq_left (by omega)]

lemma spacing_le (hx : 0 ≤ x) (h : x < 2 ^ (k + 1)) : spacing x ≤ 2 ^ ((k : ℤ) - 52) := by
  have hlog : Int.log 2 |x| ≤ k := by
    rw [abs_of_nonneg hx]
    rcases hx.eq_or_lt with rfl | hpos
    · rw [Int.log_zero_right]
      exact Int.natCast_nonneg k
    · rw [← Int.lt_add_one_iff, ← Int.lt_zpow_iff_log_lt (by norm_num) hpos]
      exact_mod_cast h
  exact zpow_le_zpow_right₀ (by norm_num) (max_le (by omega) (by omega))

lemma spacing_ge (h : 2 ^ k ≤ x) : 2 ^ ((k : ℤ) - 52) ≤ spacing x := by
  have hpos : 0 < x := lt_of_lt_of_le (by positivity) h
  have hlog : (k : ℤ) ≤ Int.log 2 |x| := by
    rw [abs_of_pos hpos, ← Int.zpow_le_iff_le_log (by norm_num) hpos]
    exact_mod_cast h
  exact zpow_le_zpow_right₀ (by norm_num) (le_max_of_le_left (by omega))

lemma nearestCents_nonneg (hx : 0 ≤ x) : 0 ≤ nearestCents x := by
  rw [nearestCents, Int.le_floor]
  push_cast
  linarith

lemma nearestCents_eq_iff : nearestCents x = n ↔ -1 / 200 ≤ x - n / 100 ∧ x - n / 100 < 1 / 200 := by
  rw [nearestCents, Int.floor_eq_iff]
  constructor <;> rintro ⟨hle, hlt⟩ <;> constructor <;> linarith

end Doubles
