import Mathlib.Data.List.TakeWhile
import Truckmaster.Common.LocalValues
import Truckmaster.Library.Doubles

namespace Truckmaster.RateConfirmationExtraction

open Common Doubles

def decimalParts (s : List Char) : Option (List Char × List Char) :=
  match s.dropWhile Char.isDigit with
  | [] => some (s.takeWhile Char.isDigit, [])
  | '.' :: fraction => if fraction.all Char.isDigit then some (s.takeWhile Char.isDigit, fraction) else none
  | _ => none

def digitsValue (digits : List Char) : ℕ := digits.foldl (fun n c => 10 * n + (c.toNat - 48)) 0

def decimalValue (s : List Char) : Option ℚ := do
  let (whole, fraction) ← decimalParts s
  if whole = [] ∧ fraction = [] then none else some (digitsValue (whole ++ fraction) / 10 ^ fraction.length)

/-- `Number` of a text without a sign or an exponent; an empty text is zero, and `none` is not a number. -/
def toNumber (s : List Char) : Option Double := if s = [] then some (nearest 0) else (decimalValue s).map nearest

/-- The digits of the shortest numeral that stands for the double, and the power of ten of the first one. -/
def shortestDigits (x : ℚ) : List Char × ℤ :=
  let exponent : ℤ := Nat.log 10 ⌊x⌋.toNat
  let candidates := (List.range 17).flatMap (fun k =>
    let below := ⌊x / (10 : ℚ) ^ (exponent - k)⌋.toNat
    let above := below + 1
    let near (n : ℕ) : ℚ := |x - n * (10 : ℚ) ^ (exponent - k)|
    (if near above < near below then [above, below] else [below, above]).map (fun n => (n, exponent - k)))
  match candidates.find? (fun c => nearest (c.1 * (10 : ℚ) ^ c.2) = .finite x) with
  | some (n, last) => (((numeric n).reverse.dropWhile (fun c => c == '0')).reverse, last + (numeric n).length - 1)
  | none => ([], exponent)

/-- `Number.prototype.toString` from 10 to the power of 21 on. -/
def exponentialText (x : ℚ) : List Char :=
  let (digits, exponent) := shortestDigits x
  digits.take 1 ++ (if digits.length ≤ 1 then [] else '.' :: digits.drop 1) ++ 'e' :: '+' :: numeric exponent

/-- `Number.prototype.toFixed(2)` of a double that is not negative. -/
def toFixed : Double → String
  | .infinite _ => "Infinity"
  | .finite x =>
    String.ofList (if x < 10 ^ 21 then numeric (nearestCents x / 100) ++ '.' :: twoDigit (nearestCents x % 100)
      else exponentialText x)

def plainDecimal (s : List Char) : Bool :=
  !(s.takeWhile Char.isDigit).isEmpty && match s.dropWhile Char.isDigit with
    | [] => true
    | ['.', a, b] => a.isDigit && b.isDigit
    | _ => false

section Digits

variable {cs : List Char} {n : ℤ}

lemma digitsValue_eq (cs : List Char) : digitsValue cs = Nat.ofDigitChars 10 cs 0 := Nat.ofDigitChars_eq_foldl.symm

lemma digitsValue_append (cs ds : List Char) : digitsValue (cs ++ ds) = 10 ^ ds.length * digitsValue cs + digitsValue ds := by
  rw [digitsValue_eq, Nat.ofDigitChars_append, Nat.ofDigitChars_eq_ofDigitChars_zero, ← digitsValue_eq, ← digitsValue_eq]

lemma digitsValue_lt (h : ∀ c ∈ cs, c.isDigit = true) : digitsValue cs < 10 ^ cs.length := by
  induction cs using List.reverseRecOn with
  | nil => decide
  | append_singleton cs c ih =>
    obtain ⟨hcs, hc⟩ := List.forall_mem_append.mp h
    obtain ⟨_, hnine⟩ := Char.isDigit_iff_toNat.mp (hc c List.mem_cons_self)
    have hvalue : digitsValue [c] = c.toNat - 48 := by rw [digitsValue, List.foldl_cons, List.foldl_nil, Nat.mul_zero, Nat.zero_add]
    have hbelow := ih hcs
    have hnine' : c.toNat ≤ 57 := hnine
    rw [digitsValue_append, hvalue, List.length_append, List.length_singleton, pow_one, pow_succ]
    omega

lemma digitsValue_numeric (n : ℤ) : digitsValue (numeric n) = n.toNat := by
  rw [digitsValue_eq, numeric, Nat.ofDigitChars_ten_toDigits]

lemma digitsValue_twoDigit (n : ℤ) : digitsValue (twoDigit n) = n.toNat := by
  rw [twoDigit, padStart, digitsValue_append, digitsValue_eq (List.replicate _ _), Nat.ofDigitChars_replicate_zero,
    digitsValue_numeric, Nat.mul_zero, Nat.mul_zero, Nat.zero_add]

lemma numeric_digits (n : ℤ) : ∀ c ∈ numeric n, c.isDigit = true :=
  fun _ hc => Nat.isDigit_of_mem_toDigits (by decide) (by decide) hc

lemma twoDigit_digits (n : ℤ) : ∀ c ∈ twoDigit n, c.isDigit = true := by
  intro c hc
  rcases List.mem_append.mp hc with hc | hc
  · rw [List.eq_of_mem_replicate hc]
    decide
  · exact numeric_digits n c hc

lemma number_digitsValue (h : ∀ c ∈ cs, c.isDigit = true) : number cs = some (digitsValue cs : ℤ) := by
  rw [number, if_pos (List.all_eq_true.mpr h)]
  refine congrArg some ?_
  clear h
  induction cs using List.reverseRecOn with
  | nil => rfl
  | append_singleton cs c ih =>
    rw [digitsValue, List.foldl_append, List.foldl_append, List.foldl_cons, List.foldl_nil, List.foldl_cons, List.foldl_nil,
      ih, digitsValue]
    push_cast
    rfl

lemma number_twoDigit (hn : 0 ≤ n) : number (twoDigit n) = some n := by
  rw [number_digitsValue (twoDigit_digits n), digitsValue_twoDigit, Int.toNat_of_nonneg hn]

lemma number_numeric (hn : 0 ≤ n) : number (numeric n) = some n := by
  rw [number_digitsValue (numeric_digits n), digitsValue_numeric, Int.toNat_of_nonneg hn]

lemma twoDigit_length (hn : n < 100) : (twoDigit n).length = 2 := by
  have hle : (numeric n).length ≤ 2 := by
    rw [numeric, Nat.length_toDigits_le_iff (by decide) (by decide)]
    omega
  rw [twoDigit, padStart, List.length_append, List.length_replicate]
  omega

lemma dropWhile_digits (hcs : ∀ c ∈ cs, c.isDigit = true) (ds : List Char) : (cs ++ '.' :: ds).takeWhile Char.isDigit = cs ∧
    (cs ++ '.' :: ds).dropWhile Char.isDigit = '.' :: ds := by
  have hdot : ('.').isDigit = false := by decide
  rw [List.takeWhile_append_of_pos hcs, List.dropWhile_append_of_pos hcs, List.takeWhile_cons_of_neg (by simp [hdot]),
    List.dropWhile_cons_of_neg (by simp [hdot]), List.append_nil]
  exact ⟨rfl, rfl⟩

lemma decimalValue_whole (hcs : ∀ c ∈ cs, c.isDigit = true) (hne : cs ≠ []) : decimalValue cs = some (digitsValue cs : ℚ) := by
  have hdrop : cs.dropWhile Char.isDigit = [] := List.dropWhile_eq_nil_iff.mpr hcs
  have htake : cs.takeWhile Char.isDigit = cs := List.takeWhile_eq_self_iff.mpr hcs
  rw [decimalValue, decimalParts, hdrop, htake]
  simp [hne]

lemma decimalValue_point (hcs : ∀ c ∈ cs, c.isDigit = true) {ds : List Char} (hds : ∀ c ∈ ds, c.isDigit = true) (hne : ds ≠ []) :
    decimalValue (cs ++ '.' :: ds) = some ((digitsValue (cs ++ ds) : ℚ) / 10 ^ ds.length) := by
  obtain ⟨htake, hdrop⟩ := dropWhile_digits hcs ds
  have hall : ds.all Char.isDigit = true := List.all_eq_true.mpr hds
  rw [decimalValue, decimalParts, htake, hdrop]
  simp [hall, hne]

lemma plainDecimal_chars (h : plainDecimal cs = true) : ∀ c ∈ cs, c.isDigit = true ∨ c = '.' := by
  intro c hc
  rw [← List.takeWhile_append_dropWhile (p := Char.isDigit) (l := cs)] at hc
  rcases List.mem_append.mp hc with hc | hc
  · exact .inl (List.mem_takeWhile_imp hc)
  obtain ⟨_, hfraction⟩ := Bool.and_eq_true_iff.mp h
  split at hfraction
  case h_1 heq =>
    rw [heq] at hc
    cases hc
  case h_2 a b heq =>
    rw [heq] at hc
    obtain ⟨ha, hb⟩ := Bool.and_eq_true_iff.mp hfraction
    simp only [List.mem_cons, List.not_mem_nil, or_false] at hc
    rcases hc with rfl | rfl | rfl
    · exact .inr rfl
    · exact .inl ha
    · exact .inl hb
  case h_3 => cases hfraction

lemma plainDecimal_value (h : plainDecimal cs = true) : ∃ q, decimalValue cs = some q := by
  obtain ⟨hwhole, hfraction⟩ := Bool.and_eq_true_iff.mp h
  have hne : cs.takeWhile Char.isDigit ≠ [] := by simpa using hwhole
  rw [decimalValue, decimalParts]
  split at hfraction
  case h_1 heq => simp [heq, hne]
  case h_2 a b heq =>
    obtain ⟨ha, hb⟩ := Bool.and_eq_true_iff.mp hfraction
    simp [heq, ha, hb]
  case h_3 => cases hfraction

lemma cents_text {c : ℤ} (hc : 0 ≤ c) : plainDecimal (numeric (c / 100) ++ '.' :: twoDigit (c % 100)) = true ∧
    decimalValue (numeric (c / 100) ++ '.' :: twoDigit (c % 100)) = some (c / 100 : ℚ) := by
  obtain ⟨htake, hdrop⟩ := dropWhile_digits (numeric_digits (c / 100)) (twoDigit (c % 100))
  have hlength : (twoDigit (c % 100)).length = 2 := twoDigit_length (by omega)
  have hdigits := twoDigit_digits (c % 100)
  have hne : numeric (c / 100) ≠ [] := Nat.toDigits_ne_nil
  constructor
  · rw [plainDecimal, htake, hdrop]
    obtain ⟨a, b, hab⟩ := List.length_eq_two.mp hlength
    rw [hab] at hdigits ⊢
    simp [hne, hdigits a (by simp), hdigits b (by simp)]
  · have hne' : twoDigit (c % 100) ≠ [] := List.ne_nil_of_length_pos (by omega)
    rw [decimalValue_point (numeric_digits (c / 100)) hdigits hne', digitsValue_append, digitsValue_numeric, digitsValue_twoDigit,
      hlength]
    have hcast : ((10 ^ 2 * (c / 100).toNat + (c % 100).toNat : ℕ) : ℤ) = c := by omega
    rw [show ((10 ^ 2 * (c / 100).toNat + (c % 100).toNat : ℕ) : ℚ) = (c : ℚ) by exact_mod_cast hcast]
    norm_num

end Digits

section Cents

variable {q r : ℚ} {c : ℤ}

lemma toFixed_denotes_iff (hr : 0 ≤ r) :
    plainDecimal (toFixed (nearest r)).toList = true ∧ decimalValue (toFixed (nearest r)).toList = some q ↔
      rounded r < 10 ^ 21 ∧ nearestCents (rounded r) = 100 * q := by
  have hnonneg := rounded_nonneg hr
  rw [nearest]
  split_ifs with hfinite
  · rw [toFixed, String.toList_ofList]
    split_ifs with hlt
    · obtain ⟨hplain, hvalue⟩ := cents_text (nearestCents_nonneg hnonneg)
      rw [hvalue, and_iff_right hplain, and_iff_right hlt, Option.some_inj, div_eq_iff (by norm_num), mul_comm]
    · refine iff_of_false (fun h => ?_) (fun h => hlt h.1)
      exact absurd (plainDecimal_chars h.1 'e' (by simp [exponentialText])) (by decide)
  · refine iff_of_false (fun h => ?_) (fun h => hfinite ?_)
    · exact absurd (plainDecimal_chars h.1 'I' (by simp [toFixed])) (by decide)
    · rw [abs_of_nonneg hnonneg]
      exact (h.1.trans (by norm_num : (10 : ℚ) ^ 21 < 2 ^ 70)).trans_le (pow_le_pow_right₀ (by norm_num) (by norm_num))

def HasCents (q : ℚ) : Prop := ∃ n : ℤ, -1 / 200 ≤ n * spacing q - q ∧ n * spacing q - q < 1 / 200

lemma spacing_fine (hq : 0 ≤ q) (h : q < 2 ^ 46) : spacing q ≤ 1 / 128 :=
  (spacing_le (k := 45) hq h).trans (by norm_num)

lemma spacing_coarse (h : 2 ^ 46 ≤ q) : 1 / 64 ≤ spacing q := le_trans (by norm_num) (spacing_ge h)

lemma rounded_cents_iff (hq : 0 ≤ q) (hc : 100 * q = c) : nearestCents (rounded q) = c ↔ q < 2 ^ 46 ∨ HasCents q := by
  have hcents : (c : ℚ) / 100 = q := by rw [← hc, mul_div_cancel_left₀ _ (by norm_num)]
  rw [nearestCents_eq_iff, hcents]
  constructor
  · exact fun h => .inr ⟨roundEven (q / spacing q), h⟩
  · intro h
    rcases lt_or_ge q (2 ^ 46) with hsmall | hlarge
    · have hfine := spacing_fine hq hsmall
      have hnear := abs_le.mp (rounded_near q)
      constructor <;> linarith
    · obtain ⟨n, hle, hlt⟩ := h.resolve_left (not_lt.mpr hlarge)
      have hcoarse := spacing_coarse hlarge
      have hnear : |n * spacing q - q| < spacing q / 2 := abs_lt.mpr ⟨by linarith, by linarith⟩
      rw [rounded_of_near hnear]
      exact ⟨hle, hlt⟩

/-- The number from which on a double is written with an exponent is a double. -/
lemma rounded_lt_iff (hc : 100 * q = c) (h : nearestCents (rounded q) = c) : rounded q < 10 ^ 21 ↔ q < 10 ^ 21 := by
  have hcents : (c : ℚ) / 100 = q := by rw [← hc, mul_div_cancel_left₀ _ (by norm_num)]
  rw [nearestCents_eq_iff, hcents] at h
  constructor
  · intro hlt
    by_contra hge
    have hspacing : spacing q = 2 ^ 17 := by
      have heq := spacing_eq (x := q) (k := 69) (le_trans (by norm_num) (not_lt.mp hge))
        (lt_of_le_of_lt (b := 10 ^ 21 + 1) (by linarith) (by norm_num))
      rw [heq]
      norm_num
    -- so a double below it is at least one spacing below it
    have hdouble : rounded q = (roundEven (q / spacing q) : ℚ) * 2 ^ 17 := by rw [rounded, hspacing]
    rw [hdouble] at hlt h
    have hbelow : ((roundEven (q / spacing q) : ℤ) : ℚ) < (7629394531250000 : ℤ) := by
      push_cast
      linarith
    have hsteps := Int.cast_lt.mp hbelow
    have hfar : ((roundEven (q / spacing q) : ℤ) : ℚ) ≤ (7629394531249999 : ℤ) := by exact_mod_cast (by omega)
    push_cast at hfar
    linarith [not_lt.mp hge, h.1]
  · intro hlt
    have hnext : (c : ℚ) ≤ (10 ^ 23 - 1 : ℤ) := by
      have hbelow : (c : ℚ) < (10 ^ 23 : ℤ) := by
        rw [← hc]
        push_cast
        linarith
      exact_mod_cast Int.le_sub_one_of_lt (Int.cast_lt.mp hbelow)
    push_cast at hnext
    linarith [h.2]

end Cents

end Truckmaster.RateConfirmationExtraction
