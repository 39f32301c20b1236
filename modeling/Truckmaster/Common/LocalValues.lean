import Truckmaster.Common.BusinessTimeZone

namespace Truckmaster.Common

open Calendars

def numeric (n : ℤ) : List Char := Nat.toDigits 10 n.toNat

/-- `String.prototype.padStart` with zeros. -/
def padStart (width : ℕ) (cs : List Char) : List Char := List.replicate (width - cs.length) '0' ++ cs

def twoDigit (n : ℤ) : List Char := padStart 2 (numeric n)

/-- `Date.prototype.toISOString`: other years have a sign and six digits. -/
def toISOString (t : Instant) : String :=
  let parts := WallClock.ofMs t
  let year := if 0 ≤ parts.year ∧ parts.year ≤ 9999 then padStart 4 (numeric parts.year)
    else (if parts.year < 0 then '-' else '+') :: padStart 6 (numeric parts.year.natAbs)
  String.ofList (year ++ '-' :: twoDigit parts.month ++ '-' :: twoDigit parts.day ++ 'T' :: twoDigit parts.hour ++
    ':' :: twoDigit parts.minute ++ ':' :: twoDigit parts.second ++ '.' :: padStart 3 (numeric (t % 1000)) ++ ['Z'])

structure WallClockTexts where
  year : List Char
  month : List Char
  day : List Char
  hour : List Char
  minute : List Char

/-- Some engines format the hour of midnight as 24. -/
def wallClockPartsInBusinessTimezone (midnight24 : Bool) (timeZone : Zone) (instant : Instant) : WallClockTexts :=
  let parts := wallClockPartsInZone instant timeZone
  let hour := if parts.hour = 0 ∧ midnight24 then ['2', '4'] else twoDigit parts.hour
  { year := numeric parts.year
    month := twoDigit parts.month
    day := twoDigit parts.day
    hour := if hour = ['2', '4'] then ['0', '0'] else hour
    minute := twoDigit parts.minute }

def toBusinessDatetimeLocalValue (midnight24 : Bool) (timeZone : Zone) (now : Instant) (iso : Option Instant) : String :=
  let texts := wallClockPartsInBusinessTimezone midnight24 timeZone (iso.getD now)
  String.ofList (texts.year ++ '-' :: texts.month ++ '-' :: texts.day ++ 'T' :: texts.hour ++ ':' :: texts.minute)

/-- `YYYY-MM-DDTHH:mm`. -/
def LocalForm (s : String) : Prop := ∃ y₁ y₂ y₃ y₄ m₁ m₂ d₁ d₂ h₁ h₂ i₁ i₂,
  s.toList = [y₁, y₂, y₃, y₄, '-', m₁, m₂, '-', d₁, d₂, 'T', h₁, h₂, ':', i₁, i₂]

section Digits

variable {cs : List Char} {n : ℤ}

lemma digitChar_of_isDigit {c : Char} (h : c.isDigit = true) : Nat.digitChar (c.toNat - 48) = c := by
  have hbounds : 48 ≤ c.toNat ∧ c.toNat ≤ 57 := by
    simpa [Char.isDigit, UInt32.le_iff_toNat_le] using h
  have hlt : c.toNat - 48 < 10 := by omega
  refine Char.toNat_inj.mp ?_
  rw [Nat.toNat_digitChar_of_lt_ten hlt]
  omega

lemma number_append {c : Char} (h : number (cs ++ [c]) = some n) : ∃ m, number cs = some m ∧ c.isDigit = true ∧
    n = 10 * m + (c.toNat - 48 : ℕ) := by
  unfold number at h
  split at h
  case isTrue hdigits =>
    simp only [List.all_append, List.all_cons, List.all_nil, Bool.and_true, Bool.and_eq_true] at hdigits
    obtain rfl := Option.some.inj h
    refine ⟨_, if_pos hdigits.1, hdigits.2, ?_⟩
    rw [List.foldl_append, List.foldl_cons, List.foldl_nil]
  case isFalse => cases h

lemma numeric_append {c : Char} {m : ℤ} (hm : 0 ≤ m) (hdigit : c.isDigit = true) :
    numeric (10 * m + (c.toNat - 48 : ℕ)) = if m = 0 then [c] else numeric m ++ [c] := by
  have hbounds : 48 ≤ c.toNat ∧ c.toNat ≤ 57 := by simpa [Char.isDigit, UInt32.le_iff_toNat_le] using hdigit
  have hlt : c.toNat - 48 < 10 := by omega
  have hvalue : (10 * m + (c.toNat - 48 : ℕ)).toNat = 10 * m.toNat + (c.toNat - 48) := by omega
  have hone : Nat.toDigits 10 (c.toNat - 48) = [c] := by
    rw [Nat.toDigits_of_lt_base hlt, digitChar_of_isDigit hdigit]
  rw [numeric, hvalue]
  split_ifs with hzero
  · rw [hzero, Int.toNat_zero, mul_zero, zero_add, hone]
  · rw [← Nat.toDigits_append_toDigits (by norm_num) (by omega) hlt, hone, numeric]

lemma padStart_numeric (hne : cs ≠ []) (h : number cs = some n) : padStart cs.length (numeric n) = cs := by
  induction cs using List.reverseRecOn generalizing n with
  | nil => exact absurd rfl hne
  | append_singleton cs c ih =>
    obtain ⟨m, hm, hdigit, rfl⟩ := number_append h
    have hnumeric := numeric_append (number_nonneg hm) hdigit
    by_cases hzero : m = 0
    · rw [if_pos hzero] at hnumeric
      -- only zeros stand before the last digit
      have hzeros : List.replicate cs.length '0' = cs := by
        by_cases hcs : cs = []
        · rw [hcs, List.length_nil, List.replicate_zero]
        · have hpadded := ih hcs hm
          have hlength : 0 < cs.length := List.length_pos_iff.mpr hcs
          rw [hzero, numeric, Int.toNat_zero, Nat.toDigits_zero, padStart, List.length_singleton,
            ← List.replicate_succ', Nat.sub_add_cancel hlength] at hpadded
          exact hpadded
      rw [hnumeric, padStart, List.length_append, List.length_singleton, Nat.add_sub_cancel, hzeros]
    · rw [if_neg hzero] at hnumeric
      have hcs : cs ≠ [] := by
        rintro rfl
        exact hzero (Option.some.inj (hm.symm.trans rfl))
      rw [hnumeric, padStart, List.length_append, List.length_append, List.length_singleton, Nat.add_sub_add_right,
        ← List.append_assoc]
      exact congrArg (· ++ [c]) (ih hcs hm)

lemma twoDigit_number {a b : Char} (h : number [a, b] = some n) : twoDigit n = [a, b] :=
  padStart_numeric (List.cons_ne_nil _ _) h

lemma numeric_year {a b c d : Char} (h : number [a, b, c, d] = some n) (hyear : 1000 ≤ n) : numeric n = [a, b, c, d] := by
  have hpadded : padStart 4 (numeric n) = [a, b, c, d] := padStart_numeric (List.cons_ne_nil _ _) h
  have hlong : 4 ≤ (numeric n).length := by
    by_contra hshort
    have hle : (numeric n).length ≤ 3 := by omega
    rw [numeric, Nat.length_toDigits_le_iff (by norm_num) (by norm_num)] at hle
    omega
  rwa [padStart, Nat.sub_eq_zero_of_le hlong, List.replicate_zero, List.nil_append] at hpadded

end Digits

section Forms

variable {s : String} {target : WallClock} {cs : List Char} {fraction : List Char}

lemma trim_sublist (s : String) : (trim s).toList.Sublist s.toList := by
  rw [trim, String.toList_ofList]
  have hend := (List.dropWhile_sublist isWhiteSpace (l := (s.toList.dropWhile isWhiteSpace).reverse)).reverse
  rw [List.reverse_reverse] at hend
  exact hend.trans (List.dropWhile_sublist isWhiteSpace)

lemma naiveComponents_length (h : naiveComponents cs = some (target, fraction)) : 16 ≤ cs.length := by
  unfold naiveComponents at h
  split at h
  · simp only [List.length_cons]
    omega
  · cases h

lemma LocalForm.trim_eq (hform : LocalForm s) (h : parseNaiveComponents s = some target) : trim s = s := by
  obtain ⟨⟨parts, fraction⟩, hparts, _⟩ := Option.map_eq_some_iff.mp h
  obtain ⟨_, _, _, _, _, _, _, _, _, _, _, _, hchars⟩ := hform
  have hlength : s.toList.length = 16 := by rw [hchars]; rfl
  have hsame := (trim_sublist s).eq_of_length_le (by rw [hlength]; exact naiveComponents_length hparts)
  rw [← String.ofList_toList (s := trim s), hsame, String.ofList_toList]

lemma LocalForm.texts (hform : LocalForm s) (h : parseNaiveComponents s = some target) (hyear : 1000 ≤ target.year) :
    target.second = 0 ∧ s.toList = numeric target.year ++ '-' :: twoDigit target.month ++ '-' :: twoDigit target.day ++
      'T' :: twoDigit target.hour ++ ':' :: twoDigit target.minute := by
  have htrim := hform.trim_eq h
  obtain ⟨y₁, y₂, y₃, y₄, m₁, m₂, d₁, d₂, h₁, h₂, i₁, i₂, hchars⟩ := hform
  rw [parseNaiveComponents, htrim, hchars] at h
  simp only [naiveComponents, naiveSeconds, Option.map_eq_some_iff, Option.bind_eq_bind, Option.bind_eq_some_iff,
    Option.some.injEq, Prod.mk.injEq, Prod.exists] at h
  obtain ⟨_, _, ⟨_, _, year, hyears, month, hmonth, day, hday, hour, hhour, minute, hminute, second, rest, ⟨rfl, rfl⟩,
    rfl, _⟩, rfl⟩ := h
  refine ⟨rfl, ?_⟩
  rw [numeric_year hyears hyear, twoDigit_number hmonth, twoDigit_number hday, twoDigit_number hhour,
    twoDigit_number hminute, hchars]
  rfl

end Forms

lemma hour_text (midnight24 : Bool) {timeZone : Zone} {instant : Instant} :
    (wallClockPartsInBusinessTimezone midnight24 timeZone instant).hour =
      twoDigit (wallClockPartsInZone instant timeZone).hour := by
  have hvalid := (parts_valid instant timeZone).hour
  unfold wallClockPartsInBusinessTimezone
  dsimp only
  generalize (wallClockPartsInZone instant timeZone).hour = hour at hvalid
  have htexts : ∀ k : Fin 24, twoDigit k ≠ ['2', '4'] ∧ twoDigit 0 = ['0', '0'] := by decide
  obtain ⟨k, rfl⟩ := Int.eq_ofNat_of_zero_le hvalid.1
  have hk : k < 24 := by omega
  by_cases hmidnight : (k : ℤ) = 0 ∧ midnight24 = true
  · rw [if_pos hmidnight, if_pos rfl, hmidnight.1]
    exact (htexts 0).2.symm
  · rw [if_neg hmidnight, if_neg (htexts ⟨k, hk⟩).1]

section RoundTrip

variable {s : String} {target : WallClock} {t : Instant}

theorem edit_form_round_trip (clock : EasternClock) (midnight24 : Bool) (now : Instant) (hform : LocalForm s)
    (htarget : parseNaiveComponents s = some target) (hyear : 1970 ≤ target.year)
    (hparse : parseBusinessWallClock clock.zone s = some t) :
    toBusinessDatetimeLocalValue midnight24 clock.zone now (some t) = s ∧
      parseBusinessWallClock clock.zone (toBusinessDatetimeLocalValue midnight24 clock.zone now (some t)) = some t := by
  have hshown : toBusinessDatetimeLocalValue midnight24 clock.zone now (some t) = s := by
    obtain ⟨_, htarget', htrip, _⟩ := parse_eq_some.mp hparse
    obtain rfl := Option.some.inj (htarget.symm.trans htarget')
    obtain ⟨_, htexts⟩ := hform.texts htarget (by omega)
    rw [← String.ofList_toList (s := s), htexts, toBusinessDatetimeLocalValue, Option.getD_some, hour_text, htrip.2]
    simp only [wallClockPartsInBusinessTimezone, htrip.2]
  exact ⟨hshown, by rw [hshown, hparse]⟩

end RoundTrip

open EasternClock.Sample in
theorem edit_form_round_trip_sample :
    toBusinessDatetimeLocalValue true year2026.zone 0 (some 1793511000000) = "2026-11-01T01:30" ∧
      parseBusinessWallClock year2026.zone (toBusinessDatetimeLocalValue true year2026.zone 0 (some 1793511000000)) =
        some 1793511000000 := by
  have hform : LocalForm "2026-11-01T01:30" := ⟨_, _, _, _, _, _, _, _, _, _, _, _, rfl⟩
  have htarget : parseNaiveComponents "2026-11-01T01:30" = some ⟨2026, 11, 1, 1, 30, 0⟩ := by decide +kernel
  exact edit_form_round_trip year2026 true 0 hform htarget (by decide) (by decide +kernel)

end Truckmaster.Common
