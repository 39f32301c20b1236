import Truckmaster.RateConfirmationExtraction.LineReadings

namespace Truckmaster.RateConfirmationExtraction

open Common Doubles Patterns

variable {line value : String} {lines : List String} {i : ℕ} {m : Cursor} {whole fraction after : List Char}

/-- The number on the first line with a rate: all digits of its fraction count. -/
def writtenRate (lines : List String) : Option ℚ := do
  let (_, i) ← firstLine lines [] rateValue
  let line ← lines[i]?
  let m ← rateLabels.exec line
  decimalValue (((m.groups 1).getD [] ++ m.after.takeWhile Char.isDigit).filter (fun c => c ≠ ','))

/-- The number on the line has no more than cents, it is written without an exponent, and where the doubles are far apart one of
them is near enough. -/
def RateKept (lines : List String) : Prop :=
  ∀ value i, firstLine lines [] rateValue = some (value, i) → ∃ q, writtenRate lines = some q ∧ (∃ cents : ℤ, 100 * q = cents) ∧
    q < 10 ^ 21 ∧ (q < 2 ^ 46 ∨ HasCents q)

def withPoint (fraction : List Char) : List Char := if fraction = [] then [] else '.' :: fraction

structure RateText (m : Cursor) (whole fraction : List Char) : Prop where
  chars : ∀ c ∈ whole, c.isDigit = true ∨ c = ','
  decimals : ∀ c ∈ fraction, c.isDigit = true
  group : m.groups 1 = some (whole ++ withPoint fraction)
  /-- Digits that follow are those after the second decimal. -/
  rest : m.after.takeWhile Char.isDigit = [] ∨ fraction.length = 2

lemma oneOrTwo_first {c d : Cursor} (h : (oneOrTwoDigits.runs c).head? = some d) : ∃ taken, ReadsAll Char.isDigit taken c d ∧
    taken ≠ [] ∧ (d.after.takeWhile Char.isDigit = [] ∨ taken.length = 2) := by
  obtain ⟨taken, htaken, hleast, _, hend⟩ := many_one_first h
  refine ⟨taken, htaken, List.ne_nil_of_length_pos hleast, hend.imp_right ?_⟩
  rintro ⟨k, hk, hlength⟩
  obtain rfl := Option.some.inj hk
  exact hlength

lemma rateText (h : rateLabels.exec line = some m) : ∃ whole fraction, RateText m whole fraction := by
  obtain ⟨c, _, hgroup⟩ := all_append_first [_, _, _, _] (exec_start_first h)
  rw [Pattern.runs, List.head?_map] at hgroup
  obtain ⟨d, hd, rfl⟩ := Option.map_eq_some_iff.mp hgroup
  obtain ⟨e, he, hd⟩ := seq_first_of_total (opt_ne_nil _) hd
  obtain ⟨whole, hwhole, _, _, hend⟩ := many_one_first he
  have hchars : ∀ c ∈ whole, c.isDigit = true ∨ c = ',' := by simpa using hwhole.chars
  have hstop : e.after.takeWhile Char.isDigit = [] := by
    rcases hend with hend | ⟨_, hk, _⟩
    · cases hafter : e.after with
      | nil => rfl
      | cons ch rest =>
        rw [hafter] at hend
        by_cases hdigit : ch.isDigit = true
        · rw [List.takeWhile_cons_of_pos (by simp [hdigit])] at hend
          cases hend
        · exact List.takeWhile_cons_of_neg hdigit
    · cases hk
  have hgroup : ∀ {taken}, Reads taken c d → (c.capture d 1).groups 1 = some taken :=
    fun htaken => (Function.update_self 1 _ d.groups).trans (congrArg some htaken.between)
  rcases opt_first (by decide) hd with hd | ⟨_, rfl⟩
  · obtain ⟨f, hf, hd⟩ := seq_first hd
    obtain ⟨ch, rest, hpoint, hch, rfl⟩ := mem_runs_one.mp hf
    obtain rfl : ch = '.' := beq_iff_eq.mp hch
    obtain ⟨fraction, hfraction, hne, hrest⟩ := oneOrTwo_first hd
    have hread : Reads ['.'] e (e.step '.' rest) := ⟨hpoint, rfl⟩
    refine ⟨whole, fraction, hchars, hfraction.chars, ?_, hrest⟩
    rw [hgroup (hwhole.toReads.trans (hread.trans hfraction.toReads)), withPoint, if_neg hne]
    rfl
  · refine ⟨whole, [], hchars, fun _ hmem => absurd hmem List.not_mem_nil, ?_, .inl hstop⟩
    rw [hgroup hwhole.toReads, withPoint, if_pos rfl, List.append_nil]

lemma filter_digits {cs : List Char} (h : ∀ c ∈ cs, c.isDigit = true) : cs.filter (fun c => c ≠ ',') = cs := by
  refine List.filter_eq_self.mpr (fun c hc => decide_eq_true ?_)
  rintro rfl
  exact absurd (h ',' hc) (by decide)

lemma RateText.digits (h : RateText m whole fraction) : ∀ c ∈ whole.filter (fun c => c ≠ ','), c.isDigit = true := by
  intro c hc
  obtain ⟨hmem, hcomma⟩ := List.mem_filter.mp hc
  exact (h.chars c hmem).resolve_right (by simpa using hcomma)

lemma cents_dropped {ws ds rest : List Char} (hrest : ∀ c ∈ rest, c.isDigit = true) (hlength : rest = [] ∨ ds.length = 2)
    {cents : ℤ} (hcents : 100 * ((digitsValue (ws ++ (ds ++ rest)) : ℚ) / 10 ^ (ds ++ rest).length) = cents) :
    (digitsValue (ws ++ ds) : ℚ) / 10 ^ ds.length = (digitsValue (ws ++ (ds ++ rest)) : ℚ) / 10 ^ (ds ++ rest).length := by
  rcases hlength with rfl | hlength
  · rw [List.append_nil]
  have hbelow := digitsValue_lt hrest
  have hpos : (0 : ℚ) < 10 ^ rest.length := by positivity
  rw [← List.append_assoc, digitsValue_append (ws ++ ds), List.length_append, hlength] at hcents ⊢
  push_cast at hcents ⊢
  have hscaled : (10 : ℚ) ^ rest.length * digitsValue (ws ++ ds) + digitsValue rest = cents * 10 ^ rest.length := by
    rw [pow_add] at hcents
    field_simp at hcents
    linarith
  have hinteger : (10 : ℤ) ^ rest.length * digitsValue (ws ++ ds) + digitsValue rest = cents * 10 ^ rest.length := by
    exact_mod_cast hscaled
  have hzero : digitsValue rest = 0 := by
    have hdvd : (10 : ℤ) ^ rest.length ∣ digitsValue rest :=
      (Int.dvd_add_right (Dvd.intro _ rfl)).mp (hinteger ▸ Dvd.intro_left cents rfl)
    exact Nat.eq_zero_of_dvd_of_lt (by exact_mod_cast hdvd) hbelow
  rw [hzero, pow_add]
  field_simp
  push_cast
  ring

lemma rate_read (hfirst : firstLine lines [] rateValue = some (value, i)) :
    (rateNumber value = some (nearest 0) ∧ writtenRate lines = none) ∨ ∃ v w, 0 ≤ v ∧ rateNumber value = some (nearest v) ∧
      writtenRate lines = some w ∧ ∀ cents : ℤ, 100 * w = cents → v = w := by
  obtain ⟨line, hat, _, hread⟩ := firstLine_eq_some hfirst
  obtain ⟨m, hm, hfound⟩ := Option.bind_eq_some_iff.mp hread
  obtain ⟨hvalue, _⟩ := Option.filter_eq_some_iff.mp hfound
  obtain ⟨whole, fraction, htext⟩ := rateText hm
  have hdigits := htext.digits
  set ws := whole.filter (fun c => c ≠ ',') with hws
  set rest := m.after.takeWhile Char.isDigit
  have hrest : ∀ c ∈ rest, c.isDigit = true := fun c hc => List.mem_takeWhile_imp hc
  have hwritten : writtenRate lines = decimalValue (ws ++ (withPoint fraction).filter (fun c => c ≠ ',') ++ rest) := by
    rw [writtenRate, hfirst]
    simp only [Option.bind_eq_bind, Option.bind_some, hat, hm, htext.group, Option.getD_some]
    rw [List.filter_append, filter_digits hrest, List.filter_append]
  have hnumber : rateNumber value = toNumber (ws ++ (withPoint fraction).filter (fun c => c ≠ ',')) := by
    rw [Cursor.group, htext.group] at hvalue
    rw [rateNumber, ← Option.some.inj hvalue, String.toList_ofList, List.filter_append]
  rw [hwritten, hnumber]
  by_cases hnone : fraction = []
  · subst hnone
    have hend : rest = [] := htext.rest.resolve_right (by decide)
    rw [withPoint, if_pos rfl, hend, List.filter_nil, List.append_nil, List.append_nil]
    by_cases hempty : ws = []
    · rw [hempty]
      exact .inl ⟨rfl, rfl⟩
    · rw [toNumber, if_neg hempty, decimalValue_whole hdigits hempty]
      exact .inr ⟨_, _, by positivity, rfl, rfl, fun _ _ => rfl⟩
  · have hpoint : (withPoint fraction).filter (fun c => c ≠ ',') = '.' :: fraction := by
      rw [withPoint, if_neg hnone, List.filter_cons_of_pos (by decide), filter_digits htext.decimals]
    have hne : ws ++ '.' :: fraction ≠ [] := List.append_ne_nil_of_right_ne_nil _ (List.cons_ne_nil _ _)
    rw [hpoint, toNumber, if_neg hne, decimalValue_point hdigits htext.decimals hnone, List.append_assoc, List.cons_append,
      decimalValue_point hdigits (List.forall_mem_append.mpr ⟨htext.decimals, hrest⟩) (List.append_ne_nil_of_left_ne_nil hnone _)]
    exact .inr ⟨_, _, by positivity, rfl, rfl, fun cents hcents => cents_dropped hrest htext.rest hcents⟩

lemma customerRate_iff : (∀ s ∈ (extractCustomerRate lines []).1, plainDecimal s.toList = true ∧
    ∃ q, writtenRate lines = some q ∧ decimalValue s.toList = some q) ↔ RateKept lines := by
  rw [extractCustomerRate, RateKept]
  cases hfirst : firstLine lines [] rateValue with
  | none => exact iff_of_true (by rintro _ ⟨⟩) (by rintro _ _ ⟨⟩)
  | some r =>
    obtain ⟨value, i⟩ := r
    rcases rate_read hfirst with ⟨hnumber, hwritten⟩ | ⟨v, w, hv, hnumber, hwritten, hcents⟩
    · rw [hwritten]
      refine iff_of_false (fun h => ?_) (fun h => ?_)
      · simp only [hnumber] at h
        obtain ⟨_, q, hq, _⟩ := h _ rfl
        cases hq
      · obtain ⟨q, hq, _⟩ := h value i rfl
        cases hq
    · simp only [hnumber, hwritten]
      constructor
      · rintro h _ _ ⟨⟩
        obtain ⟨hplain, q, hq, hvalue⟩ := h _ rfl
        obtain rfl := Option.some.inj hq
        obtain ⟨hlt, hnearest⟩ := (toFixed_denotes_iff hv).mp ⟨hplain, hvalue⟩
        obtain rfl := hcents _ hnearest.symm
        exact ⟨v, rfl, ⟨_, hnearest.symm⟩, (rounded_lt_iff hnearest.symm rfl).mp hlt,
          (rounded_cents_iff hv hnearest.symm).mp rfl⟩
      · rintro h s ⟨⟩
        obtain ⟨q, hq, ⟨cents, hq'⟩, hlt, hnear⟩ := h value i rfl
        obtain rfl := Option.some.inj hq
        obtain rfl := hcents cents hq'
        have hnearest := (rounded_cents_iff hv hq').mpr hnear
        obtain ⟨hplain, hvalue⟩ := (toFixed_denotes_iff hv).mpr
          ⟨(rounded_lt_iff hq' hnearest).mpr hlt, by rw [hnearest, hq']⟩
        exact ⟨hplain, v, rfl, hvalue⟩

end Truckmaster.RateConfirmationExtraction
