import Truckmaster.Common.LocalValues
import Truckmaster.QuoteLoad.OperationalTimes
import Truckmaster.RateConfirmationExtraction.AnthropicRateConfirmationExtractor
import Truckmaster.RateConfirmationExtraction.LineAccounting
import Truckmaster.RateConfirmationExtraction.WrittenRates

/-! What the form expects of the rate and of the appointments, and when the two extractors keep to it. -/

namespace Truckmaster.RateConfirmationExtraction

open Calendars Common Patterns

variable {engine : Engine} {timeZone : Zone} {s : String} {target : WallClock} {lines : List String} {header : Header}
  {data : ExtractedRateConfirmationData}

/-- A local date and time of the calendar, which the parser reads unless the clocks skip it. -/
structure NamesTime (engine : Engine) (timeZone : Zone) (s : String) : Prop where
  form : LocalForm s
  reads : ∃ target, parseNaiveComponents s = some target ∧ target.Valid ∧
    (timeZone.Shows target.ms → (parseBusinessDateTime engine timeZone s).isSome = true)

/-- The contract of the extractors, for the number that is written in the source. -/
structure Contract (engine : Engine) (timeZone : Zone) (written : Option ℚ) (data : ExtractedRateConfirmationData) : Prop where
  rate : ∀ s ∈ data.customerRate, plainDecimal s.toList = true ∧ ∃ q, written = some q ∧ decimalValue s.toList = some q
  appointments : ∀ stop ∈ data.stops, ∀ s ∈ stop.appointmentDatetime, NamesTime engine timeZone s

def DateTimeParts.clock (p : DateTimeParts) : WallClock := ⟨p.year, p.month, p.day, p.hour, p.minute, 0⟩

structure DateTimeParts.Real (p : DateTimeParts) : Prop where
  month : 1 ≤ p.month
  day : 1 ≤ p.day ∧ (p.day : ℤ) ≤ monthStart p.year (p.month + 1) - monthStart p.year p.month
  year : 1000 ≤ p.year ∧ p.year ≤ 9999

def DatesReal (lines : List String) : Prop :=
  ∀ marker rest, marker :: rest <:+ findStopMarkers lines (takenBeforeStops lines) →
    ∀ e ∈ appointmentLines lines (takenBeforeStops lines) marker rest, ∀ p, appointmentParts e.1 = some p → p.Real

def givenRate (input : Json) : Option ℚ := (nullableString (property "customerRate" input)).bind (fun s => decimalValue s.toList)

/-- What the tool is given for the rate and the appointments is in the form of the contract. -/
def TextsKept (timeZone : Zone) (input : Json) : Prop :=
  ∀ rawStops, Validated input rawStops →
    (∀ s ∈ nullableString (property "customerRate" input), plainDecimal s.toList = true) ∧
    ∀ rawStop ∈ rawStops, ∀ s ∈ nullableString (property "appointmentDatetime" rawStop), LocalForm s ∧ ∃ target,
      parseNaiveComponents s = some target ∧ target.Valid ∧ (timeZone.Shows target.ms → 100 ≤ target.year)

section Times

structure Digits where
  year : List Char
  month : List Char
  day : List Char
  hour : List Char
  minute : List Char
  lengths : year.length = 4 ∧ month.length = 2 ∧ day.length = 2 ∧ hour.length = 2 ∧ minute.length = 2

def Digits.text (d : Digits) : List Char :=
  d.year ++ '-' :: d.month ++ '-' :: d.day ++ 'T' :: d.hour ++ ':' :: d.minute

lemma Digits.localForm {d : Digits} (h : s.toList = d.text) : LocalForm s := by
  obtain ⟨year, month, day, hour, minute, hyear, hmonth, hday, hhour, hminute⟩ := d
  obtain ⟨m₁, m₂, rfl⟩ := List.length_eq_two.mp hmonth
  obtain ⟨d₁, d₂, rfl⟩ := List.length_eq_two.mp hday
  obtain ⟨h₁, h₂, rfl⟩ := List.length_eq_two.mp hhour
  obtain ⟨i₁, i₂, rfl⟩ := List.length_eq_two.mp hminute
  obtain ⟨y₁, y₂, y₃, y₄, rfl⟩ : ∃ y₁ y₂ y₃ y₄, year = [y₁, y₂, y₃, y₄] := by
    match year, hyear with
    | [y₁, y₂, y₃, y₄], _ => exact ⟨y₁, y₂, y₃, y₄, rfl⟩
  exact ⟨y₁, y₂, y₃, y₄, m₁, m₂, d₁, d₂, h₁, h₂, i₁, i₂, h⟩

lemma Digits.parse {d : Digits} {y m n h i : ℤ} (hy : number d.year = some y) (hm : number d.month = some m)
    (hn : number d.day = some n) (hh : number d.hour = some h) (hi : number d.minute = some i) :
    naiveComponents d.text = some (⟨y, m, n, h, i, 0⟩, []) := by
  obtain ⟨year, month, day, hour, minute, hyear, hmonth, hday, hhour, hminute⟩ := d
  obtain ⟨m₁, m₂, rfl⟩ := List.length_eq_two.mp hmonth
  obtain ⟨d₁, d₂, rfl⟩ := List.length_eq_two.mp hday
  obtain ⟨h₁, h₂, rfl⟩ := List.length_eq_two.mp hhour
  obtain ⟨i₁, i₂, rfl⟩ := List.length_eq_two.mp hminute
  match year, hyear with
  | [y₁, y₂, y₃, y₄], _ =>
    simp only [Digits.text, List.cons_append, List.nil_append, naiveComponents, hy, hm, hn, hh, hi, naiveSeconds,
      guard_true, Option.bind_eq_bind, Option.bind_some, pure_bind]

lemma hasExplicitOffset_local (hform : LocalForm s) (h : parseNaiveComponents s = some target) :
    hasExplicitOffset s = false := by
  have htrim := hform.trim_eq h
  obtain ⟨y₁, y₂, y₃, y₄, m₁, m₂, d₁, d₂, h₁, h₂, i₁, i₂, hchars⟩ := hform
  rw [parseNaiveComponents, htrim, hchars] at h
  simp only [naiveComponents, Option.map_eq_some_iff, Option.bind_eq_bind, Option.bind_eq_some_iff, Prod.exists] at h
  obtain ⟨_, _, ⟨_, _, _, _, _, _, _, _, _, _, _, hminute, _⟩, _⟩ := h
  have hlast : i₂.isDigit = true := number_digits hminute i₂ (by simp)
  rw [hasExplicitOffset, htrim, hchars]
  simp only [List.reverse_cons, List.reverse_nil, List.nil_append, List.cons_append]
  split
  case h_1 heq =>
    obtain rfl := (List.cons.inj heq).1
    exact absurd hlast (by decide)
  case h_2 heq =>
    simp only [List.cons.injEq] at heq
    obtain ⟨_, _, _, _, _, rfl, _⟩ := heq
    simp
  case h_3 heq =>
    simp only [List.cons.injEq] at heq
    obtain ⟨rfl, rfl, rfl, rfl, rfl, _⟩ := heq
    simp
  case h_4 => rfl

lemma namesTime_iff (hprobed : Probed timeZone) : NamesTime engine timeZone s ↔ LocalForm s ∧ ∃ target,
    parseNaiveComponents s = some target ∧ target.Valid ∧ (timeZone.Shows target.ms → 100 ≤ target.year) := by
  constructor
  · rintro ⟨hform, target, htarget, hvalid, hreads⟩
    refine ⟨hform, target, htarget, hvalid, fun hshown => ?_⟩
    obtain ⟨x, hx⟩ := Option.isSome_iff_exists.mp (hreads hshown)
    rw [parseBusinessDateTime, hasExplicitOffset_local hform htarget] at hx
    obtain ⟨target', htarget', hreadable, _⟩ := (parseBusinessWallClock_eq_some hprobed).mp hx
    obtain rfl := Option.some.inj (htarget.symm.trans htarget')
    exact hreadable.recent
  · rintro ⟨hform, target, htarget, hvalid, hrecent⟩
    refine ⟨hform, target, htarget, hvalid, fun hshown => ?_⟩
    rw [parseBusinessDateTime, hasExplicitOffset_local hform htarget]
    exact Option.isSome_iff_exists.mpr ⟨_, (parseBusinessWallClock_eq_some hprobed).mpr
      ⟨target, htarget, ⟨hvalid, hrecent hshown, hshown⟩, rfl⟩⟩

lemma dateTimeParts_bounds {date time : String} {meridiem : Option String} {p : DateTimeParts}
    (h : dateTimeParts date time meridiem = some p) : p.month ≤ 12 ∧ p.day ≤ 31 ∧ p.hour ≤ 23 ∧ p.minute ≤ 59 := by
  simp only [dateTimeParts, Option.bind_eq_bind, Option.bind_eq_some_iff, Option.ite_none_left_eq_some,
    Option.some.injEq] at h
  obtain ⟨_, _, _, _, hchecks, rfl⟩ := h
  simp only [not_or, not_lt] at hchecks
  exact ⟨hchecks.2.2.1, hchecks.2.2.2, hchecks.1, hchecks.2.1⟩

lemma real_iff {date time : String} {meridiem : Option String} {p : DateTimeParts}
    (h : dateTimeParts date time meridiem = some p) : p.Real ↔ p.clock.Valid ∧ 1000 ≤ p.year ∧ p.year ≤ 9999 := by
  obtain ⟨hmonth, _, hhour, hminute⟩ := dateTimeParts_bounds h
  constructor
  · rintro ⟨hmonth', ⟨hday, hday'⟩, hyear⟩
    refine ⟨⟨?_, ⟨?_, hday'⟩, ?_, ?_, ?_⟩, hyear⟩ <;> simp only [DateTimeParts.clock] <;> omega
  · rintro ⟨hvalid, hyear⟩
    have hmonth' := hvalid.month.1
    have hday := hvalid.day.1
    simp only [DateTimeParts.clock] at hmonth' hday
    exact ⟨by omega, ⟨by omega, hvalid.day.2⟩, hyear⟩

def DateTimeParts.digits (p : DateTimeParts) (hyear : (numeric p.year).length = 4) (hmonth : p.month ≤ 12) (hday : p.day ≤ 31)
    (hhour : p.hour ≤ 23) (hminute : p.minute ≤ 59) : Digits where
  year := numeric p.year
  month := twoDigit p.month
  day := twoDigit p.day
  hour := twoDigit p.hour
  minute := twoDigit p.minute
  lengths := ⟨hyear, twoDigit_length (by omega), twoDigit_length (by omega), twoDigit_length (by omega),
    twoDigit_length (by omega)⟩

lemma numeric_length_eq_four {n : ℕ} : (numeric n).length = 4 ↔ 1000 ≤ n ∧ n ≤ 9999 := by
  have hshort : (numeric n).length ≤ 3 ↔ n < 10 ^ 3 := Nat.length_toDigits_le_iff (by decide) (by decide)
  have hlong : (numeric n).length ≤ 4 ↔ n < 10 ^ 4 := Nat.length_toDigits_le_iff (by decide) (by decide)
  omega

lemma text_namesTime_iff (hprobed : Probed timeZone) {date time : String} {meridiem : Option String} {p : DateTimeParts}
    (h : dateTimeParts date time meridiem = some p) : NamesTime engine timeZone p.text ↔ p.Real := by
  obtain ⟨hmonth, hday, hhour, hminute⟩ := dateTimeParts_bounds h
  have htext : p.text.toList = numeric p.year ++ '-' :: twoDigit p.month ++ '-' :: twoDigit p.day ++ 'T' :: twoDigit p.hour ++
      ':' :: twoDigit p.minute := String.toList_ofList
  have hparse : (numeric p.year).length = 4 → LocalForm p.text ∧ parseNaiveComponents p.text = some p.clock := by
    intro hyear
    set d := p.digits hyear hmonth hday hhour hminute with hd
    refine ⟨d.localForm htext, ?_⟩
    obtain ⟨c, rest, hfirst⟩ := List.exists_cons_of_ne_nil (List.ne_nil_of_length_pos (by omega : 0 < (numeric p.year).length))
    have hc : c.isDigit = true := numeric_digits p.year c (by rw [hfirst]; exact List.mem_cons_self)
    obtain ⟨a, b, hlast⟩ := List.length_eq_two.mp (twoDigit_length (by omega : (p.minute : ℤ) < 100))
    have hb : b.isDigit = true := twoDigit_digits p.minute b (by rw [hlast]; simp)
    have htrim : (trim p.text).toList = p.text.toList := trim_eq (c := c) (d := b) (by rw [htext, hfirst]; rfl)
      (by rw [htext, hlast]; simp) hc hb
    rw [parseNaiveComponents, htrim, htext]
    have hnumbers := d.parse (number_numeric (Int.natCast_nonneg p.year)) (number_twoDigit (Int.natCast_nonneg p.month))
      (number_twoDigit (Int.natCast_nonneg p.day)) (number_twoDigit (Int.natCast_nonneg p.hour))
      (number_twoDigit (Int.natCast_nonneg p.minute))
    exact congrArg (Option.map Prod.fst) hnumbers
  rw [namesTime_iff hprobed, real_iff h]
  constructor
  · rintro ⟨hform, target, htarget, hvalid, _⟩
    have hyear : (numeric p.year).length = 4 := by
      obtain ⟨_, _, _, _, _, _, _, _, _, _, _, _, hchars⟩ := hform
      have hlength := congrArg List.length (htext.symm.trans hchars)
      have hm : (twoDigit p.month).length = 2 := twoDigit_length (by omega)
      have hn : (twoDigit p.day).length = 2 := twoDigit_length (by omega)
      have hh : (twoDigit p.hour).length = 2 := twoDigit_length (by omega)
      have hi : (twoDigit p.minute).length = 2 := twoDigit_length (by omega)
      simp only [List.length_append, List.length_cons, List.length_nil, hm, hn, hh, hi] at hlength
      omega
    obtain rfl := Option.some.inj (htarget.symm.trans (hparse hyear).2)
    exact ⟨hvalid, numeric_length_eq_four.mp hyear⟩
  · rintro ⟨hvalid, hyear⟩
    obtain ⟨hform, htarget⟩ := hparse (numeric_length_eq_four.mpr hyear)
    exact ⟨hform, p.clock, htarget, hvalid, fun _ => by simp only [DateTimeParts.clock]; omega⟩

end Times

section Local

lemma dataOf_customerRate (h : extractHeader lines = .ok header) :
    (dataOf lines header).customerRate = (extractCustomerRate lines []).1 := by
  obtain ⟨customer, consumed, _, rfl⟩ := extractHeader_eq_ok h
  rfl

lemma appointment_iff (htrimmed : ∀ line ∈ lines, Trimmed line.toList) (h : extractHeader lines = .ok header) :
    (∃ stop ∈ (dataOf lines header).stops, stop.appointmentDatetime = some s) ↔
      ∃ marker rest, marker :: rest <:+ findStopMarkers lines header.consumed ∧
        ∃ e ∈ appointmentLines lines header.consumed marker rest, (appointmentParts e.1).map DateTimeParts.text = some s := by
  constructor
  · rintro ⟨stop, hmem, hs⟩
    obtain ⟨k, hk, heq⟩ := List.mem_iff_getElem.mp hmem
    have hlt : k < (findStopMarkers lines header.consumed).length := (stopsOf_reads htrimmed h).length ▸ hk
    obtain ⟨scan, stopType, low, high, inline, hstop, hfilled, _⟩ := stop_of_lt htrimmed h hlt
    obtain rfl := heq.symm.trans (Option.some.inj ((List.getElem?_eq_getElem hk).symm.trans hstop))
    obtain ⟨_, i, date, time, meridiem, hentry⟩ := hfilled.appointment s hs
    obtain ⟨_, _, _, text, htext, hscan⟩ := hfilled.fits i _ hentry
    have hdrop := List.drop_eq_getElem_cons hlt
    obtain ⟨line, hline, huse⟩ := (appointment_entry_iff htrimmed h rfl hdrop).mp (Consumed.mem_ofStop.mp hentry)
    refine ⟨_, _, hdrop ▸ List.drop_suffix k _, (line, i), hline, ?_⟩
    rw [appointmentParts, (appointmentUse_eq_appointment.mp huse).1]
    exact htext.trans (hscan.symm.trans hs)
  · rintro ⟨marker, rest, hsuffix, ⟨line, i⟩, hline, hparts⟩
    obtain ⟨p, hp, rfl⟩ := Option.map_eq_some_iff.mp hparts
    obtain ⟨date, time, meridiem, htexts, hread⟩ := appointmentParts_eq_some.mp hp
    have hdrop := (List.suffix_iff_eq_drop.mp hsuffix).symm
    have hentry := (appointment_entry_iff htrimmed h rfl hdrop).mpr
      ⟨line, hline, appointmentUse_eq_appointment.mpr ⟨htexts, by rw [hread]; rfl⟩⟩
    obtain ⟨scan, stopType, low, high, inline, hstop, hfilled, _⟩ := stop_of_lt htrimmed h (markers_of_entry htrimmed h hentry)
    obtain ⟨_, _, _, text, htext, hscan⟩ := hfilled.fits i _ (Consumed.mem_ofStop.mpr hentry)
    rw [toNaiveIsoDatetime, hread] at htext
    exact ⟨_, List.mem_of_getElem? hstop, hscan.trans htext.symm⟩

lemma appointments_iff (hprobed : Probed timeZone) (htrimmed : ∀ line ∈ lines, Trimmed line.toList)
    (h : extractHeader lines = .ok header) :
    (∀ stop ∈ (dataOf lines header).stops, ∀ s ∈ stop.appointmentDatetime, NamesTime engine timeZone s) ↔ DatesReal lines := by
  rw [DatesReal, ← extractHeader_takes htrimmed h]
  constructor
  · intro hnames marker rest hsuffix e he p hp
    obtain ⟨stop, hstop, hs⟩ := (appointment_iff htrimmed h).mpr ⟨marker, rest, hsuffix, e, he, by rw [hp]; rfl⟩
    obtain ⟨date, time, meridiem, _, hread⟩ := appointmentParts_eq_some.mp hp
    exact (text_namesTime_iff hprobed hread).mp (hnames stop hstop _ hs)
  · intro hreal stop hstop s hs
    obtain ⟨marker, rest, hsuffix, e, he, hparts⟩ := (appointment_iff htrimmed h).mp ⟨stop, hstop, hs⟩
    obtain ⟨p, hp, rfl⟩ := Option.map_eq_some_iff.mp hparts
    obtain ⟨date, time, meridiem, _, hread⟩ := appointmentParts_eq_some.mp hp
    exact (text_namesTime_iff hprobed hread).mpr (hreal marker rest hsuffix e he p hp)

lemma local_iff (hprobed : Probed timeZone) (toUpperCase : String → String) (text : String) :
    (∀ data, parseRateConfirmationText toUpperCase text = .ok (.data data) →
      Contract engine timeZone (writtenRate (textLines text)) data) ↔
    detectMultiLoad (textLines text) toUpperCase = true ∨ BareCustomerLabel (textLines text) ∨
      RateKept (textLines text) ∧ DatesReal (textLines text) := by
  by_cases hmulti : detectMultiLoad (textLines text) toUpperCase = true
  · rw [parseRateConfirmationText, if_pos hmulti]
    exact iff_of_true (fun data h => by cases h) (.inl hmulti)
  rw [or_iff_right hmulti, parseRateConfirmationText, if_neg hmulti]
  by_cases hbare : BareCustomerLabel (textLines text)
  · refine iff_of_true (fun data h => ?_) (.inl hbare)
    cases hheader : extractHeader (textLines text) with
    | error e =>
      rw [parseLines, hheader] at h
      cases h
    | ok header => exact absurd hbare (extractHeader_ok_iff.mp ⟨header, hheader⟩)
  obtain ⟨header, hheader⟩ := extractHeader_ok_iff.mpr hbare
  have htrimmed : ∀ line ∈ textLines text, Trimmed line.toList := fun line => trimmed_of_mem
  have hdates : (∀ stop ∈ (dataOf (textLines text) header).stops, ∀ s ∈ stop.appointmentDatetime,
      NamesTime engine timeZone s) ↔ DatesReal (textLines text) := appointments_iff hprobed htrimmed hheader
  rw [or_iff_right hbare, parseLines_of_header hheader, ← customerRate_iff, ← dataOf_customerRate hheader, ← hdates]
  constructor
  · intro h
    obtain ⟨hrate, happointments⟩ := h _ rfl
    exact ⟨hrate, happointments⟩
  · rintro ⟨hrate, happointments⟩ data heq
    obtain rfl := RateConfirmationExtractionOutcome.data.inj (Except.ok.inj heq)
    exact ⟨hrate, happointments⟩

end Local

lemma tool_iff (hprobed : Probed timeZone) (input : Json) :
    (∀ data, parseExtractionToolInput input = .ok (.data data) → Contract engine timeZone (givenRate input) data) ↔
      TextsKept timeZone input := by
  constructor
  · intro h rawStops hvalidated
    obtain ⟨data, hparse⟩ := parse_of_validated hvalidated
    obtain ⟨rawStops', hvalidated', hrate, hstops⟩ := validated_of_parse hparse
    obtain rfl := Json.array.inj (Option.some.inj (hvalidated.stops.symm.trans hvalidated'.stops))
    obtain ⟨hplain, hnames⟩ := h data hparse
    refine ⟨fun s hs => (hplain s (hrate.trans hs)).1, fun rawStop hmem s hs => ?_⟩
    obtain ⟨k, hk, heq⟩ := List.mem_iff_getElem.mp hmem
    have hk' : k < data.stops.length := hstops.length_eq ▸ hk
    have hstop : data.stops[k].appointmentDatetime = nullableString (property "appointmentDatetime" rawStop) :=
      heq ▸ hstops.get hk hk'
    exact (namesTime_iff hprobed).mp (hnames _ (List.getElem_mem hk') s (hstop.trans hs))
  · intro h data hparse
    obtain ⟨rawStops, hvalidated, hrate, hstops⟩ := validated_of_parse hparse
    obtain ⟨hplain, htimes⟩ := h rawStops hvalidated
    refine ⟨fun s hs => ?_, fun stop hmem s hs => ?_⟩
    · have hgiven : nullableString (property "customerRate" input) = some s := hrate.symm.trans hs
      obtain ⟨q, hq⟩ := plainDecimal_value (hplain s hgiven)
      exact ⟨hplain s hgiven, q, by rw [givenRate, hgiven]; exact hq, hq⟩
    · obtain ⟨k, hk, rfl⟩ := List.mem_iff_getElem.mp hmem
      have hk' : k < rawStops.length := hstops.length_eq ▸ hk
      exact (namesTime_iff hprobed).mpr (htimes _ (List.getElem_mem hk') s ((hstops.get hk' hk).symm.trans hs))

theorem contract_iff (engine : Engine) (timeZone : Zone) (hprobed : Probed timeZone) :
    (∀ toUpperCase text, (∀ data, parseRateConfirmationText toUpperCase text = .ok (.data data) →
        Contract engine timeZone (writtenRate (textLines text)) data) ↔
      detectMultiLoad (textLines text) toUpperCase = true ∨ BareCustomerLabel (textLines text) ∨
        RateKept (textLines text) ∧ DatesReal (textLines text)) ∧
    ∀ input, (∀ data, parseExtractionToolInput input = .ok (.data data) →
        Contract engine timeZone (givenRate input) data) ↔ TextsKept timeZone input :=
  ⟨fun toUpperCase text => local_iff hprobed toUpperCase text, fun input => tool_iff hprobed input⟩

namespace Sample

def dollars : Json := .object [("stops", .array []), ("customerRate", .string "$2,500")]

def appointed : Json := .object [("stopType", .string "PICKUP"), ("appointmentDatetime", .string "2026-02-28T10:00")]

def plain : Json := .object [("stops", .array [appointed]), ("customerRate", .string "2500.00")]

def rate : String := "Rate: $2,500.00\nPICKUP: Shipper One Inc\nAppt: 02/28/2026 10:00"

def shipperBelow : StopMarkerHit := ⟨1, .pickup, "Shipper One Inc"⟩

def thousandths : String := "Rate: 1,234.567"

def thirtiethOfFebruary : String := "PICKUP: Shipper One Inc\nAppt: 02/30/2026 10:00"

def rateOf : RateConfirmationExtractionOutcome → Option String
  | .multiLoadDetected => none
  | .data data => data.customerRate

def appointmentsOf : RateConfirmationExtractionOutcome → List (Option String)
  | .multiLoadDetected => []
  | .data data => data.stops.map ExtractedStop.appointmentDatetime

lemma textsKept_plain (timeZone : Zone) : TextsKept timeZone plain := by
  intro rawStops hvalidated
  obtain rfl : [appointed] = rawStops := Json.array.inj (Option.some.inj hvalidated.stops)
  refine ⟨fun s hs => ?_, fun rawStop hstop s hs => ?_⟩
  · obtain rfl : "2500.00" = s := Option.some.inj hs
    decide
  · obtain rfl := List.mem_singleton.mp hstop
    obtain rfl : "2026-02-28T10:00" = s := Option.some.inj hs
    exact ⟨⟨_, _, _, _, _, _, _, _, _, _, _, _, rfl⟩, ⟨2026, 2, 28, 10, 0, 0⟩, by decide +kernel, by decide +kernel, fun _ => by decide⟩

lemma rateKept_rate : RateKept (textLines rate) := by
  have hwritten : writtenRate (textLines rate) = some 2500 := by decide +kernel
  intro value i _
  exact ⟨2500, hwritten, ⟨250000, by norm_num⟩, by norm_num, .inl (by norm_num)⟩

lemma datesReal_rate : DatesReal (textLines rate) := by
  have htaken : takenBeforeStops (textLines rate) = [(0, .customerRate)] := by decide +kernel
  have hmarkers : findStopMarkers (textLines rate) [(0, .customerRate)] = [shipperBelow] := by decide +kernel
  have hlines : appointmentLines (textLines rate) [(0, .customerRate)] shipperBelow [] = [("Appt: 02/28/2026 10:00", 2)] := by
    decide +kernel
  have hparts : appointmentParts "Appt: 02/28/2026 10:00" = some ⟨2026, 2, 28, 10, 0⟩ := by decide +kernel
  intro marker rest hsuffix e he p hp
  rw [htaken, hmarkers] at hsuffix
  obtain ⟨rfl, rfl⟩ : marker = shipperBelow ∧ rest = [] := by simpa [List.suffix_cons_iff] using hsuffix
  rw [htaken, hlines] at he
  obtain rfl := List.mem_singleton.mp he
  obtain rfl := Option.some.inj (hparts.symm.trans hp)
  exact ⟨by decide, by decide, by decide⟩

end Sample

theorem contract_iff_sample :
    (∀ data, parseRateConfirmationText String.toUpper Sample.rate = .ok (.data data) →
      Contract QuoteLoad.Sample.engine QuoteLoad.Sample.newYork (writtenRate (textLines Sample.rate)) data) ∧
    ∀ data, parseExtractionToolInput Sample.plain = .ok (.data data) →
      Contract QuoteLoad.Sample.engine QuoteLoad.Sample.newYork (givenRate Sample.plain) data := by
  obtain ⟨hlocal, htool⟩ := contract_iff QuoteLoad.Sample.engine QuoteLoad.Sample.newYork QuoteLoad.Sample.newYork_probed
  exact ⟨(hlocal String.toUpper Sample.rate).mpr (.inr (.inr ⟨Sample.rateKept_rate, Sample.datesReal_rate⟩)),
    (htool Sample.plain).mpr (Sample.textsKept_plain QuoteLoad.Sample.newYork)⟩

theorem contract_broken :
    (¬∀ data, parseExtractionToolInput Sample.dollars = .ok (.data data) →
      Contract QuoteLoad.Sample.engine QuoteLoad.Sample.newYork (givenRate Sample.dollars) data) ∧
    (¬∀ data, parseRateConfirmationText String.toUpper Sample.thousandths = .ok (.data data) →
      Contract QuoteLoad.Sample.engine QuoteLoad.Sample.newYork (writtenRate (textLines Sample.thousandths)) data) ∧
    ¬∀ data, parseRateConfirmationText String.toUpper Sample.thirtiethOfFebruary = .ok (.data data) →
      Contract QuoteLoad.Sample.engine QuoteLoad.Sample.newYork (writtenRate (textLines Sample.thirtiethOfFebruary)) data := by
  refine ⟨fun h => ?_, fun h => ?_, fun h => ?_⟩
  · have hplain := (h _ rfl).rate "$2,500" rfl
    exact absurd hplain.1 (by decide)
  · have hwritten : writtenRate (textLines Sample.thousandths) = some (1234567 / 1000) := by decide +kernel
    have hrate : (parseRateConfirmationText String.toUpper Sample.thousandths).toOption.bind Sample.rateOf =
        some "1234.56" := by decide +kernel
    cases hparse : parseRateConfirmationText String.toUpper Sample.thousandths with
    | error e =>
      rw [hparse] at hrate
      cases hrate
    | ok outcome =>
      cases outcome with
      | multiLoadDetected =>
        rw [hparse] at hrate
        cases hrate
      | data data =>
        rw [hparse] at hrate
        obtain ⟨_, q, hq, hvalue⟩ := (h data hparse).rate "1234.56" hrate
        have hdecimal : decimalValue "1234.56".toList = some (123456 / 100) := by decide +kernel
        have hsame := (Option.some.inj (hwritten.symm.trans hq)).trans (Option.some.inj (hvalue.symm.trans hdecimal))
        norm_num at hsame
  · have hstops : (parseRateConfirmationText String.toUpper Sample.thirtiethOfFebruary).toOption.map Sample.appointmentsOf =
        some [some "2026-02-30T10:00"] := by decide +kernel
    cases hparse : parseRateConfirmationText String.toUpper Sample.thirtiethOfFebruary with
    | error e =>
      rw [hparse] at hstops
      cases hstops
    | ok outcome =>
      cases outcome with
      | multiLoadDetected =>
        rw [hparse] at hstops
        cases hstops
      | data data =>
        rw [hparse] at hstops
        have hstops' : data.stops.map ExtractedStop.appointmentDatetime = [some "2026-02-30T10:00"] := Option.some.inj hstops
        obtain ⟨stop, hmem, hs⟩ := List.mem_map.mp (hstops' ▸ List.mem_singleton_self (some "2026-02-30T10:00"))
        obtain ⟨_, target, htarget, hvalid, _⟩ := (h data hparse).appointments stop hmem _ hs
        have hread : parseNaiveComponents "2026-02-30T10:00" = some ⟨2026, 2, 30, 10, 0, 0⟩ := by decide +kernel
        obtain rfl := Option.some.inj (hread.symm.trans htarget)
        exact absurd hvalid (by decide)

end Truckmaster.RateConfirmationExtraction
