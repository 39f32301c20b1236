import Truckmaster.Common.Requests
import Truckmaster.Library.Calendars

/-! How a timestamp that a client sends becomes an instant: in the business time zone, and by the Date constructor. -/

namespace Truckmaster.Common

open Calendars

def number (cs : List Char) : Option ℤ :=
  if cs.all Char.isDigit then some (cs.foldl (fun n c => 10 * n + (c.toNat - 48 : ℕ)) 0) else none

/-- `/Z$|[+-]\d{2}:?\d{2}$/`, from the end. -/
def hasExplicitOffset (input : String) : Bool :=
  match (trim input).toList.reverse with
  | 'Z' :: _ => true
  | m₂ :: m₁ :: ':' :: h₂ :: h₁ :: sign :: _ => [m₂, m₁, h₂, h₁].all Char.isDigit && (sign == '+' || sign == '-')
  | m₂ :: m₁ :: h₂ :: h₁ :: sign :: _ => [m₂, m₁, h₂, h₁].all Char.isDigit && (sign == '+' || sign == '-')
  | _ => false

def naiveSeconds : List Char → Option (ℤ × List Char)
  | [] => some (0, [])
  | [':', s₁, s₂] => (number [s₁, s₂]).map (fun second => (second, []))
  | ':' :: s₁ :: s₂ :: '.' :: fraction =>
    if fraction ≠ [] ∧ fraction.all Char.isDigit then (number [s₁, s₂]).map (fun second => (second, fraction)) else none
  | _ => none

/-- The matches of `NAIVE_DATETIME_PATTERN`, with the digits of the fraction. -/
def naiveComponents : List Char → Option (WallClock × List Char)
  | y₁ :: y₂ :: y₃ :: y₄ :: c₁ :: m₁ :: m₂ :: c₂ :: d₁ :: d₂ :: c₃ :: h₁ :: h₂ :: c₄ :: i₁ :: i₂ :: rest => do
    guard ([c₁, c₂, c₃, c₄] = ['-', '-', 'T', ':'])
    let year ← number [y₁, y₂, y₃, y₄]
    let month ← number [m₁, m₂]
    let day ← number [d₁, d₂]
    let hour ← number [h₁, h₂]
    let minute ← number [i₁, i₂]
    let (second, fraction) ← naiveSeconds rest
    some (⟨year, month, day, hour, minute, second⟩, fraction)
  | _ => none

def parseNaiveComponents (input : String) : Option WallClock := (naiveComponents (trim input).toList).map Prod.fst

/-- `Date.UTC`: months run over into years, and the years 0 to 99 are those of the twentieth century. -/
def toUtcMs (parts : WallClock) : ℤ :=
  let year := if 0 ≤ parts.year ∧ parts.year ≤ 99 then 1900 + parts.year else parts.year
  WallClock.ms { parts with year := year + (parts.month - 1) / 12, month := (parts.month - 1) % 12 + 1 }

def wallClockPartsInZone (instant : Instant) (timeZone : Zone) : WallClock := .ofMs (timeZone.wall instant)

/-- In milliseconds. -/
def offsetAt (instant : Instant) (timeZone : Zone) : ℤ := toUtcMs (wallClockPartsInZone instant timeZone) - instant

def dayStartProbe (target : WallClock) : ℤ := toUtcMs { target with hour := 0, minute := 0, second := 0 }

def dayEndProbe (target : WallClock) : ℤ := toUtcMs { target with hour := 23, minute := 59, second := 59 }

def parseBusinessWallClock (timeZone : Zone) (naiveDateTime : String) : Option Instant := do
  let target ← parseNaiveComponents naiveDateTime
  let candidateOffsets := [offsetAt (dayStartProbe target) timeZone, offsetAt (dayEndProbe target) timeZone].eraseDups
  let candidates := candidateOffsets.map (fun offset => toUtcMs target - offset)
  (candidates.filter (fun candidate => wallClockPartsInZone candidate timeZone = target)).min?

/-- What the engine makes of the strings that the date time format of the language leaves open: those with an offset,
whose instant is their own, and those in no format. -/
structure Engine where
  explicit : String → Option Instant
  other : Zone → String → Option Instant

/-- The first three digits of the fraction. -/
def milliseconds (fraction : List Char) : ℤ := (number ((fraction ++ ['0', '0', '0']).take 3)).getD 0

def dateOnly : List Char → Option WallClock
  | [y₁, y₂, y₃, y₄] => do
    let year ← number [y₁, y₂, y₃, y₄]
    some { year, month := 1, day := 1 }
  | [y₁, y₂, y₃, y₄, '-', m₁, m₂] => do
    let year ← number [y₁, y₂, y₃, y₄]
    let month ← number [m₁, m₂]
    some { year, month, day := 1 }
  | [y₁, y₂, y₃, y₄, '-', m₁, m₂, '-', d₁, d₂] => do
    let year ← number [y₁, y₂, y₃, y₄]
    let month ← number [m₁, m₂]
    let day ← number [d₁, d₂]
    some { year, month, day }
  | _ => none

/-- `new Date(input)` in a process of this time zone: an invalid date is `none`. -/
def newDate (engine : Engine) (server : Zone) (input : String) : Option Instant :=
  if hasExplicitOffset input then engine.explicit input
  else match naiveComponents input.toList, dateOnly input.toList with
    | some (parts, fraction), _ =>
      if parts.Valid then some (server.resolve (parts.ms + milliseconds fraction)) else engine.other server input
    | none, some parts => if parts.Valid then some parts.ms else engine.other server input
    | none, none => engine.other server input

def parseBusinessDateTime (engine : Engine) (timeZone : Zone) (dateTimeInput : String) : Option Instant :=
  if hasExplicitOffset dateTimeInput then engine.explicit dateTimeInput
  else parseBusinessWallClock timeZone dateTimeInput

/-- Every instant has the offset of one of the two probes of its date. -/
def Probed (timeZone : Zone) : Prop := ∀ instant, 100 ≤ (wallClockPartsInZone instant timeZone).year →
  1000 * timeZone.offset instant = offsetAt (dayStartProbe (wallClockPartsInZone instant timeZone)) timeZone ∨
    1000 * timeZone.offset instant = offsetAt (dayEndProbe (wallClockPartsInZone instant timeZone)) timeZone

/-- A text that the validator takes for a date: it is not empty, and one with a time of day is not padded. -/
structure DateString where
  text : String
  nonempty : text ≠ "" := by decide
  unpadded : (naiveComponents (trim text).toList).isSome → trim text = text := by decide

structure Readable (timeZone : Zone) (p : WallClock) : Prop where
  valid : p.Valid
  recent : 100 ≤ p.year
  shown : timeZone.Shows p.ms

section Parsing

variable {timeZone : Zone} {p : WallClock} {x : Instant} {cs : List Char}

lemma number_nonneg {n : ℤ} (h : number cs = some n) : 0 ≤ n := by
  unfold number at h
  split at h
  · obtain rfl := Option.some.inj h
    exact List.foldlRecOn cs _ le_rfl (fun m hm c _ => by positivity)
  · cases h

lemma toUtcMs_of_recent (hmonth : 1 ≤ p.month ∧ p.month ≤ 12) (h : 100 ≤ p.year) : toUtcMs p = p.ms := by
  obtain ⟨year, month, day, hour, minute, second⟩ := p
  simp only at hmonth h
  have hyear : (month - 1) / 12 = 0 := by omega
  have hmonth' : (month - 1) % 12 + 1 = month := by omega
  simp only [toUtcMs, hyear, hmonth', add_zero]
  rw [if_neg (by omega)]

lemma toUtcMs_dvd (p : WallClock) : 1000 ∣ toUtcMs p := WallClock.ms_dvd _

lemma naive_year_nonneg {fraction : List Char} (h : naiveComponents cs = some (p, fraction)) : 0 ≤ p.year := by
  unfold naiveComponents at h
  split at h
  · simp only [Option.bind_eq_bind, Option.bind_eq_some_iff, Option.some.injEq, Prod.mk.injEq] at h
    obtain ⟨-, -, year, hyear, -, -, -, -, -, -, -, -, -, -, rfl, -⟩ := h
    exact number_nonneg hyear
  · cases h

lemma parseNaive_year_nonneg {input : String} (h : parseNaiveComponents input = some p) : 0 ≤ p.year := by
  obtain ⟨⟨parts, fraction⟩, hparts, rfl⟩ := Option.map_eq_some_iff.mp h
  exact naive_year_nonneg hparts

lemma parts_valid (x : Instant) (timeZone : Zone) : (wallClockPartsInZone x timeZone).Valid := WallClock.ofMs_valid _

lemma offsetAt_of_recent (hx : 1000 ∣ x) (h : 100 ≤ (wallClockPartsInZone x timeZone).year) :
    offsetAt x timeZone = 1000 * timeZone.offset x := by
  have hms : (wallClockPartsInZone x timeZone).ms = 1000 * (timeZone.wall x / 1000) := WallClock.ofMs_ms _
  rw [offsetAt, toUtcMs_of_recent (parts_valid x timeZone).month h, hms]
  obtain ⟨k, rfl⟩ := hx
  unfold Zone.wall
  omega

lemma offsetAt_dvd (hx : 1000 ∣ x) : 1000 ∣ offsetAt x timeZone := dvd_sub (toUtcMs_dvd _) hx

lemma wall_of_parts (hx : 1000 ∣ x) (h : wallClockPartsInZone x timeZone = p) : timeZone.wall x = p.ms := by
  have hms : (wallClockPartsInZone x timeZone).ms = 1000 * (timeZone.wall x / 1000) := WallClock.ofMs_ms _
  rw [h] at hms
  obtain ⟨k, rfl⟩ := hx
  unfold Zone.wall at hms ⊢
  omega

lemma parts_of_wall (hvalid : p.Valid) (h : timeZone.wall x = p.ms) : wallClockPartsInZone x timeZone = p := by
  rw [wallClockPartsInZone, h]
  simpa using WallClock.ofMs_of_valid hvalid le_rfl (by norm_num : (0 : ℤ) < 1000)

lemma le_wall_of_year (h : 100 ≤ (wallClockPartsInZone x timeZone).year) :
    86400000 * (yearStart 100 - epochDay) ≤ timeZone.wall x := by
  have hvalid := parts_valid x timeZone
  have hle := WallClock.yearStart_le_ms hvalid.month hvalid.day.1 hvalid.secondOfDay.1
  have hms : (wallClockPartsInZone x timeZone).ms = 1000 * (timeZone.wall x / 1000) := WallClock.ofMs_ms _
  have hmono := yearStart_mono h
  omega

lemma probes_of_recent (h : 100 ≤ (wallClockPartsInZone x timeZone).year) :
    dayStartProbe (wallClockPartsInZone x timeZone) = 86400000 * (timeZone.wall x / 86400000) ∧
      dayEndProbe (wallClockPartsInZone x timeZone) = 86400000 * (timeZone.wall x / 86400000) + 86399000 := by
  have hmonth := (parts_valid x timeZone).month
  constructor
  · have hprobe := toUtcMs_of_recent (p := { wallClockPartsInZone x timeZone with hour := 0, minute := 0, second := 0 })
      hmonth h
    refine hprobe.trans ?_
    simp only [wallClockPartsInZone, WallClock.ofMs, WallClock.ms, WallClock.dayNumber, WallClock.secondOfDay]
    omega
  · have hprobe := toUtcMs_of_recent (p := { wallClockPartsInZone x timeZone with hour := 23, minute := 59, second := 59 })
      hmonth h
    refine hprobe.trans ?_
    simp only [wallClockPartsInZone, WallClock.ofMs, WallClock.ms, WallClock.dayNumber, WallClock.secondOfDay]
    omega

/-- A match of `parseBusinessWallClock`: the offset of one of the probes leads back to the same digits. -/
def RoundTrips (timeZone : Zone) (target : WallClock) (x : Instant) : Prop :=
  (toUtcMs target - offsetAt (dayStartProbe target) timeZone = x ∨
    toUtcMs target - offsetAt (dayEndProbe target) timeZone = x) ∧ wallClockPartsInZone x timeZone = target

lemma parse_eq_some {input : String} : parseBusinessWallClock timeZone input = some x ↔
    ∃ target, parseNaiveComponents input = some target ∧ RoundTrips timeZone target x ∧
      ∀ y, RoundTrips timeZone target y → x ≤ y := by
  simp only [parseBusinessWallClock, Option.bind_eq_bind, Option.bind_eq_some_iff, List.min?_eq_some_iff, List.mem_filter,
    List.mem_map, List.mem_eraseDups, List.mem_cons, List.not_mem_nil, or_false, exists_eq_or_imp, exists_eq_left,
    decide_eq_true_eq, RoundTrips]

lemma RoundTrips.wall (h : RoundTrips timeZone p x) : timeZone.wall x = p.ms := by
  obtain ⟨hcandidate, hparts⟩ := h
  refine wall_of_parts ?_ hparts
  rcases hcandidate with rfl | rfl
  · exact dvd_sub (toUtcMs_dvd p) (offsetAt_dvd (toUtcMs_dvd _))
  · exact dvd_sub (toUtcMs_dvd p) (offsetAt_dvd (toUtcMs_dvd _))

lemma RoundTrips.valid (h : RoundTrips timeZone p x) : p.Valid := h.2 ▸ parts_valid x timeZone

lemma le_toUtcMs (hyear : 0 ≤ p.year) (hearly : p.year ≤ 99) (hmonth : 1 ≤ p.month ∧ p.month ≤ 12) (hday : 1 ≤ p.day)
    (hsecond : 0 ≤ p.secondOfDay) : 86400000 * (yearStart 1900 - epochDay) ≤ toUtcMs p := by
  have hshifted : toUtcMs p = WallClock.ms { p with year := 1900 + p.year } := by
    have hcarry : (p.month - 1) / 12 = 0 := by omega
    have hmonth' : (p.month - 1) % 12 + 1 = p.month := by omega
    simp only [toUtcMs, hcarry, hmonth', add_zero]
    rw [if_pos ⟨hyear, hearly⟩]
  have hmono : yearStart 1900 ≤ yearStart (1900 + p.year) := yearStart_mono (by omega)
  have hle := WallClock.yearStart_le_ms (p := { p with year := 1900 + p.year }) hmonth hday hsecond
  simp only at hle
  omega

lemma offsetAt_bounds (hx : 1000 ∣ x) (hlate : 86400000 * (yearStart 1900 - epochDay) ≤ x) :
    -86400000 < offsetAt x timeZone ∧ offsetAt x timeZone < 86400000 := by
  have hbounds := timeZone.bounded x
  have hyears : yearStart 1899 + 365 = yearStart 1900 := by decide
  have hyear : 1899 ≤ (wallClockPartsInZone x timeZone).year := by
    refine WallClock.le_ofMs_year ?_
    unfold Zone.wall
    omega
  rw [offsetAt_of_recent hx (by omega)]
  omega

/-- The years 0 to 99 are probed in the twentieth century, which no such time leads back to. -/
lemma RoundTrips.recent (h : RoundTrips timeZone p x) (hyear : 0 ≤ p.year) : 100 ≤ p.year := by
  by_contra hearly
  have hvalid := h.valid
  have hwall := h.wall
  have hbounds := timeZone.bounded x
  have hlate := le_toUtcMs hyear (by omega) hvalid.month hvalid.day.1 hvalid.secondOfDay.1
  have hstart := @offsetAt_bounds timeZone _ (toUtcMs_dvd _)
    (le_toUtcMs (p := { p with hour := 0, minute := 0, second := 0 }) hyear (by simp only; omega) hvalid.month
      hvalid.day.1 (by simp [WallClock.secondOfDay]))
  have hend := @offsetAt_bounds timeZone _ (toUtcMs_dvd _)
    (le_toUtcMs (p := { p with hour := 23, minute := 59, second := 59 }) hyear (by simp only; omega) hvalid.month
      hvalid.day.1 (by simp [WallClock.secondOfDay]))
  have hnear : toUtcMs p - 86400000 < x := by
    rcases h.1 with rfl | rfl
    · unfold dayStartProbe
      omega
    · unfold dayEndProbe
      omega
  have hbefore := hvalid.ms_lt
  have hmono : yearStart (p.year + 1) ≤ yearStart 100 := yearStart_mono (by omega)
  have hcentury : yearStart 100 + 600000 < yearStart 1900 := by decide
  unfold Zone.wall at hwall
  omega

lemma resolve_roundTrips (hprobed : Probed timeZone) (h : Readable timeZone p) :
    RoundTrips timeZone p (timeZone.resolve p.ms) := by
  have hwall := Zone.wall_resolve h.shown
  have hparts := parts_of_wall h.valid hwall
  have hprobes := hprobed (timeZone.resolve p.ms) (by rw [hparts]; exact h.recent)
  rw [hparts] at hprobes
  have hms := toUtcMs_of_recent h.valid.month h.recent
  unfold Zone.wall at hwall
  refine ⟨?_, hparts⟩
  rcases hprobes with hoffset | hoffset
  · left
    omega
  · right
    omega

theorem parseBusinessWallClock_eq_some (hprobed : Probed timeZone) {input : String} :
    parseBusinessWallClock timeZone input = some x ↔
      ∃ target, parseNaiveComponents input = some target ∧ Readable timeZone target ∧ timeZone.resolve target.ms = x := by
  rw [parse_eq_some]
  constructor
  · rintro ⟨target, htarget, htrip, hleast⟩
    have hreadable : Readable timeZone target :=
      ⟨htrip.valid, htrip.recent (parseNaive_year_nonneg htarget), x, htrip.wall⟩
    exact ⟨target, htarget, hreadable, le_antisymm (Zone.resolve_le htrip.wall)
      (hleast _ (resolve_roundTrips hprobed hreadable))⟩
  · rintro ⟨target, htarget, hreadable, rfl⟩
    exact ⟨target, htarget, resolve_roundTrips hprobed hreadable, fun y hy => Zone.resolve_le hy.wall⟩

end Parsing

/-- A text that the Date constructor does not read as a date, without an offset of its own. -/
structure Rejected (engine : Engine) (server : Zone) (input : String) : Prop where
  naive : ∀ parts fraction, naiveComponents input.toList = some (parts, fraction) → ¬ parts.Valid
  date : naiveComponents input.toList = none → ∀ parts, dateOnly input.toList = some parts → ¬ parts.Valid
  other : engine.other server input = none

def ReadsAlike (engine : Engine) (server timeZone : Zone) (input : String) : Prop :=
  hasExplicitOffset input ∨
  (∃ parts fraction, naiveComponents (trim input).toList = some (parts, fraction) ∧ Readable timeZone parts ∧
    milliseconds fraction = 0 ∧ server.offsetFor parts.ms = timeZone.offsetFor parts.ms) ∨
  ((∀ parts, parseNaiveComponents input = some parts → ¬ Readable timeZone parts) ∧ Rejected engine server input)

section Agreement

variable {engine : Engine} {server timeZone : Zone} {p : WallClock} {x : Instant} {cs : List Char}

lemma number_lt {n : ℤ} (h : number cs = some n) : n < 10 ^ cs.length := by
  unfold number at h
  split at h
  case isTrue hdigits =>
    obtain rfl := Option.some.inj h
    clear h
    induction cs using List.reverseRecOn with
    | nil => simp
    | append_singleton cs c ih =>
      simp only [List.all_append, List.all_cons, List.all_nil, Bool.and_true, Bool.and_eq_true] at hdigits
      have hbefore := ih hdigits.1
      have hdigit : c.toNat - 48 ≤ 9 := by
        have := hdigits.2
        simp only [Char.isDigit, ge_iff_le, decide_eq_true_eq, Bool.and_eq_true, UInt32.le_iff_toNat_le] at this
        exact Nat.sub_le_of_le_add this.2
      simp only [List.foldl_append, List.foldl_cons, List.foldl_nil, List.length_append, List.length_singleton, pow_succ]
      omega
  case isFalse => cases h

lemma milliseconds_bounds (fraction : List Char) : 0 ≤ milliseconds fraction ∧ milliseconds fraction < 1000 := by
  unfold milliseconds
  cases hread : number ((fraction ++ ['0', '0', '0']).take 3) with
  | none => simp
  | some n =>
    have hlt := number_lt hread
    have hlength : ((fraction ++ ['0', '0', '0']).take 3).length = 3 := by simp
    rw [hlength] at hlt
    exact ⟨number_nonneg hread, by simpa using hlt⟩

lemma newDate_naive {input : String} {fraction : List Char} (hoffset : hasExplicitOffset input = false)
    (h : naiveComponents input.toList = some (p, fraction)) (hvalid : p.Valid) :
    newDate engine server input = some (server.resolve (p.ms + milliseconds fraction)) := by
  simp [newDate, hoffset, h, hvalid]

lemma number_digits {n : ℤ} (h : number cs = some n) : ∀ c ∈ cs, c.isDigit = true := by
  unfold number at h
  split at h
  case isTrue hdigits => exact List.all_eq_true.mp hdigits
  case isFalse => cases h

lemma digit_not_space {c : Char} (h : c.isDigit = true) : isWhiteSpace c = false := by
  have hbounds : 48 ≤ c.toNat ∧ c.toNat ≤ 57 := by
    simp [Char.isDigit, UInt32.le_iff_toNat_le] at h
    exact h
  simp [isWhiteSpace]
  omega

lemma trim_eq {input : String} {c d : Char} {rest : List Char} (hfirst : input.toList = c :: rest)
    (hlast : input.toList.reverse.head? = some d) (hc : c.isDigit = true) (hd : d.isDigit = true) :
    (trim input).toList = input.toList := by
  obtain ⟨before, hbefore⟩ := List.head?_eq_some_iff.mp hlast
  have hstart : input.toList.dropWhile isWhiteSpace = input.toList := by
    rw [hfirst, List.dropWhile_cons_of_neg (by simp [digit_not_space hc])]
  rw [trim, hstart, hbefore, List.dropWhile_cons_of_neg (by simp [digit_not_space hd]), ← hbefore,
    List.reverse_reverse, String.toList_ofList]

lemma hasExplicitOffset_date {input : String} {c d : Char} {rest : List Char} (hc : c.isDigit = true)
    (h : (trim input).toList.reverse = c :: d :: '-' :: rest) : hasExplicitOffset input = false := by
  have hdash : ('-').isDigit = false := by decide
  unfold hasExplicitOffset
  rw [h]
  split
  case h_1 heq =>
    obtain rfl := (List.cons.inj heq).1
    cases hc
  case h_2 heq => simp at heq
  case h_3 heq =>
    obtain ⟨_, _, rfl, _⟩ := by simpa using heq
    simp [hdash]
  case h_4 => rfl

lemma dateOnly_reads {input : String} (h : dateOnly input.toList = some p) :
    hasExplicitOffset input = false ∧ naiveComponents input.toList = none ∧ p.secondOfDay = 0 := by
  unfold dateOnly at h
  split at h
  · rename_i y₁ y₂ y₃ y₄ hcs
    simp only [Option.bind_eq_bind, Option.bind_eq_some_iff, Option.some.injEq] at h
    obtain ⟨year, hyear, rfl⟩ := h
    have hyears := number_digits hyear
    simp only [List.forall_mem_cons] at hyears
    have htrim := trim_eq hcs (by rw [hcs]; rfl) hyears.1 hyears.2.2.2.1
    refine ⟨?_, by rw [hcs]; rfl, rfl⟩
    unfold hasExplicitOffset
    rw [htrim, hcs]
    simp only [List.reverse_cons, List.reverse_nil, List.nil_append, List.cons_append]
    split <;> simp_all
  · rename_i y₁ y₂ y₃ y₄ m₁ m₂ hcs
    simp only [Option.bind_eq_bind, Option.bind_eq_some_iff, Option.some.injEq] at h
    obtain ⟨year, hyear, month, hmonth, rfl⟩ := h
    have hyears := number_digits hyear
    have hmonths := number_digits hmonth
    simp only [List.forall_mem_cons] at hyears hmonths
    have htrim := trim_eq hcs (by rw [hcs]; rfl) hyears.1 hmonths.2.1
    exact ⟨hasExplicitOffset_date hmonths.2.1 (by rw [htrim, hcs]; rfl), by rw [hcs]; rfl, rfl⟩
  · rename_i y₁ y₂ y₃ y₄ m₁ m₂ d₁ d₂ hcs
    simp only [Option.bind_eq_bind, Option.bind_eq_some_iff, Option.some.injEq] at h
    obtain ⟨year, hyear, month, hmonth, day, hday, rfl⟩ := h
    have hyears := number_digits hyear
    have hdays := number_digits hday
    simp only [List.forall_mem_cons] at hyears hdays
    have htrim := trim_eq hcs (by rw [hcs]; rfl) hyears.1 hdays.2.1
    exact ⟨hasExplicitOffset_date hdays.2.1 (by rw [htrim, hcs]; rfl), by rw [hcs]; rfl, rfl⟩
  · cases h

lemma newDate_date {input : String} (h : dateOnly input.toList = some p) (hvalid : p.Valid) :
    newDate engine server input = some p.ms := by
  obtain ⟨hoffset, hnaive, _⟩ := dateOnly_reads h
  simp [newDate, hoffset, hnaive, h, hvalid]

lemma newDate_eq_none {input : String} (hoffset : hasExplicitOffset input = false) :
    newDate engine server input = none ↔ Rejected engine server input := by
  simp only [newDate, hoffset, Bool.false_eq_true, if_false]
  constructor
  · intro h
    split at h
    case h_1 parts fraction hnaive =>
      split at h
      · cases h
      case isFalse hvalid => exact ⟨by simp [hnaive, hvalid], by simp [hnaive], h⟩
    case h_2 parts hnaive hdate =>
      split at h
      · cases h
      case isFalse hvalid => exact ⟨by simp [hnaive], by simp [hdate, hvalid], h⟩
    case h_3 hnaive hdate => exact ⟨by simp [hnaive], by simp [hdate], h⟩
  · rintro ⟨hnaive, hdate, hother⟩
    split
    case h_1 parts fraction heq => rw [if_neg (hnaive parts fraction heq), hother]
    case h_2 parts heq heq' => rw [if_neg (hdate heq parts heq'), hother]
    case h_3 => exact hother

theorem newDate_eq_parse (hprobed : Probed timeZone) (input : DateString) :
    newDate engine server input.text = parseBusinessDateTime engine timeZone input.text ↔
      ReadsAlike engine server timeZone input.text := by
  obtain ⟨input, _, hunpadded⟩ := input
  simp only [ReadsAlike, parseBusinessDateTime]
  cases hoffset : hasExplicitOffset input with
  | true => simp [newDate, hoffset]
  | false =>
    simp only [Bool.false_eq_true, if_false, false_or]
    constructor
    · intro h
      cases hparse : parseBusinessWallClock timeZone input with
      | none =>
        right
        refine ⟨fun parts hparts hreadable => ?_, (newDate_eq_none hoffset).mp (h.trans hparse)⟩
        have hread := (parseBusinessWallClock_eq_some hprobed).mpr ⟨parts, hparts, hreadable, rfl⟩
        rw [hparse] at hread
        cases hread
      | some x =>
        left
        obtain ⟨parts, hparts, hreadable, hresolve⟩ := (parseBusinessWallClock_eq_some hprobed).mp hparse
        obtain ⟨⟨parts, fraction⟩, hnaive, rfl⟩ := Option.map_eq_some_iff.mp hparts
        have htrim := hunpadded (by rw [hnaive]; rfl)
        have hdate : newDate engine server input = _ := newDate_naive hoffset (by rw [← htrim]; exact hnaive) hreadable.valid
        rw [hparse, hdate] at h
        have hread := Option.some.inj h
        have hbounds := milliseconds_bounds fraction
        unfold Zone.resolve at hread hresolve
        have hwhole : milliseconds fraction = 0 := by omega
        rw [hwhole] at hread
        simp only [add_zero] at hread hresolve
        exact ⟨parts, fraction, hnaive, hreadable, hwhole, by omega⟩
    · rintro (⟨parts, fraction, hnaive, hreadable, hwhole, hoffsets⟩ | ⟨hunread, hrejected⟩)
      · have htrim := hunpadded (by rw [hnaive]; rfl)
        have hdate : newDate engine server input = _ := newDate_naive hoffset (by rw [← htrim]; exact hnaive) hreadable.valid
        have hparse := (parseBusinessWallClock_eq_some hprobed).mpr
          ⟨parts, by rw [parseNaiveComponents, hnaive]; rfl, hreadable, rfl⟩
        rw [hdate, hparse, hwhole, add_zero]
        unfold Zone.resolve
        rw [hoffsets]
      · rw [(newDate_eq_none hoffset).mpr hrejected]
        symm
        rw [Option.eq_none_iff_forall_ne_some]
        intro x hx
        obtain ⟨parts, hparts, hreadable, _⟩ := (parseBusinessWallClock_eq_some hprobed).mp hx
        exact hunread parts hparts hreadable

end Agreement

end Truckmaster.Common
