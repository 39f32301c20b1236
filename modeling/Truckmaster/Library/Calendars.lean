import Mathlib.Tactic

/-! The Gregorian calendar without time zones: dates and times of day against milliseconds since 1970. -/

namespace Calendars

@[ext]
structure WallClock where
  year : ℤ
  month : ℤ
  day : ℤ
  hour : ℤ := 0
  minute : ℤ := 0
  second : ℤ := 0
  deriving DecidableEq, Repr

def leapDay (y : ℤ) : ℤ := if y % 4 = 0 ∧ (y % 100 ≠ 0 ∨ y % 400 = 0) then 1 else 0

def yearStart (y : ℤ) : ℤ := 365 * (y - 1) + (y - 1) / 4 - (y - 1) / 100 + (y - 1) / 400

def monthStart (y m : ℤ) : ℤ := (367 * m - 362) / 12 - if m ≤ 2 then 0 else 2 - leapDay y

def epochDay : ℤ := 719162

section Years

variable {y z n : ℤ}

lemma leapDay_cases (y : ℤ) : leapDay y = 0 ∨ leapDay y = 1 := by
  unfold leapDay
  split <;> simp

lemma yearStart_succ (y : ℤ) : yearStart (y + 1) = yearStart y + 365 + leapDay y := by
  unfold yearStart leapDay
  split <;> omega

lemma yearStart_lt (h : y < z) : yearStart y + 365 * (z - y) ≤ yearStart z := by
  unfold yearStart
  omega

lemma yearStart_mono (h : y ≤ z) : yearStart y ≤ yearStart z := by
  rcases h.lt_or_eq with hlt | rfl
  · have := yearStart_lt hlt
    omega
  · exact le_rfl

lemma year_unique (hy : yearStart y ≤ n) (hy' : n < yearStart (y + 1)) (hz : yearStart z ≤ n)
    (hz' : n < yearStart (z + 1)) : y = z := by
  rcases lt_trichotomy y z with hlt | heq | hlt
  · have hmono : yearStart (y + 1) ≤ yearStart z := yearStart_mono hlt
    omega
  · exact heq
  · have hmono : yearStart (z + 1) ≤ yearStart y := yearStart_mono hlt
    omega

def yearOf (n : ℤ) : ℤ :=
  let y := 400 * n / 146097 + 1
  if n < yearStart y then y - 1 else if n < yearStart (y + 1) then y else y + 1

lemma yearOf_spec (n : ℤ) : yearStart (yearOf n) ≤ n ∧ n < yearStart (yearOf n + 1) := by
  unfold yearOf
  dsimp only
  split_ifs with hbefore hafter <;> unfold yearStart at * <;> omega

lemma le_yearOf (h : yearStart y ≤ n) : y ≤ yearOf n := by
  by_contra hlt
  obtain ⟨_, hend⟩ := yearOf_spec n
  have hmono : yearStart (yearOf n + 1) ≤ yearStart y := yearStart_mono (by omega)
  omega

end Years

section Months

variable {y m k p : ℤ}

/-- The month of the day of the year `p`, which counts from zero. -/
def monthOf (y p : ℤ) : ℤ := (12 * (p + if p < 59 + leapDay y then 0 else 2 - leapDay y) + 373) / 367

lemma monthOf_spec (h : 0 ≤ p) (h' : p < 365 + leapDay y) :
    1 ≤ monthOf y p ∧ monthOf y p ≤ 12 ∧ monthStart y (monthOf y p) ≤ p ∧ p < monthStart y (monthOf y p + 1) := by
  unfold monthOf monthStart
  rcases leapDay_cases y with hleap | hleap <;> rw [hleap] at h' ⊢ <;> split <;> omega

lemma month_unique (hm : 1 ≤ m) (hm' : m ≤ 12) (hk : 1 ≤ k) (hk' : k ≤ 12) (h : monthStart y m ≤ p)
    (h' : p < monthStart y (m + 1)) (g : monthStart y k ≤ p) (g' : p < monthStart y (k + 1)) : m = k := by
  unfold monthStart at *
  rcases leapDay_cases y with hleap | hleap <;> rw [hleap] at h h' g g' <;> split_ifs at h h' g g' <;> omega

lemma monthStart_bounds (hm : 1 ≤ m) (hm' : m ≤ 12) : 0 ≤ monthStart y m ∧ monthStart y (m + 1) ≤ 365 + leapDay y := by
  unfold monthStart
  rcases leapDay_cases y with hleap | hleap <;> rw [hleap] <;> split_ifs <;> omega

end Months

namespace WallClock

def dayNumber (p : WallClock) : ℤ := yearStart p.year + monthStart p.year p.month + p.day - 1

def secondOfDay (p : WallClock) : ℤ := 3600 * p.hour + 60 * p.minute + p.second

def ms (p : WallClock) : ℤ := 1000 * (86400 * (p.dayNumber - epochDay) + p.secondOfDay)

structure Valid (p : WallClock) : Prop where
  month : 1 ≤ p.month ∧ p.month ≤ 12
  day : 1 ≤ p.day ∧ p.day ≤ monthStart p.year (p.month + 1) - monthStart p.year p.month
  hour : 0 ≤ p.hour ∧ p.hour < 24
  minute : 0 ≤ p.minute ∧ p.minute < 60
  second : 0 ≤ p.second ∧ p.second < 60

instance (p : WallClock) : Decidable p.Valid :=
  decidable_of_iff ((1 ≤ p.month ∧ p.month ≤ 12) ∧
      (1 ≤ p.day ∧ p.day ≤ monthStart p.year (p.month + 1) - monthStart p.year p.month) ∧
      (0 ≤ p.hour ∧ p.hour < 24) ∧ (0 ≤ p.minute ∧ p.minute < 60) ∧ (0 ≤ p.second ∧ p.second < 60))
    ⟨fun ⟨hmonth, hday, hhour, hminute, hsecond⟩ => ⟨hmonth, hday, hhour, hminute, hsecond⟩,
      fun h => ⟨h.month, h.day, h.hour, h.minute, h.second⟩⟩

def ofMs (w : ℤ) : WallClock :=
  let n := w / 86400000 + epochDay
  let s := w / 1000 % 86400
  let p := n - yearStart (yearOf n)
  { year := yearOf n
    month := monthOf (yearOf n) p
    day := p - monthStart (yearOf n) (monthOf (yearOf n) p) + 1
    hour := s / 3600
    minute := s % 3600 / 60
    second := s % 60 }

variable {p q : WallClock} {w : ℤ}

lemma Valid.dayNumber (h : p.Valid) : yearStart p.year ≤ p.dayNumber ∧ p.dayNumber < yearStart (p.year + 1) := by
  obtain ⟨hstart, hend⟩ := monthStart_bounds (y := p.year) h.month.1 h.month.2
  have hday := h.day
  rw [yearStart_succ]
  unfold WallClock.dayNumber
  omega

lemma Valid.secondOfDay (h : p.Valid) : 0 ≤ p.secondOfDay ∧ p.secondOfDay < 86400 := by
  obtain ⟨_, _, hhour, hminute, hsecond⟩ := h
  unfold WallClock.secondOfDay
  omega

lemma ofMs_valid (w : ℤ) : (ofMs w).Valid := by
  obtain ⟨hstart, hend⟩ := yearOf_spec (w / 86400000 + epochDay)
  rw [yearStart_succ] at hend
  obtain ⟨hmonth, hmonth', hday, hday'⟩ := monthOf_spec
    (y := yearOf (w / 86400000 + epochDay)) (p := w / 86400000 + epochDay - yearStart (yearOf (w / 86400000 + epochDay)))
    (by omega) (by omega)
  refine ⟨⟨hmonth, hmonth'⟩, ?_, ?_, ?_, ?_⟩ <;> simp only [ofMs] <;> omega

lemma ofMs_ms (w : ℤ) : (ofMs w).ms = 1000 * (w / 1000) := by
  simp only [ofMs, ms, dayNumber, secondOfDay]
  omega

lemma ofMs_of_valid (h : p.Valid) {f : ℤ} (hf : 0 ≤ f) (hf' : f < 1000) : ofMs (p.ms + f) = p := by
  obtain ⟨hyear, hyear'⟩ := h.dayNumber
  obtain ⟨hsecond, hsecond'⟩ := h.secondOfDay
  have hn : (p.ms + f) / 86400000 + epochDay = p.dayNumber := by
    unfold ms
    omega
  have hs : (p.ms + f) / 1000 % 86400 = p.secondOfDay := by
    unfold ms
    omega
  obtain ⟨hstart, hend⟩ := yearOf_spec p.dayNumber
  have hy : yearOf p.dayNumber = p.year := year_unique hstart hend hyear hyear'
  have hday : p.dayNumber - yearStart p.year = monthStart p.year p.month + p.day - 1 := by
    unfold WallClock.dayNumber
    omega
  rw [yearStart_succ] at hyear'
  obtain ⟨hmonth, hmonth', hmonthDay, hmonthDay'⟩ := monthOf_spec
    (y := p.year) (p := p.dayNumber - yearStart p.year) (by omega) (by omega)
  have hm : monthOf p.year (p.dayNumber - yearStart p.year) = p.month :=
    month_unique hmonth hmonth' h.month.1 h.month.2 hmonthDay hmonthDay' (by have := h.day; omega)
      (by have := h.day; omega)
  obtain ⟨_, _, hhour, hminute, hsec⟩ := h
  simp only [ofMs, hn, hs, hy, hm]
  unfold WallClock.secondOfDay
  ext <;> simp only <;> omega

lemma ms_dvd (p : WallClock) : 1000 ∣ p.ms := dvd_mul_right _ _

lemma le_ofMs_year {y : ℤ} (h : 86400000 * (yearStart y - epochDay) ≤ w) : y ≤ (ofMs w).year := by
  have hday : yearStart y ≤ w / 86400000 + epochDay := by omega
  exact le_yearOf hday

lemma yearStart_le_ms (hmonth : 1 ≤ p.month ∧ p.month ≤ 12) (hday : 1 ≤ p.day) (h : 0 ≤ p.secondOfDay) :
    86400000 * (yearStart p.year - epochDay) ≤ p.ms := by
  obtain ⟨hstart, _⟩ := monthStart_bounds (y := p.year) hmonth.1 hmonth.2
  unfold ms WallClock.dayNumber
  omega

lemma Valid.ms_lt (h : p.Valid) : p.ms < 86400000 * (yearStart (p.year + 1) - epochDay) := by
  obtain ⟨_, hyear⟩ := h.dayNumber
  obtain ⟨_, hsecond⟩ := h.secondOfDay
  unfold ms
  omega

end WallClock

/-- The offsets of a time zone in seconds: at an instant, and the one by which a wall-clock time is read, which is the
offset before the transition where the clock is set back or forward. -/
structure Zone where
  offset : ℤ → ℤ
  offsetFor : ℤ → ℤ
  bounded : ∀ t, -86400 < offset t ∧ offset t < 86400
  earliest : ∀ t, let w := t + 1000 * offset t
    let first := w - 1000 * offsetFor w
    first + 1000 * offset first = w ∧ first ≤ t

namespace Zone

variable {z : Zone} {t w : ℤ}

def wall (z : Zone) (t : ℤ) : ℤ := t + 1000 * z.offset t

def resolve (z : Zone) (w : ℤ) : ℤ := w - 1000 * z.offsetFor w

def Shows (z : Zone) (w : ℤ) : Prop := ∃ t, z.wall t = w

lemma wall_resolve (h : z.Shows w) : z.wall (z.resolve w) = w := by
  obtain ⟨t, rfl⟩ := h
  exact (z.earliest t).1

lemma resolve_le (h : z.wall t = w) : z.resolve w ≤ t := by
  subst h
  exact (z.earliest t).2

end Zone

end Calendars
