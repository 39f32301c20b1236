import Truckmaster.Common.Timestamps
import Mathlib.Order.Bounds.Defs

/-! The time zone of the business: the clocks are set forward at 07:00 UTC and back at 06:00 UTC, and
`parseBusinessWallClock` reads each time that they show at the first instant they do. -/

namespace Truckmaster.Common

open Calendars

def dayMs : ℤ := 86400000
def hourMs : ℤ := 3600000

/-- The offset in minutes at each instant. -/
structure EasternClock where
  offset : ℤ → ℤ
  values : ∀ t, offset t = -300 ∨ offset t = -240
  forward : ∀ t, offset (t - 1) = -300 → offset t = -240 → t % dayMs = 7 * hourMs
  back : ∀ t, offset (t - 1) = -240 → offset t = -300 → t % dayMs = 6 * hourMs
  once : ∀ t u, offset (t - 1) ≠ offset t → offset (u - 1) ≠ offset u → t / dayMs = u / dayMs → t = u

namespace EasternClock

variable {clock : EasternClock} {a b t d : ℤ}

lemma switch_hour (h : clock.offset (t - 1) ≠ clock.offset t) : t % dayMs = 6 * hourMs ∨ t % dayMs = 7 * hourMs := by
  rcases clock.values (t - 1) with hbefore | hbefore <;> rcases clock.values t with hafter | hafter
  · exact absurd (hbefore.trans hafter.symm) h
  · exact Or.inr (clock.forward t hbefore hafter)
  · exact Or.inl (clock.back t hbefore hafter)
  · exact absurd (hbefore.trans hafter.symm) h

lemma offset_eq (hab : a ≤ b) (h : ∀ t, a < t → t ≤ b → clock.offset (t - 1) = clock.offset t) :
    clock.offset a = clock.offset b := by
  induction b, hab using Int.leInduction with
  | base => rfl
  | succ n hn ih =>
    have hlast := h (n + 1) (by omega) le_rfl
    rw [add_sub_cancel_right] at hlast
    exact (ih (fun t ht ht' => h t ht (by omega))).trans hlast

lemma steady (hab : a ≤ b) (h : ∀ t, a < t → t ≤ b → t % dayMs ≠ 6 * hourMs ∧ t % dayMs ≠ 7 * hourMs) :
    clock.offset a = clock.offset b := by
  refine offset_eq hab (fun t ht ht' => ?_)
  by_contra hswitch
  obtain ⟨hsix, hseven⟩ := h t ht ht'
  exact (switch_hour hswitch).elim hsix hseven

lemma offset_second (t : ℤ) : clock.offset (1000 * (t / 1000)) = clock.offset t := by
  refine steady (by omega) (fun u hu hu' => ?_)
  unfold dayMs hourMs
  omega

lemma offset_probed (hd : dayMs ∣ d) (hstart : d + 4 * hourMs ≤ t) (hend : t < d + dayMs + 5 * hourMs) :
    clock.offset t = clock.offset d ∨ clock.offset t = clock.offset (d + 86399000) := by
  obtain ⟨n, rfl⟩ := hd
  unfold dayMs hourMs at hstart hend
  have hmorning (u : ℤ) (hu : 86400000 * n ≤ u) (hu' : u < 86400000 * n + 21600000) :
      clock.offset (dayMs * n) = clock.offset u := by
    refine steady hu (fun v hv hv' => ?_)
    unfold dayMs at hv ⊢
    unfold hourMs
    omega
  have hevening (u : ℤ) (hu : 86400000 * n + 25200000 ≤ u) (hu' : u < 86400000 * n + 108000000) :
      clock.offset (dayMs * n + 25200000) = clock.offset u := by
    refine steady hu (fun v hv hv' => ?_)
    unfold dayMs at hv ⊢
    unfold hourMs
    omega
  have hlast : clock.offset (dayMs * n + 25200000) = clock.offset (dayMs * n + 86399000) :=
    hevening _ (by unfold dayMs; omega) (by unfold dayMs; omega)
  by_cases hbefore : t < 86400000 * n + 21600000
  · left
    exact (hmorning t (by omega) hbefore).symm
  by_cases hafter : 86400000 * n + 25200000 ≤ t
  · right
    exact (hevening t hafter (by omega)).symm.trans hlast
  have hhour : clock.offset (dayMs * n + 21600000) = clock.offset t := by
    refine steady (by unfold dayMs; omega) (fun v hv hv' => ?_)
    unfold dayMs at hv ⊢
    unfold hourMs
    omega
  have hhour' : clock.offset (dayMs * n + 21600000) = clock.offset (dayMs * n + 25200000 - 1) := by
    refine steady (by omega) (fun v hv hv' => ?_)
    unfold dayMs at hv hv' ⊢
    unfold hourMs
    omega
  -- at most one of the two hours is a switch
  by_cases hsix : clock.offset (dayMs * n + 21600000 - 1) = clock.offset (dayMs * n + 21600000)
  · left
    rw [← hhour, ← hsix]
    exact (hmorning _ (by unfold dayMs; omega) (by unfold dayMs; omega)).symm
  · right
    have hseven : clock.offset (dayMs * n + 25200000 - 1) = clock.offset (dayMs * n + 25200000) := by
      by_contra hswitch
      have hsame := clock.once _ _ hsix hswitch (by unfold dayMs; omega)
      omega
    exact (hhour.symm.trans hhour').trans (hseven.trans hlast)

/-- The zone of the clock: a wall-clock time is read with the greater offset if that is the one at the instant. -/
def zone (clock : EasternClock) : Zone where
  offset t := 60 * clock.offset t
  offsetFor w := if clock.offset (w + 14400000) = -240 then -14400 else -18000
  bounded t := by
    rcases clock.values t with h | h <;> omega
  earliest t := by
    dsimp only
    rcases clock.values t with h | h
    · split_ifs with hday
      · have hfirst : t + 1000 * (60 * clock.offset t) - 1000 * -14400 = t + 1000 * (60 * clock.offset t) + 14400000 := by
          omega
        rw [hfirst, hday]
        omega
      · have hfirst : t + 1000 * (60 * clock.offset t) - 1000 * -18000 = t := by omega
        rw [hfirst]
        exact ⟨rfl, le_rfl⟩
    · have hsame : t + 1000 * (60 * clock.offset t) + 14400000 = t := by omega
      rw [hsame, if_pos h]
      have hfirst : t + 1000 * (60 * clock.offset t) - 1000 * -14400 = t := by omega
      rw [hfirst]
      exact ⟨rfl, le_rfl⟩

variable {target : WallClock} {input : String}

lemma parts_second (h : wallClockPartsInZone t clock.zone = target) :
    wallClockPartsInZone (1000 * (t / 1000)) clock.zone = target := by
  have hwall : clock.zone.wall (1000 * (t / 1000)) = 1000 * (clock.zone.wall t / 1000) := by
    simp only [Zone.wall, zone, offset_second]
    omega
  have hms : target.ms = 1000 * (clock.zone.wall t / 1000) := by
    rw [← h]
    exact WallClock.ofMs_ms _
  exact parts_of_wall (h ▸ parts_valid t clock.zone) (hwall.trans hms.symm)

lemma roundTrips_of_parts (hyear : 1970 ≤ target.year) (ht : 1000 ∣ t)
    (h : wallClockPartsInZone t clock.zone = target) : RoundTrips clock.zone target t := by
  refine ⟨?_, h⟩
  have hvalid : target.Valid := h ▸ parts_valid t clock.zone
  have hwall := wall_of_parts ht h
  have hepoch : 86400000 * (yearStart 1970 - epochDay) = 0 := by decide
  have hmono : yearStart 1970 ≤ yearStart target.year := yearStart_mono hyear
  have hms := WallClock.yearStart_le_ms hvalid.month hvalid.day.1 hvalid.secondOfDay.1
  have hcentury : 86400000 * (yearStart 100 - epochDay) ≤ -86400000 := by decide
  obtain ⟨hstart, hend⟩ := @probes_of_recent clock.zone t (by rw [h]; omega)
  rw [h, hwall] at hstart hend
  have hprobe (x : ℤ) (hx : 1000 ∣ x) (hlate : 0 ≤ x) : offsetAt x clock.zone = 60000 * clock.offset x := by
    have hrecent : 100 ≤ (wallClockPartsInZone x clock.zone).year := by
      refine WallClock.le_ofMs_year ?_
      have hbounds := clock.zone.bounded x
      unfold Zone.wall
      omega
    rw [offsetAt_of_recent hx hrecent]
    simp only [zone]
    omega
  have hoffsets := clock.values t
  have hlocal : clock.zone.wall t = t + 60000 * clock.offset t := by
    simp only [Zone.wall, zone]
    omega
  have hprobed := @offset_probed clock t (86400000 * (target.ms / 86400000)) (dvd_mul_right _ _)
    (by unfold hourMs; omega) (by unfold dayMs hourMs; omega)
  rw [toUtcMs_of_recent hvalid.month (by omega), hstart, hend, hprobe _ (by omega) (by omega),
    hprobe _ (by omega) (by omega)]
  omega

namespace Sample

def year2026 : EasternClock where
  offset t := if 1772953200000 ≤ t ∧ t < 1793512800000 then -240 else -300
  values t := by split <;> simp
  forward t hbefore hafter := by
    unfold dayMs hourMs
    split at hbefore <;> split at hafter <;> omega
  back t hbefore hafter := by
    unfold dayMs hourMs
    split at hbefore <;> split at hafter <;> omega
  once t u ht hu hday := by
    unfold dayMs at hday
    split_ifs at ht hu <;> omega

end Sample

end EasternClock

end Truckmaster.Common
