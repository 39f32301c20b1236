import Truckmaster.Common.Timestamps
import Truckmaster.QuoteLoad.Lifecycle

/-! The operational times of a Load as the clients send them: which text becomes which instant on each write path. -/

namespace Truckmaster.QuoteLoad

open Common Fallible Calendars

/-- The lists of texts follow the stops of the request. -/
inductive TimedRequest
  | createDirect (dto : CreateLoadInput) (appointments : List (Option DateString))
  | updateStops (dto : UpdateStopsInput) (appointments : List (Option DateString))
  | rescheduleStop (sequence : ℤ) (appointmentDatetime : DateString)
  | initiateReturn (dto : InitiateReturnInput) (pickup delivery : Option DateString)
  | logCheckCall (dto : LogCheckCallInput) (occurredAt eta : Option DateString)
  | recordArrival (sequence : ℤ) (timestamp : Option DateString)
  | recordDeparture (sequence : ℤ) (timestamp : Option DateString)

inductive TimedCall
  | create (dto : CreateLoadInput)
  | update (op : LoadOp)

def TimedCall.exec (r : Reference) (q : Request) (found : Option LoadRows) : TimedCall → Except AppError LoadRows
  | .create dto => LoadService.createDirect r q dto
  | .update op => Call.execOn ⟨r, q, op⟩ found

namespace TimedRequest

def readText (read : String → Option Instant) : Option DateString → Option (Option Instant)
  | none => some none
  | some input => (read input.text).map some

def createDirectCall (read : String → Option Instant) (dto : CreateLoadInput) (appointments : List (Option DateString)) :
    Option TimedCall := do
  let times ← appointments.mapM (readText read)
  some (.create { dto with
    stops := dto.stops.mapIdx (fun i stop => { stop with appointmentDatetime := times[i]?.join })
    nonempty := by simp [dto.nonempty] })

def updateStopsCall (read : String → Option Instant) (dto : UpdateStopsInput) (appointments : List (Option DateString)) :
    Option TimedCall := do
  let times ← appointments.mapM (readText read)
  some (.update (.updateStops {
    stops := dto.stops.mapIdx (fun i item => { item with appointmentDatetime := times[i]?.join })
    nonempty := by simp [dto.nonempty] }))

def rescheduleStopCall (read : String → Option Instant) (sequence : ℤ) (appointmentDatetime : DateString) :
    Option TimedCall := do
  let appointment ← read appointmentDatetime.text
  some (.update (.rescheduleStop sequence appointment))

def initiateReturnCall (read : String → Option Instant) (dto : InitiateReturnInput) (pickup delivery : Option DateString) :
    Option TimedCall := do
  let pickupTime ← readText read pickup
  let deliveryTime ← readText read delivery
  some (.update (.initiateReturn {
    pickupStop := { dto.pickupStop with appointmentDatetime := pickupTime }
    deliveryStop := { dto.deliveryStop with appointmentDatetime := deliveryTime } }))

def logCheckCallCall (read : String → Option Instant) (dto : LogCheckCallInput) (occurredAt eta : Option DateString) :
    Option TimedCall := do
  let occurred ← readText read occurredAt
  let expected ← readText read eta
  some (.update (.logCheckCall { dto with occurredAt := occurred, eta := expected }))

def recordArrivalCall (read : String → Option Instant) (sequence : ℤ) (timestamp : Option DateString) :
    Option TimedCall := do
  let time ← readText read timestamp
  some (.update (.recordArrival sequence time))

def recordDepartureCall (read : String → Option Instant) (sequence : ℤ) (timestamp : Option DateString) :
    Option TimedCall := do
  let time ← readText read timestamp
  some (.update (.recordDeparture sequence time))

/-- The request with its planned and reported times read by `planned`, its arrivals and departures by `event`. -/
def readWith (planned event : String → Option Instant) : TimedRequest → Option TimedCall
  | createDirect dto appointments => createDirectCall planned dto appointments
  | updateStops dto appointments => updateStopsCall planned dto appointments
  | rescheduleStop sequence appointment => rescheduleStopCall planned sequence appointment
  | initiateReturn dto pickup delivery => initiateReturnCall planned dto pickup delivery
  | logCheckCall dto occurredAt eta => logCheckCallCall planned dto occurredAt eta
  | recordArrival sequence timestamp => recordArrivalCall event sequence timestamp
  | recordDeparture sequence timestamp => recordDepartureCall event sequence timestamp

def received (engine : Engine) (server timeZone : Zone) : TimedRequest → Option TimedCall :=
  readWith (parseBusinessDateTime engine timeZone) (newDate engine server)

/-- With every text read by `parseBusinessDateTime`. -/
def intended (engine : Engine) (timeZone : Zone) : TimedRequest → Option TimedCall :=
  readWith (parseBusinessDateTime engine timeZone) (parseBusinessDateTime engine timeZone)

def serve (engine : Engine) (server timeZone : Zone) (r : Reference) (q : Request) (found : Option LoadRows)
    (request : TimedRequest) : Except AppError LoadRows := do
  let call ← require (request.received engine server timeZone) (.database "Invalid time value")
  call.exec r q found

def events : TimedRequest → Option DateString
  | recordArrival _ timestamp | recordDeparture _ timestamp => timestamp
  | _ => none

variable {read read' : String → Option Instant}

lemma recordArrivalCall_congr {sequence : ℤ} {timestamp : Option DateString} :
    recordArrivalCall read sequence timestamp = recordArrivalCall read' sequence timestamp ↔
      ∀ input ∈ timestamp, read input.text = read' input.text := by
  cases timestamp with
  | none => simp [recordArrivalCall, readText]
  | some input =>
    simp only [recordArrivalCall, readText, Option.mem_some_iff, forall_eq']
    cases read input.text <;> cases read' input.text <;> simp

lemma recordDepartureCall_congr {sequence : ℤ} {timestamp : Option DateString} :
    recordDepartureCall read sequence timestamp = recordDepartureCall read' sequence timestamp ↔
      ∀ input ∈ timestamp, read input.text = read' input.text := by
  cases timestamp with
  | none => simp [recordDepartureCall, readText]
  | some input =>
    simp only [recordDepartureCall, readText, Option.mem_some_iff, forall_eq']
    cases read input.text <;> cases read' input.text <;> simp

end TimedRequest

theorem timestamps_agree (engine : Engine) (server timeZone : Zone) (hprobed : Probed timeZone) (request : TimedRequest) :
    request.received engine server timeZone = request.intended engine timeZone ↔
      ∀ input ∈ request.events, ReadsAlike engine server timeZone input.text := by
  have hread (input : DateString) := @newDate_eq_parse engine server timeZone hprobed input
  cases request with
  | recordArrival sequence timestamp =>
    refine TimedRequest.recordArrivalCall_congr.trans ?_
    simp only [TimedRequest.events, hread]
  | recordDeparture sequence timestamp =>
    refine TimedRequest.recordDepartureCall_congr.trans ?_
    simp only [TimedRequest.events, hread]
  | _ => simp [TimedRequest.received, TimedRequest.intended, TimedRequest.readWith, TimedRequest.events]

namespace Sample

def utc : Zone where
  offset _ := 0
  offsetFor _ := 0
  bounded _ := by decide
  earliest t := by simp

def springForward : ℤ := WallClock.ms { year := 2026, month := 3, day := 8, hour := 7 }
def fallBack : ℤ := WallClock.ms { year := 2026, month := 11, day := 1, hour := 6 }

def newYork : Zone where
  offset t := if springForward ≤ t ∧ t < fallBack then -14400 else -18000
  offsetFor w := if springForward ≤ w + 14400000 ∧ w + 14400000 < fallBack then -14400 else -18000
  bounded t := by split <;> decide
  earliest t := by
    dsimp only
    have hlong : springForward + 3600000 < fallBack := by decide
    split_ifs <;> omega

lemma newYork_offset (t : ℤ) : springForward ≤ t ∧ t < fallBack ∧ newYork.offset t = -14400 ∨
    (t < springForward ∨ fallBack ≤ t) ∧ newYork.offset t = -18000 := by
  simp only [newYork]
  split <;> omega

lemma newYork_probed : Probed newYork := by
  intro (t : ℤ) hyear
  obtain ⟨hstart, hend⟩ := probes_of_recent hyear
  have hspring : springForward = 1772953200000 := by decide
  have hfall : fallBack = 1793512800000 := by decide
  have hcentury : 86400000 * (yearStart 1900 - epochDay) = -2208988800000 := by decide
  have hrecent : 86400000 * (yearStart 100 - epochDay) ≤ newYork.wall t := le_wall_of_year hyear
  have hwall : newYork.wall t = t + 1000 * newYork.offset t := rfl
  have hnow := newYork_offset t
  have hevening := newYork_offset (dayEndProbe (wallClockPartsInZone t newYork))
  have hend' : offsetAt (dayEndProbe (wallClockPartsInZone t newYork)) newYork =
      1000 * newYork.offset (dayEndProbe (wallClockPartsInZone t newYork)) := by
    refine offsetAt_of_recent (toUtcMs_dvd _) (WallClock.le_ofMs_year ?_)
    unfold Zone.wall
    omega
  by_cases hsame : newYork.offset t = newYork.offset (dayEndProbe (wallClockPartsInZone t newYork))
  · right
    rw [hend', hsame]
  · left
    have hmidnight := newYork_offset (dayStartProbe (wallClockPartsInZone t newYork))
    have hstart' : offsetAt (dayStartProbe (wallClockPartsInZone t newYork)) newYork =
        1000 * newYork.offset (dayStartProbe (wallClockPartsInZone t newYork)) := by
      refine offsetAt_of_recent (toUtcMs_dvd _) (WallClock.le_ofMs_year ?_)
      have hold : yearStart 100 ≤ yearStart 1900 := by decide
      unfold Zone.wall
      omega
    rw [hstart']
    omega

def engine : Engine where
  explicit input := match input.toList.reverse with
    | 'Z' :: rest => do
      let (parts, fraction) ← naiveComponents rest.reverse
      if parts.Valid then some (parts.ms + milliseconds fraction) else none
    | _ => none
  other _ _ := none

def marked : DateString := { text := "2026-09-01T18:30Z" }
def afternoon : DateString := { text := "2026-09-01T14:30" }
def dayAlone : DateString := { text := "2026-09-01" }
def skipped : DateString := { text := "2026-03-08T02:30" }

def arrival (input : DateString) : TimedRequest := .recordArrival 1 (some input)

def arrivals (server : Zone) (input : DateString) : Option (List (Option Instant)) :=
  ((arrival input).serve engine server newYork reference (request 6) (some dispatched)).toOption.map
    (fun rows => rows.stops.rows.map Stop.actualArrival)

end Sample

open Sample in
theorem timestamps_agree_sample :
    (arrival marked).received engine utc newYork = (arrival marked).intended engine newYork ∧
      (arrival afternoon).received engine newYork newYork = (arrival afternoon).intended engine newYork := by
  have hmarked : hasExplicitOffset marked.text = true := by decide +kernel
  have hparts : naiveComponents (trim afternoon.text).toList =
      some ({ year := 2026, month := 9, day := 1, hour := 14, minute := 30 }, []) := by decide +kernel
  have hreadable : Readable newYork { year := 2026, month := 9, day := 1, hour := 14, minute := 30 } :=
    ⟨by decide, by decide, 1788287400000, by decide⟩
  constructor
  · refine (timestamps_agree engine utc newYork newYork_probed (arrival marked)).mpr ?_
    rintro input ⟨⟩
    exact .inl hmarked
  · refine (timestamps_agree engine newYork newYork newYork_probed (arrival afternoon)).mpr ?_
    rintro input ⟨⟩
    exact .inr (.inl ⟨_, _, hparts, hreadable, by decide, rfl⟩)

open Sample in
theorem arrival_read_by_server :
    arrivals utc afternoon = some [some 1788273000000, none] ∧
      parseBusinessDateTime engine newYork afternoon.text = some 1788287400000 ∧
      arrivals newYork dayAlone = some [some 1788220800000, none] ∧
      parseBusinessDateTime engine newYork dayAlone.text = none ∧
      arrivals newYork Sample.skipped = some [some 1772955000000, none] ∧
      parseBusinessDateTime engine newYork Sample.skipped.text = none := by decide +kernel

end Truckmaster.QuoteLoad
