import Truckmaster.QuoteLoad.Lifecycle

/-! What the calls on a Load leave alone: the terms it was booked and assigned on, and its charges. -/

namespace Truckmaster.QuoteLoad

open Common Fallible DispatchTrackingService

def Load.terms (load : Load) : Load :=
  { load with
    status := .booked
    currentLocationCity := none
    currentLocationState := none
    currentLocationZip := none
    currentLocationUpdatedAt := none
    currentEta := none
    closedAt := none
    closedByUserId := none
    cancelledAt := none
    cancelledByUserId := none }

namespace LoadRows

def terms (rows : LoadRows) : Load × List ChargeLineItem := (rows.load.terms, rows.chargeLineItems)

variable {rows rows' : LoadRows}

lemma terms_load (h : rows'.terms = rows.terms) {α : Type} (f : Load → α) (hf : ∀ l : Load, f l.terms = f l) :
    f rows'.load = f rows.load := by
  rw [← hf rows'.load, ← hf rows.load]
  exact congrArg (fun a => f a.1) h

lemma terms_charges (h : rows'.terms = rows.terms) : rows'.chargeLineItems = rows.chargeLineItems :=
  congrArg Prod.snd h

@[simp] lemma recordLoad_terms (q : Request) (a : String) (r : Option String) :
    (rows.recordLoad q a r).terms = rows.terms := rfl
@[simp] lemma notifyOnce_terms (us : List Uuid) (type message : String) :
    (rows.notifyOnce us type message).terms = rows.terms := by
  unfold notifyOnce
  split <;> rfl

/-- A function of the rows that looks at neither the status, the stops nor the audit log. -/
structure Untracked {α : Type} (f : LoadRows → α) : Prop where
  withStatus : ∀ rows status, f (rows.withStatus status) = f rows
  stops : ∀ rows stops, f { rows with stops } = f rows
  record : ∀ rows event, f (rows.record event) = f rows

lemma terms_untracked : Untracked terms := ⟨fun _ _ => rfl, fun _ _ => rfl, fun _ _ => rfl⟩

section Untracked

variable {α : Type} {f : LoadRows → α}

lemma Untracked.reEvaluateLoadStatus (hf : Untracked f) (o : Tables.RowOrder) (load : Load) :
    f (DispatchTrackingService.reEvaluateLoadStatus o load rows) = f rows := by
  unfold DispatchTrackingService.reEvaluateLoadStatus
  dsimp only
  split
  · rfl
  · split
    · rw [hf.record, hf.withStatus]
    · rw [hf.withStatus]

lemma Untracked.createStop (hf : Untracked f) {stop : Stop} (h : rows.createStop stop = .ok rows') :
    f rows' = f rows := by
  simp only [LoadRows.createStop, bind_eq_ok, ensure_eq_ok, require_eq_ok, pure_eq_ok] at h
  obtain ⟨_, _, stops, _, rfl⟩ := h
  exact hf.stops _ _

lemma Untracked.createStops (hf : Untracked f) {stops : List Stop} (h : rows.createStops stops = .ok rows') :
    f rows' = f rows := by
  induction stops generalizing rows with
  | nil =>
    obtain rfl := pure_eq_ok.mp h
    rfl
  | cons stop stops ih =>
    obtain ⟨mid, hmid, hrest⟩ := bind_eq_ok.mp h
    exact (ih hrest).trans (hf.createStop hmid)

lemma Untracked.editStop (hf : Untracked f) {q : Request} {k : ℕ} {item : UpdateStopItem}
    (h : DispatchTrackingService.editStop q k item rows = .ok rows') : f rows' = f rows := by
  simp only [DispatchTrackingService.editStop, bind_eq_ok, require_eq_ok, pure_eq_ok] at h
  obtain ⟨stop, _, rfl⟩ := h
  split
  · exact hf.stops _ _
  · exact (hf.record _ _).trans (hf.stops _ _)

lemma Untracked.editStops (hf : Untracked f) {q : Request} {k : ℕ} {items : List UpdateStopItem}
    (h : DispatchTrackingService.editStops q k items rows = .ok rows') : f rows' = f rows := by
  induction items generalizing k rows with
  | nil =>
    obtain rfl := pure_eq_ok.mp h
    rfl
  | cons item items ih =>
    obtain ⟨edited, hedited, hrest⟩ := bind_eq_ok.mp h
    exact (ih hrest).trans (hf.editStop hedited)

end Untracked

end LoadRows

def LoadOp.Tracks : LoadOp → Prop
  | .recordArrival _ _ | .recordDeparture _ _ | .rescheduleStop _ _ | .updateStops _ | .initiateReturn _ => True
  | _ => False

lemma exec_untracked {α : Type} {f : LoadRows → α} (hf : LoadRows.Untracked f) {c : Call} {rows rows' : LoadRows}
    (h : c.exec rows = .ok rows') (hop : c.op.Tracks) : f rows' = f rows := by
  obtain ⟨r, q, op⟩ := c
  cases op with
  | recordArrival sequence timestamp =>
    simp only [Call.exec, Call.execOn, recordArrival, LoadRows.found_some, ok_bind, bind_eq_ok, pure_eq_ok] at h
    obtain ⟨_, _, _, _, _, _, rfl⟩ := h
    exact (hf.reEvaluateLoadStatus _ _).trans ((hf.record _ _).trans (hf.stops _ _))
  | recordDeparture sequence timestamp =>
    simp only [Call.exec, Call.execOn, recordDeparture, LoadRows.found_some, ok_bind, bind_eq_ok, pure_eq_ok] at h
    obtain ⟨_, _, _, _, _, _, rfl⟩ := h
    exact (hf.reEvaluateLoadStatus _ _).trans ((hf.record _ _).trans (hf.stops _ _))
  | rescheduleStop sequence appointment =>
    simp only [Call.exec, Call.execOn, rescheduleStop, LoadRows.found_some, ok_bind, bind_eq_ok, pure_eq_ok] at h
    obtain ⟨_, _, _, _, _, _, rfl⟩ := h
    exact (hf.record _ _).trans (hf.stops _ _)
  | updateStops dto =>
    simp only [Call.exec, Call.execOn, updateStops, LoadRows.found_some, ok_bind, bind_eq_ok, pure_eq_ok] at h
    obtain ⟨edited, hedited, rfl⟩ := h
    exact (hf.reEvaluateLoadStatus _ _).trans (hf.editStops hedited)
  | initiateReturn dto =>
    simp only [Call.exec, Call.execOn, initiateReturn, LoadRows.found_some, ok_bind, bind_eq_ok, pure_eq_ok] at h
    obtain ⟨_, _, _, _, withPickup, hpickup, withPair, hpair, rfl⟩ := h
    exact (hf.reEvaluateLoadStatus _ _).trans ((hf.record _ _).trans ((hf.createStop hpair).trans (hf.createStop hpickup)))
  | _ => exact hop.elim

def LoadOp.Reassigns : LoadOp → Prop
  | .assignCarrier _ => True
  | .carrierRejected _ => True
  | _ => False

lemma exec_terms {c : Call} {rows rows' : LoadRows} (h : c.exec rows = .ok rows') (hop : ¬ c.op.Reassigns) :
    rows'.terms = rows.terms := by
  obtain ⟨r, q, op⟩ := c
  cases op with
  | beginSourcing =>
    simp only [Call.exec, Call.execOn, CarrierSourcingService.beginSourcing, LoadRows.found_some, ok_bind, bind_eq_ok,
      pure_eq_ok] at h
    obtain ⟨_, _, rfl⟩ := h
    rfl
  | assignCarrier dto => exact absurd trivial hop
  | carrierRejected dto => exact absurd trivial hop
  | generateRateConfirmation dto =>
    simp only [Call.exec, Call.execOn, CarrierSourcingService.generateRateConfirmation, LoadRows.found_some, ok_bind,
      bind_eq_ok, pure_eq_ok] at h
    obtain ⟨_, _, _, _, _, _, _, _, rfl⟩ := h
    split <;> rfl
  | dispatch dto =>
    simp only [Call.exec, Call.execOn, DispatchTrackingService.dispatch, LoadRows.found_some, ok_bind, bind_eq_ok,
      pure_eq_ok] at h
    obtain ⟨_, _, _, _, _, _, _, _, _, _, _, _, _, _, rfl⟩ := h
    rfl
  | recordArrival sequence timestamp => exact exec_untracked LoadRows.terms_untracked h trivial
  | recordDeparture sequence timestamp => exact exec_untracked LoadRows.terms_untracked h trivial
  | rescheduleStop sequence appointment => exact exec_untracked LoadRows.terms_untracked h trivial
  | updateStops dto => exact exec_untracked LoadRows.terms_untracked h trivial
  | initiateReturn dto => exact exec_untracked LoadRows.terms_untracked h trivial
  | logCheckCall dto =>
    simp only [Call.exec, Call.execOn, logCheckCall, LoadRows.found_some, ok_bind, bind_eq_ok, pure_eq_ok] at h
    obtain ⟨_, _, rfl⟩ := h
    rfl
  | closeLoad =>
    obtain ⟨⟨closed, checklist⟩, hclose, rfl⟩ := map_eq_ok.mp h
    simp only [LoadService.closeLoad, LoadRows.found_some, ok_bind, bind_eq_ok, pure_eq_ok, Prod.mk.injEq] at hclose
    obtain ⟨_, _, rfl, _⟩ := hclose
    rfl
  | cancelLoad dto =>
    simp only [Call.exec, Call.execOn, LoadService.cancelLoad, LoadRows.found_some, ok_bind, bind_eq_ok, pure_eq_ok] at h
    obtain ⟨_, _, rfl⟩ := h
    split
    · rfl
    · rw [LoadRows.notifyOnce_terms]
      rfl

end Truckmaster.QuoteLoad
