import Truckmaster.QuoteLoad.Inputs

namespace Truckmaster.QuoteLoad

open Common Fallible Tables

structure CancelLoadInput where
  reason : String
  filled : 1 ≤ reason.length := by decide

inductive ChecklistStatus
  | clean | warning
  deriving DecidableEq, Repr

structure ChecklistItem where
  item : String
  status : ChecklistStatus
  detail : String
  remainingCarrierBalance : Option Cents := none
  deriving DecidableEq, Repr

namespace LoadService

def cancellableStatuses : List LoadStatus := [.booked, .carrierSourcing, .carrierAssigned, .rateConfirmation]

def adminVisibilityRoles : List MembershipRoleName := [.admin]

def checklistItem (item : String) (clean : Bool) (whenClean whenNot : String) : ChecklistItem :=
  { item, status := if clean then .clean else .warning, detail := if clean then whenClean else whenNot }

def remainingCarrierBalance (rows : LoadRows) : Option Cents :=
  let totalPaid := ((rows.carrierPayments.filter (fun p => p.status == .paid)).map CarrierPayment.amount).sum
  let accessorials := rows.chargeLineItems.filter (fun c => c.side == .carrier && c.source == .adjustment)
  rows.load.carrierRate.map (fun rate => rate + (accessorials.map ChargeLineItem.amount).sum - totalPaid)

def evaluateClosingChecklist (rows : LoadRows) : List ChecklistItem :=
  let rateConfirmation :=
    rows.documents.any (fun d => d.isCurrentVersion && d.documentTypeCode == "RATE_CONFIRMATION")
  let paid := !rows.carrierPayments.isEmpty
  [checklistItem "Rate Confirmation" rateConfirmation "On file" "Missing",
    checklistItem "POD" (rows.load.podStatus == .complete) "Complete"
      (if rows.load.podStatus = .partlyReceived then "Partial" else "Not Received"),
    checklistItem "Customer Invoice" (!rows.invoiceIds.isEmpty) "Exists" "Missing",
    { checklistItem "Carrier Pay" paid "Payment recorded" "No payment recorded" with
      remainingCarrierBalance :=
        if paid then (remainingCarrierBalance rows).filter (fun balance => decide (0 < balance)) else none }]

def closeLoad (q : Request) (found : Option LoadRows) : Except AppError (LoadRows × List ChecklistItem) := do
  let rows ← LoadRows.found found
  ensure (rows.load.status ≠ .closed) (.invalidTransition "This Load is already Closed.")
  let checklistSnapshot := evaluateClosingChecklist rows
  let load : Load :=
    { rows.load with status := .closed, closedAt := some q.now, closedByUserId := some q.actingUserId }
  pure ({ rows with load }.recordLoad q "Load Closed", checklistSnapshot)

def cancelLoad (r : Reference) (q : Request) (found : Option LoadRows) (dto : CancelLoadInput) :
    Except AppError LoadRows := do
  let rows ← LoadRows.found found
  ensure (rows.load.status ∈ cancellableStatuses) (.invalidTransition
    (if rows.load.status = .cancelled then "This Load has already been Cancelled."
    else "This Load can no longer be cancelled — it has already been dispatched or completed."))
  let load : Load :=
    { rows.load with status := .cancelled, cancelledAt := some q.now, cancelledByUserId := some q.actingUserId }
  let cancelled := { rows with load }.recordLoad q "Load Cancelled" dto.reason
  pure (match load.assignedDispatcherId with
    | none => cancelled
    | some dispatcher => cancelled.notifyOnce (dispatcher :: r.membersInRoles adminVisibilityRoles).eraseDups
        "LOAD_CANCELLED" ("Load cancelled — " ++ load.loadNumber ++ "\n" ++ dto.reason))

variable {r : Reference} {q : Request} {rows rows' : LoadRows}

lemma closeLoad_ok {checklist : List ChecklistItem} (h : closeLoad q (some rows) = .ok (rows', checklist)) :
    rows.load.status ≠ .closed ∧ rows'.load.status = .closed ∧ rows'.stops = rows.stops := by
  simp only [closeLoad, LoadRows.found_some, bind_eq_ok, Except.ok.injEq, exists_eq_left', ensure_eq_ok,
    pure_eq_ok, Prod.mk.injEq] at h
  obtain ⟨_, hstatus, rfl, _⟩ := h
  exact ⟨hstatus, rfl, rfl⟩

lemma closeLoad_accepts (q : Request) (h : rows.load.status ≠ .closed) :
    ∃ closed checklist, closeLoad q (some rows) = .ok (closed, checklist) ∧ closed.load.status = .closed := by
  simp only [closeLoad, LoadRows.found_some, ok_bind, ensure_of h]
  exact ⟨_, _, rfl, rfl⟩

lemma cancelLoad_ok {dto : CancelLoadInput} (h : cancelLoad r q (some rows) dto = .ok rows') :
    rows.load.status ∈ cancellableStatuses ∧ rows'.load.status = .cancelled ∧ rows'.stops = rows.stops := by
  simp only [cancelLoad, LoadRows.found_some, bind_eq_ok, Except.ok.injEq, exists_eq_left', ensure_eq_ok,
    pure_eq_ok] at h
  obtain ⟨_, hstatus, rfl⟩ := h
  refine ⟨hstatus, ?_, ?_⟩
  · split
    · rfl
    · rw [LoadRows.notifyOnce_load]
      rfl
  · split
    · rfl
    · rw [LoadRows.notifyOnce_stops]
      rfl

end LoadService

end Truckmaster.QuoteLoad
