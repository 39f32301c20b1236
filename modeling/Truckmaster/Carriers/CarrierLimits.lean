import Truckmaster.Carriers.CarrierEffects
import Truckmaster.Library.Quotas

namespace Truckmaster.Carriers

open Common Fallible Quotas ReadCommitted Runs Tables Transactions

inductive CarrierOp
  | create (dto : CreateCarrierInput)
  | activate (carrierId : Uuid)
  | reactivateCarrier (carrierId : Uuid) (dto : CarrierLifecycleReasonInput)
  | blockCarrier (carrierId : Uuid) (dto : CarrierLifecycleReasonInput)
  | deactivateCarrier (carrierId : Uuid) (dto : CarrierLifecycleReasonInput)
  | addDriver (carrierId : Uuid) (dto : AddDriverInput)
  | reactivateDriver (carrierId driverId : Uuid) (dto : CarrierLifecycleReasonInput)
  | deactivateDriver (carrierId driverId : Uuid) (dto : CarrierLifecycleReasonInput)

structure CarrierRequest where
  q : Request
  op : CarrierOp

def CarrierRequest.program (r : CarrierRequest) : CarrierTx Unit :=
  match r.op with
  | .create dto => CarrierService.create r.q dto
  | .activate carrierId => CarrierService.activate r.q carrierId
  | .reactivateCarrier carrierId dto => CarrierService.reactivateCarrier r.q carrierId dto
  | .blockCarrier carrierId dto => CarrierService.blockCarrier r.q carrierId dto
  | .deactivateCarrier carrierId dto => CarrierService.deactivateCarrier r.q carrierId dto
  | .addDriver carrierId dto => CarrierService.addDriver r.q carrierId dto
  | .reactivateDriver carrierId driverId dto => CarrierService.reactivateDriver r.q carrierId driverId dto
  | .deactivateDriver carrierId driverId dto => CarrierService.deactivateDriver r.q carrierId driverId dto

def carrierCode : Code CarrierDb CarrierRow (Frame CarrierDb CarrierRow CarrierWrite AppError Unit) CarrierWrite :=
  code CarrierDb.write (.database "Transaction aborted.")

namespace CarrierWrite

def AddsCarrier : CarrierWrite → Prop
  | .insertCarrier _ => True
  | .setStatus _ status => status = .pending ∨ status = .active
  | _ => False

def AddsDriver : CarrierWrite → Prop
  | .insertDriver _ => True
  | .setDriverActive _ active => active = true
  | _ => False

end CarrierWrite

lemma write_organization (w : CarrierWrite) (d : CarrierDb) : (d.write w).organization = d.organization := by
  cases w <;> rfl

lemma counted_carriers (max : ℕ) : Counted CarrierDb.write (fun d => d.organization.maxCarriers = some max)
    CarrierDb.carrierCount CarrierWrite.AddsCarrier := by
  constructor
  · intro w d hd
    rwa [write_organization]
  · intro w d hw
    cases w with
    | insertCarrier carrier => exact absurd trivial hw
    | setStatus id status =>
      refine d.carriers.countP_update_le id (.withStatus status) (fun _ => rfl) CarrierDb.countsTowardLimit
        (fun c hc => absurd ?_ hw)
      change status = .pending ∨ status = .active
      simpa [CarrierDb.countsTowardLimit, Carrier.withStatus] using hc
    | setEligibility id eligible reasons =>
      exact d.carriers.countP_update_le id (.withEligibility eligible reasons) (fun _ => rfl)
        CarrierDb.countsTowardLimit (fun c hc => hc)
    | _ => exact le_rfl
  · intro w d
    cases w with
    | insertCarrier carrier => exact d.carriers.countP_insert_le carrier CarrierDb.countsTowardLimit
    | setStatus id status =>
      exact d.carriers.countP_update_le_succ id (.withStatus status) (fun _ => rfl) CarrierDb.countsTowardLimit
    | setEligibility id eligible reasons =>
      exact d.carriers.countP_update_le_succ id (.withEligibility eligible reasons) (fun _ => rfl)
        CarrierDb.countsTowardLimit
    | _ => exact Nat.le_succ _

lemma counted_drivers (max : ℕ) : Counted CarrierDb.write (fun d => d.organization.maxDrivers = some max)
    CarrierDb.driverCount CarrierWrite.AddsDriver := by
  constructor
  · intro w d hd
    rwa [write_organization]
  · intro w d hw
    cases w with
    | insertDriver driver => exact absurd trivial hw
    | setDriverActive id active =>
      exact d.drivers.countP_update_le id (.withActive active) (fun _ => rfl) (fun v => v.active)
        (fun v hactive => absurd hactive hw)
    | setLicense id licenseNumber =>
      exact d.drivers.countP_update_le id (.withLicense licenseNumber) (fun _ => rfl) (fun v => v.active)
        (fun _ hactive => hactive)
    | _ => exact le_rfl
  · intro w d
    cases w with
    | insertDriver driver => exact d.drivers.countP_insert_le driver (fun v => v.active)
    | setDriverActive id active =>
      exact d.drivers.countP_update_le_succ id (.withActive active) (fun _ => rfl) (fun v => v.active)
    | setLicense id licenseNumber =>
      exact d.drivers.countP_update_le_succ id (.withLicense licenseNumber) (fun _ => rfl) (fun v => v.active)
    | _ => exact Nat.le_succ _

section Limits

variable {limit : OrganizationSubscription → Option ℕ} {count : CarrierDb → ℕ} {raises : CarrierWrite → Prop} {max : ℕ}
  {resource : String} {q : Request} {carrierId : Uuid}

abbrev UnderLimit {α : Type} (limit : OrganizationSubscription → Option ℕ) (count : CarrierDb → ℕ)
    (raises : CarrierWrite → Prop) (max : ℕ) (p : CarrierTx α) : Phase → (α → Phase → Prop) → Prop :=
  p.Follows (fun d => limit d.organization = some max) (Move .organization count max raises)

lemma follows_assertCountWithinLimit {quick : OrganizationSubscription} (hquick : limit quick = some max) :
    UnderLimit limit count raises max (EntitlementService.assertCountWithinLimit limit count resource quick) .fresh
      (fun _ g => g = .checked) := by
  unfold EntitlementService.assertCountWithinLimit
  rw [hquick]
  refine Txn.Follows.bind (fun d hd => ⟨.held, .lock d, ?_⟩)
  simp only [Txn.Follows]
  rw [hd]
  refine Txn.Follows.bind (fun d _ => ?_)
  by_cases hbelow : count d < max
  · refine ⟨.checked, .check none hbelow, ?_⟩
    change UnderLimit limit count raises max (Txn.ensure (count d < max) _) _ _
    rw [Txn.ensure, ensure_of hbelow]
    rfl
  · refine ⟨.held, .held none d, ?_⟩
    change UnderLimit limit count raises max (Txn.ensure (count d < max) _) _ _
    rw [Txn.ensure, Fallible.ensure, if_neg hbelow]
    trivial

lemma follows_read {α : Type} {f : OrganizationSubscription → CarrierTx α} {Q : α → Phase → Prop}
    (hf : ∀ quick, limit quick = some max → UnderLimit limit count raises max (f quick) .fresh Q) :
    UnderLimit limit count raises max (EntitlementService.readOrganizationSubscription >>= f) .fresh Q :=
  Txn.Follows.bind (fun d hd => ⟨.fresh, .fresh none d, hf d.organization hd⟩)

lemma follows_slot {α : Type} {f : Unit → CarrierTx α} {Q : α → Phase → Prop}
    (hf : UnderLimit limit count raises max (f ()) .checked Q) :
    UnderLimit limit count raises max ((do
      EntitlementService.assertCountWithinLimit limit count resource
        (← EntitlementService.readOrganizationSubscription)) >>= f) .fresh Q := by
  refine Txn.Follows.bind (follows_read (fun quick hquick => ?_))
  refine (follows_assertCountWithinLimit hquick).mono (fun _ g hg => ?_)
  rw [hg]
  exact hf

lemma follows_notExpired_slot {α : Type} {f : Unit → CarrierTx α} {Q : α → Phase → Prop} {now : Instant}
    {action : String}
    (hf : UnderLimit limit count raises max (f ()) .checked Q) :
    UnderLimit limit count raises max ((do
      let quick ← EntitlementService.readOrganizationSubscription
      EntitlementService.assertNotExpired quick now action
      EntitlementService.assertCountWithinLimit limit count resource quick) >>= f) .fresh Q := by
  refine Txn.Follows.bind (follows_read (fun quick hquick => ?_))
  refine follows_silent_bind (.lift _) (Or.inl rfl) (fun _ => ?_)
  refine (follows_assertCountWithinLimit hquick).mono (fun _ g hg => ?_)
  rw [hg]
  exact hf

lemma follows_refuseDuplicate {α : Type} {f : Unit → CarrierTx α} {Q : α → Phase → Prop} {duplicate : Option Carrier}
    (hraises : ∀ event, ¬ raises (.record event)) (hf : UnderLimit limit count raises max (f ()) .fresh Q) :
    UnderLimit limit count raises max (CarrierService.refuseDuplicate q duplicate >>= f) .fresh Q := by
  refine Txn.Follows.bind ?_
  cases duplicate with
  | none => exact hf
  | some duplicate =>
    refine Txn.Follows.bind (fun d _ => ⟨.quiet, .leave none d (fun w hw => ?_), trivial⟩)
    rw [List.mem_singleton.mp hw]
    exact hraises _

end Limits

lemma routine_carriers (carrierId : Uuid) : Routine (fun w => ¬ w.AddsCarrier) carrierId := ⟨fun _ _ => id, fun _ => id⟩

lemma routine_drivers (carrierId : Uuid) : Routine (fun w => ¬ w.AddsDriver) carrierId := ⟨fun _ _ => id, fun _ => id⟩

lemma program_carriers (r : CarrierRequest) (max : ℕ) :
    UnderLimit OrganizationSubscription.maxCarriers CarrierDb.carrierCount CarrierWrite.AddsCarrier max r.program .fresh
      (fun _ _ => True) := by
  obtain ⟨q, op⟩ := r
  have hrecord (event : AuditEvent) : ¬ (CarrierWrite.record event).AddsCarrier := id
  cases op with
  | create dto =>
    refine follows_silent_bind (.read _) (Or.inl rfl) (fun duplicate => ?_)
    refine follows_refuseDuplicate (fun _ => id) (follows_notExpired_slot ?_)
    refine follows_checked_bind (.claim _ _ _) (fun _ => follows_checked_bind (.claim _ _ _) (fun _ => ?_))
    refine follows_checked_bind (.claim _ _ _) (fun _ => ?_)
    exact (follows_spend (writes_record hrecord _ _ _ _ _)).mono (fun _ _ _ => trivial)
  | activate carrierId =>
    refine follows_silent_bind (writes_requireCarrier _ _) (Or.inl rfl) (fun carrier => ?_)
    refine follows_silent_bind (.ensure _ _) (Or.inl rfl) (fun _ => ?_)
    refine follows_silent_bind (writes_checkActivationReadiness _ _) (Or.inl rfl) (fun _ => ?_)
    refine follows_silent_bind (.ensure _ _) (Or.inl rfl) (fun _ => follows_slot ?_)
    refine (follows_spend (.bind (writes_record hrecord _ _ _ _ _) (fun _ => ?_))).mono (fun _ _ _ => trivial)
    exact .bind (writes_recalculate (routine_carriers carrierId) q) (fun _ => .pure _)
  | reactivateCarrier carrierId dto =>
    refine follows_slot (Txn.Follows.bind ?_)
    have htransition : UnderLimit OrganizationSubscription.maxCarriers CarrierDb.carrierCount
        CarrierWrite.AddsCarrier max (CarrierService.transitionStatus q carrierId [.blocked, .inactive] .active
          "Carrier Reactivated" "Only a Blocked or Inactive carrier can be reactivated." dto) .checked
        (fun _ g => g = .spent) := by
      refine follows_checked_bind (writes_requireCarrier _ _) (fun _ => ?_)
      refine follows_checked_bind (.ensure _ _) (fun _ => ?_)
      exact follows_checked_bind (.lift _) (fun _ => follows_spend (writes_record hrecord _ _ _ _ _))
    refine htransition.mono (fun _ g hg => ?_)
    rw [hg]
    have hrecalculate := writes_recalculate (routine_carriers carrierId) q
    exact (follows_quiet (.bind hrecalculate (fun _ => .pure _)) (Or.inr (Or.inl rfl))).mono (fun _ _ _ => trivial)
  | blockCarrier carrierId dto =>
    exact follows_leave (writes_blockCarrier (routine_carriers carrierId) (fun h => h.elim nofun nofun) q dto)
  | deactivateCarrier carrierId dto =>
    exact follows_leave (writes_deactivateCarrier (routine_carriers carrierId) (fun h => h.elim nofun nofun) q dto)
  | addDriver carrierId dto => exact follows_leave (writes_addDriver hrecord (fun _ => id) q dto)
  | reactivateDriver carrierId driverId dto =>
    exact follows_leave (writes_reactivateDriver hrecord (fun _ => id) q driverId dto)
  | deactivateDriver carrierId driverId dto =>
    exact follows_leave (writes_transitionDriverActive hrecord (fun _ => id) _ _ _ _ _)

lemma program_drivers (r : CarrierRequest) (max : ℕ) :
    UnderLimit OrganizationSubscription.maxDrivers CarrierDb.driverCount CarrierWrite.AddsDriver max r.program .fresh
      (fun _ _ => True) := by
  obtain ⟨q, op⟩ := r
  have hrecord (event : AuditEvent) : ¬ (CarrierWrite.record event).AddsDriver := id
  cases op with
  | create dto => exact follows_leave (writes_create hrecord (fun _ => id) q dto)
  | activate carrierId => exact follows_leave (writes_activate (routine_drivers carrierId) id q)
  | reactivateCarrier carrierId dto =>
    exact follows_leave (writes_reactivateCarrier (routine_drivers carrierId) id q dto)
  | blockCarrier carrierId dto => exact follows_leave (writes_blockCarrier (routine_drivers carrierId) id q dto)
  | deactivateCarrier carrierId dto =>
    exact follows_leave (writes_deactivateCarrier (routine_drivers carrierId) id q dto)
  | addDriver carrierId dto =>
    refine follows_silent_bind (writes_requireCarrier _ _) (Or.inl rfl) (fun _ => ?_)
    refine follows_silent_bind (writes_assertNoDuplicate _ _ _ _) (Or.inl rfl) (fun _ => follows_notExpired_slot ?_)
    refine follows_checked_bind (.claim _ _ _) (fun _ => ?_)
    exact (follows_spend (writes_record hrecord _ _ _ _ _)).mono (fun _ _ _ => trivial)
  | reactivateDriver carrierId driverId dto =>
    refine follows_slot (follows_checked_bind (.read _) (fun _ => follows_checked_bind (.require _ _) (fun _ => ?_)))
    refine follows_checked_bind (.ensure _ _) (fun _ => follows_checked_bind (.lift _) (fun _ => ?_))
    refine follows_checked_bind (writes_assertNoDuplicate _ _ _ _) (fun _ => ?_)
    exact (follows_spend (writes_record hrecord _ _ _ _ _)).mono (fun _ _ _ => trivial)
  | deactivateDriver carrierId driverId dto =>
    exact follows_leave (writes_transitionDriverActive hrecord (fun _ => Bool.false_ne_true) _ _ _ _ _)

section Sessions

variable {I : Type} [DecidableEq I]

def carriersBegin (d : CarrierDb) (requests : I → CarrierRequest) :
    State CarrierDb CarrierRow I (Frame CarrierDb CarrierRow CarrierWrite AppError Unit) CarrierWrite :=
  begin d (fun i => .running (requests i).program)

theorem uninterrupted_carrier_request (requests : I → CarrierRequest) (d : CarrierDb) (i : I) :
    ∃ (n : ℕ) (t : State CarrierDb CarrierRow I _ CarrierWrite),
      Run (Enabled (step carrierCode)) (carriersBegin d requests) (List.replicate n (.advance i)) t ∧
      t.committed = ((requests i).program.commit CarrierDb.write d).2 ∧
      t.session i = ⟨.answered ((requests i).program.commit CarrierDb.write d).1, []⟩ := by
  have halone : Alone carrierCode d ⟨Frame.running (requests i).program, []⟩ _ _ := alone_commit (requests i).program d
  exact halone.run_begin (fun i => Frame.running (requests i).program)

def WithinLimits (org : OrganizationSubscription) (d : CarrierDb) : Prop :=
  (∀ max, org.maxCarriers = some max → d.carrierCount ≤ max) ∧ ∀ max, org.maxDrivers = some max → d.driverCount ≤ max

theorem limits_kept {requests : I → CarrierRequest} {d : CarrierDb} (hd : WithinLimits d.organization d)
    {es : List (Event I)} {s : State CarrierDb CarrierRow I _ CarrierWrite}
    (h : Run (Enabled (step carrierCode)) (carriersBegin d requests) es s) :
    WithinLimits d.organization s.committed := by
  constructor
  · intro max hmax
    exact count_within (counted_carriers max) hmax (hd.1 max hmax) (fun i => program_carriers (requests i) max) h
  · intro max hmax
    exact count_within (counted_drivers max) hmax (hd.2 max hmax) (fun i => program_drivers (requests i) max) h

end Sessions

namespace Sample

def oneCarrier : CarrierDb := { documents := .empty, organization := { maxCarriers := some 1, maxDrivers := some 5 } }

def creations (i : Bool) : CarrierRequest :=
  if i then ⟨request 2, .create { mcNumber := "MC-2", dotNumber := "DOT-2" }⟩
  else ⟨request 1, .create { mcNumber := "MC-1", dotNumber := "DOT-1" }⟩

def bothCreate : List (Event Bool) :=
  List.replicate 2 (.advance false) ++ List.replicate 2 (.advance true) ++ List.replicate 8 (.advance false) ++
    List.replicate 3 (.advance true)

end Sample

open Sample

theorem limits_kept_sample : ∃ s : State CarrierDb CarrierRow Bool _ CarrierWrite,
    Run (Enabled (step carrierCode)) (carriersBegin oneCarrier creations) bothCreate s ∧
      s.committed.carriers.rows.map Carrier.mcNumber = ["MC-1"] ∧ WithinLimits oneCarrier.organization s.committed := by
  have hrun : (bothCreate.foldlM (step carrierCode) (carriersBegin oneCarrier creations)).any
      (fun s => s.committed.carriers.rows.map Carrier.mcNumber = ["MC-1"]) := by decide
  obtain ⟨s, hs, hrows⟩ := (Option.any_eq_true _ _).mp hrun
  have h := (run_enabled_iff _ _ _ _).mpr hs
  refine ⟨s, h, of_decide_eq_true hrows, limits_kept (d := oneCarrier) ⟨fun max _ => ?_, fun max _ => ?_⟩ h⟩
  · exact Nat.zero_le max
  · exact Nat.zero_le max

end Truckmaster.Carriers
