import Truckmaster.Carriers.CarrierLimits

/-! What the carrier limit refuses: a request is compared with the same request in an organization without one. -/

namespace Truckmaster.Carriers

open Common Fallible Tables Transactions

def CarrierDb.unlimited (d : CarrierDb) : CarrierDb :=
  { d with organization := { d.organization with maxCarriers := none } }

def CarrierRequest.exec (r : CarrierRequest) (d : CarrierDb) : Except AppError CarrierDb :=
  r.program.exec CarrierDb.write d

namespace CarrierOp

def ChecksCarrierLimit : CarrierOp → Prop
  | .create _ => True
  | .activate _ => True
  | .reactivateCarrier _ _ => True
  | _ => False

def Activates : CarrierOp → Prop
  | .activate _ => True
  | _ => False

end CarrierOp

def carrierLimitReached (max : ℕ) : AppError := EntitlementService.limitReached "carrier" max

variable {d t u : CarrierDb} {q : Request} {carrierId : Uuid} {max : ℕ} {α : Type}

section Counts

lemma refuseDuplicate_ok {duplicate : Option Carrier} {x : Unit}
    (h : (CarrierService.refuseDuplicate q duplicate).run CarrierDb.write d = (.ok x, t)) :
    duplicate = none ∧ t = d := by
  cases duplicate with
  | none =>
    obtain ⟨_, rfl⟩ := Prod.mk.inj h
    exact ⟨rfl, rfl⟩
  | some duplicate => cases (Prod.mk.inj h).1

lemma canCreate_silent {now : Instant} {x : Except AppError Unit}
    (h : (EntitlementService.assertCanCreateCarrier now).run CarrierDb.write d = (x, t)) : t = d :=
  (writes_assertCanCreateCarrier now).run_silent h

lemma slot_silent {x : Except AppError Unit}
    (h : EntitlementService.assertCarrierSlotAvailable.run CarrierDb.write d = (x, t)) : t = d :=
  writes_assertCarrierSlotAvailable.run_silent h

lemma ite_ok {p : Prop} [Decidable p] {e : AppError} {x : Unit}
    (h : (if p then Except.error e else .ok ()) = .ok x) : ¬ p := by
  intro hp
  rw [if_pos hp] at h
  cases h

lemma create_count {dto : CreateCarrierInput} (h : (CarrierService.create q dto).run CarrierDb.write d = (.ok (), t)) :
    t.carrierCount = d.carrierCount + 1 := by
  simp only [CarrierService.create, Txn.run_bind_ok, Txn.run_read, Txn.run_claim, Txn.run_write, Prod.mk.injEq] at h
  obtain ⟨_, _, ⟨_, rfl⟩, _, d₁, hrefuse, _, d₂, hslot, _, _, ⟨hid, rfl⟩, _, _, ⟨_, rfl⟩, _, _, ⟨_, rfl⟩, _, _,
    ⟨_, rfl⟩, hrecord⟩ := h
  obtain ⟨_, rfl⟩ := refuseDuplicate_ok hrefuse
  obtain rfl := canCreate_silent hslot
  have hnew : q.uuid 0 ∉ d₂.carriers.rows.map Carrier.id := by
    simpa using ite_ok hid
  let carrier : Carrier := { id := q.uuid 0, mcNumber := dto.mcNumber, dotNumber := dto.dotNumber }
  obtain ⟨carriers, hinsert, hrows⟩ := Table.insert_of_new (t := d₂.carriers) (a := carrier) hnew
  rw [run_keepsCount (writes_record (fun _ => trivial) _ _ _ _ _) hrecord, CarrierDb.carrierCount, CarrierDb.write,
    hinsert, Option.getD_some, hrows, List.countP_append]
  rfl

lemma active_counts (carrier : Carrier) : CarrierDb.countsTowardLimit (carrier.withStatus .active) = true := rfl

lemma activate_count (h : (CarrierService.activate q carrierId).run CarrierDb.write d = (.ok (), t)) :
    t.carrierCount = d.carrierCount := by
  rw [CarrierService.activate] at h
  obtain ⟨carrier, _, hcarrier, hrest⟩ := Txn.run_bind_ok.mp h
  obtain ⟨hmem, rfl, rfl⟩ := requireCarrier_ok hcarrier
  simp only [Txn.run_bind_ok, Txn.run_ensure, Txn.run_update, Prod.mk.injEq, ensure_eq_ok] at hrest
  obtain ⟨_, _, ⟨hpending, rfl⟩, readiness, d₁, hreadiness, _, _, ⟨_, rfl⟩, _, d₂, hslot, _, _, ⟨_, rfl⟩, _, d₃,
    hrecord, _, _, hrecalculate, hend⟩ := hrest
  obtain rfl := (writes_checkActivationReadiness q carrier.id).run_silent hreadiness
  obtain rfl := slot_silent hslot
  obtain ⟨_, rfl⟩ := Prod.mk.inj hend
  have hstatus := setStatus_count .active hmem
  rw [if_pos (show CarrierDb.countsTowardLimit carrier by simp [CarrierDb.countsTowardLimit, hpending]),
    if_pos (active_counts carrier)] at hstatus
  have hrecorded := run_keepsCount (writes_record (fun _ => trivial) _ _ _ _ _) hrecord
  have hrecalculated := run_keepsCount (writes_recalculate (routine_keepsCount carrier.id) q) hrecalculate
  omega

lemma reactivateCarrier_count {dto : CarrierLifecycleReasonInput}
    (h : (CarrierService.reactivateCarrier q carrierId dto).run CarrierDb.write d = (.ok (), t)) :
    t.carrierCount = d.carrierCount + 1 := by
  simp only [CarrierService.reactivateCarrier, Txn.run_bind_ok] at h
  obtain ⟨_, d₁, hslot, _, d₂, htransition, _, d₃, hrecalculate, hend⟩ := h
  obtain rfl := slot_silent hslot
  obtain ⟨_, rfl⟩ := Prod.mk.inj hend
  rw [CarrierService.transitionStatus] at htransition
  obtain ⟨carrier, _, hcarrier, hrest⟩ := Txn.run_bind_ok.mp htransition
  obtain ⟨hmem, rfl, rfl⟩ := requireCarrier_ok hcarrier
  simp only [Txn.run_bind_ok, Txn.run_ensure, Txn.run_lift, Txn.run_update, Prod.mk.injEq, ensure_eq_ok] at hrest
  obtain ⟨_, _, ⟨hallowed, rfl⟩, _, _, ⟨_, rfl⟩, _, _, ⟨_, rfl⟩, hrecord⟩ := hrest
  have huncounted : CarrierDb.countsTowardLimit carrier = false := by
    simp only [List.mem_cons, List.not_mem_nil, or_false] at hallowed
    rcases hallowed with hblocked | hinactive
    · simp [CarrierDb.countsTowardLimit, hblocked]
    · simp [CarrierDb.countsTowardLimit, hinactive]
  have hstatus := setStatus_count .active hmem
  rw [huncounted, if_neg Bool.false_ne_true, if_pos (active_counts carrier)] at hstatus
  have hrecorded := run_keepsCount (writes_record (fun _ => trivial) _ _ _ _ _) hrecord
  have hrecalculated := run_keepsCount (writes_recalculate (routine_keepsCount carrier.id) q) hrecalculate
  omega

end Counts

section Blind

lemma write_unlimited (w : CarrierWrite) (d : CarrierDb) : d.unlimited.write w = (d.write w).unlimited := by
  cases w <;> rfl

lemma run_blind {p : CarrierTx α} (hp : p.Blind CarrierDb.unlimited) (d : CarrierDb) :
    p.run CarrierDb.write d.unlimited = ((p.run CarrierDb.write d).1, (p.run CarrierDb.write d).2.unlimited) :=
  hp.run write_unlimited

lemma blind_requireCarrier (o : RowOrder) (carrierId : Uuid) :
    (CarrierService.requireCarrier o carrierId).Blind CarrierDb.unlimited :=
  .bind (.read (fun _ => rfl)) (fun _ => .require _ _)

lemma blind_computeComplianceReasons (q : Request) (carrierId : Uuid) :
    (CarrierEligibilityService.computeComplianceReasons q carrierId).Blind CarrierDb.unlimited :=
  .bind (.read (fun _ => rfl)) (fun _ =>
    .bind (.read (fun _ => rfl)) (fun _ => .bind (.read (fun _ => rfl)) (fun _ => .pure _)))

lemma blind_recalculate (q : Request) (carrierId : Uuid) :
    (CarrierEligibilityService.recalculate q carrierId).Blind CarrierDb.unlimited := by
  refine .bind (.read (fun _ => rfl)) (fun _ => .bind (.require _ _) (fun carrier => ?_))
  refine .bind (blind_computeComplianceReasons q carrierId) (fun _ => .bind (.update _ _) (fun _ => ?_))
  refine .bind ?_ (fun _ => .pure _)
  unfold CarrierEligibilityService.recordChange
  split
  · exact .write _
  · exact .pure _

lemma blind_transitionStatus (q : Request) (carrierId : Uuid) (allowedFrom : List CarrierStatus)
    (toStatus : CarrierStatus) (action message : String) (dto : CarrierLifecycleReasonInput) :
    (CarrierService.transitionStatus q carrierId allowedFrom toStatus action message dto).Blind CarrierDb.unlimited :=
  .bind (blind_requireCarrier _ _) (fun _ => .bind (.ensure _ _) (fun _ => .bind (.lift _) (fun _ =>
    .bind (.update _ _) (fun _ => .write _))))

end Blind

/-- Where the request passes without a limit, it passes below the limit and is refused by it otherwise. -/
def Admitted (max : ℕ) (d : CarrierDb) (p : CarrierTx Unit) : Prop :=
  ∀ t, p.run CarrierDb.write d.unlimited = (.ok (), t) →
    (d.carrierCount < max → ∃ u, p.exec CarrierDb.write d = .ok u) ∧
    (max ≤ d.carrierCount → p.exec CarrierDb.write d = .error (carrierLimitReached max))

lemma exec_bind {p : CarrierTx α} {f : α → CarrierTx Unit} {a : α} (h : p.run CarrierDb.write d = (.ok a, u)) :
    (p >>= f).exec CarrierDb.write d = (f a).exec CarrierDb.write u := by
  unfold Txn.exec
  rw [Txn.run_bind, h]

lemma admitted_bind {p : CarrierTx α} {f : α → CarrierTx Unit} (hblind : p.Blind CarrierDb.unlimited)
    (hkeeps : ∀ a u, p.run CarrierDb.write d = (.ok a, u) → u = d) (hf : ∀ a, Admitted max d (f a)) :
    Admitted max d (p >>= f) := by
  intro t ht
  obtain ⟨a, u, hp, hrest⟩ := Txn.run_bind_ok.mp ht
  rw [run_blind hblind d] at hp
  obtain ⟨hanswer, rfl⟩ := Prod.mk.inj hp
  have hrun : p.run CarrierDb.write d = (.ok a, (p.run CarrierDb.write d).2) := Prod.ext hanswer rfl
  have hsame := hkeeps a _ hrun
  rw [hsame] at hrun hrest
  rw [exec_bind hrun]
  exact hf a t hrest

lemma admitted_silent {p : CarrierTx α} {f : α → CarrierTx Unit} (hblind : p.Blind CarrierDb.unlimited)
    (hsilent : p.Writes (fun _ => False)) (hf : ∀ a, Admitted max d (f a)) : Admitted max d (p >>= f) :=
  admitted_bind hblind (fun _ _ h => hsilent.run_silent h) hf

lemma run_countWithinLimit (hmax : d.organization.maxCarriers = some max) :
    (EntitlementService.assertCarrierCountWithinLimit d.organization).run CarrierDb.write d =
      (ensure (d.carrierCount < max) (carrierLimitReached max), d) := by
  unfold EntitlementService.assertCarrierCountWithinLimit EntitlementService.assertCountWithinLimit
  simp only [hmax]
  rw [Txn.run_bind]
  simp only [EntitlementService.lockOrganizationRow, Txn.run_readLocked, hmax]
  rw [Txn.run_bind]
  simp only [Txn.run_read, Txn.run_ensure]
  rfl

lemma admitted_slot {check : CarrierTx Unit} {f : Unit → CarrierTx Unit}
    (hcheck : ∀ u, check.run CarrierDb.write d.unlimited = (.ok (), u) → u = d.unlimited ∧
      check.run CarrierDb.write d = (ensure (d.carrierCount < max) (carrierLimitReached max), d))
    (hf : (f ()).Blind CarrierDb.unlimited) : Admitted max d (check >>= f) := by
  intro t ht
  obtain ⟨_, u, hpass, hrest⟩ := Txn.run_bind_ok.mp ht
  obtain ⟨rfl, hlimited⟩ := hcheck u hpass
  rw [run_blind hf d] at hrest
  have hrun : (f ()).run CarrierDb.write d = (.ok (), ((f ()).run CarrierDb.write d).2) :=
    Prod.ext (Prod.mk.inj hrest).1 rfl
  refine ⟨fun hbelow => ?_, fun hfull => ?_⟩
  · rw [ensure_of hbelow] at hlimited
    rw [exec_bind hlimited]
    exact ⟨_, Txn.exec_eq_ok.mpr ⟨(), hrun⟩⟩
  · rw [Fallible.ensure, if_neg (Nat.not_lt.mpr hfull)] at hlimited
    exact Txn.exec_eq_error.mpr ⟨d, Txn.run_bind_error.mpr (Or.inl hlimited)⟩

lemma slot_admitted {f : Unit → CarrierTx Unit} (hmax : d.organization.maxCarriers = some max)
    (hf : (f ()).Blind CarrierDb.unlimited) :
    Admitted max d (EntitlementService.assertCarrierSlotAvailable >>= f) := by
  refine admitted_slot (fun u hu => ⟨(Prod.mk.inj hu).2.symm, ?_⟩) hf
  rw [EntitlementService.assertCarrierSlotAvailable, Txn.run_bind]
  exact run_countWithinLimit hmax

lemma canCreate_admitted {f : Unit → CarrierTx Unit} {now : Instant} (hmax : d.organization.maxCarriers = some max)
    (hf : (f ()).Blind CarrierDb.unlimited) :
    Admitted max d (EntitlementService.assertCanCreateCarrier now >>= f) := by
  refine admitted_slot (fun u hu => ?_) hf
  obtain rfl := canCreate_silent hu
  refine ⟨rfl, ?_⟩
  simp only [EntitlementService.assertCanCreateCarrier, Txn.run_bind_ok, Txn.run_lift, Prod.mk.injEq] at hu
  obtain ⟨quick, _, hquick, _, _, ⟨htrial, rfl⟩, _⟩ := hu
  obtain ⟨rfl, rfl⟩ := (Prod.mk.inj hquick).imp_left Except.ok.inj
  have hlimited : EntitlementService.assertNotExpired d.organization now "add more carriers" = .ok () := htrial
  rw [EntitlementService.assertCanCreateCarrier, Txn.run_bind]
  change Txn.run CarrierDb.write (liftM (EntitlementService.assertNotExpired d.organization now _) >>= _) d = _
  rw [Txn.run_bind, Txn.run_lift, hlimited]
  exact run_countWithinLimit hmax

lemma program_admitted {r : CarrierRequest} (hmax : d.organization.maxCarriers = some max)
    (hop : r.op.ChecksCarrierLimit) : Admitted max d r.program := by
  obtain ⟨q, op⟩ := r
  cases op with
  | create dto =>
    refine admitted_silent (.read (fun _ => rfl)) (.read _) (fun duplicate => ?_)
    refine admitted_bind ?_ (fun _ _ h => (refuseDuplicate_ok h).2) (fun _ => canCreate_admitted hmax ?_)
    · cases duplicate with
      | none => exact .pure _
      | some duplicate => exact .bind (.write _) (fun _ => trivial)
    · refine .bind (.claim _ (fun _ => by rfl) _) (fun _ => .bind (.claim _ (fun _ => by rfl) _) (fun _ => ?_))
      exact .bind (.claim _ (fun _ => by rfl) _) (fun _ => .bind (.write _) (fun _ => .write _))
  | activate carrierId =>
    refine admitted_silent (blind_requireCarrier _ _) (writes_requireCarrier _ _) (fun carrier => ?_)
    refine admitted_silent (.ensure _ _) (.ensure _ _) (fun _ => ?_)
    refine admitted_silent (.bind (blind_computeComplianceReasons _ _) (fun _ => .pure _))
      (writes_checkActivationReadiness _ _) (fun _ => ?_)
    refine admitted_silent (.ensure _ _) (.ensure _ _) (fun _ => slot_admitted hmax ?_)
    exact .bind (.update _ _) (fun _ => .bind (.write _) (fun _ => .bind (blind_recalculate _ _) (fun _ => .pure _)))
  | reactivateCarrier carrierId dto =>
    refine slot_admitted hmax (.bind (blind_transitionStatus _ _ _ _ _ _ _) (fun _ => ?_))
    exact .bind (blind_recalculate _ _) (fun _ => .pure _)
  | blockCarrier carrierId dto => exact hop.elim
  | deactivateCarrier carrierId dto => exact hop.elim
  | addDriver carrierId dto => exact hop.elim
  | reactivateDriver carrierId driverId dto => exact hop.elim
  | deactivateDriver carrierId driverId dto => exact hop.elim

def LimitPrecise (max : ℕ) (d t : CarrierDb) (r : CarrierRequest) : Prop :=
  (r.exec d = .error (carrierLimitReached max) → max < t.carrierCount) ∧
    (r.op.Activates → d.carrierCount ≤ max → ∃ u, r.exec d = .ok u)

theorem limit_precise_iff {r : CarrierRequest} (hmax : d.organization.maxCarriers = some max)
    (hop : r.op.ChecksCarrierLimit) (hguards : r.exec d.unlimited = .ok t) :
    LimitPrecise max d t r ↔ ¬ (r.op.Activates ∧ d.carrierCount = max) := by
  obtain ⟨_, hrun⟩ := Txn.exec_eq_ok.mp hguards
  obtain ⟨hbelow, hfull⟩ := program_admitted hmax hop t hrun
  have hrefused (hlimit : r.exec d = .error (carrierLimitReached max)) : max ≤ d.carrierCount := by
    by_contra hless
    obtain ⟨u, hu⟩ := hbelow (by omega)
    exact absurd (hlimit.symm.trans hu) nofun
  obtain ⟨q, op⟩ := r
  cases op with
  | create dto =>
    have hcount : t.carrierCount = d.carrierCount + 1 := create_count (d := d.unlimited) hrun
    refine ⟨fun _ h => h.1, fun _ => ⟨fun hlimit => ?_, fun h => h.elim⟩⟩
    have hfewer := hrefused hlimit
    omega
  | reactivateCarrier carrierId dto =>
    have hcount : t.carrierCount = d.carrierCount + 1 := reactivateCarrier_count (d := d.unlimited) hrun
    refine ⟨fun _ h => h.1, fun _ => ⟨fun hlimit => ?_, fun h => h.elim⟩⟩
    have hfewer := hrefused hlimit
    omega
  | activate carrierId =>
    have hcount : t.carrierCount = d.carrierCount := activate_count (d := d.unlimited) hrun
    constructor
    · rintro ⟨hprecise, _⟩ ⟨_, hexact⟩
      have hexceeds := hprecise (hfull hexact.ge)
      omega
    · intro hoff
      have hother : d.carrierCount ≠ max := fun h => hoff ⟨trivial, h⟩
      refine ⟨fun hlimit => ?_, fun _ hwithin => hbelow (lt_of_le_of_ne hwithin hother)⟩
      have hfewer := hrefused hlimit
      omega
  | blockCarrier carrierId dto => exact hop.elim
  | deactivateCarrier carrierId dto => exact hop.elim
  | addDriver carrierId dto => exact hop.elim
  | reactivateDriver carrierId driverId dto => exact hop.elim
  | deactivateDriver carrierId driverId dto => exact hop.elim

namespace Sample

def atLimit : CarrierDb := { compliant with organization := { maxCarriers := some 1 } }

def activation : CarrierRequest := ⟨request 2, .activate 5⟩

def activated : CarrierDb := accepted (activation.exec atLimit.unlimited) (by decide)

def reactivation : CarrierRequest := ⟨request 2, .reactivateCarrier 5 { reason := "Cleared" }⟩

def blockedAtLimit : CarrierDb := { compliant with
  organization := { maxCarriers := some 0 }
  carriers := compliant.carriers.update 5 (.withStatus .blocked) (fun _ => rfl) }

end Sample

open Sample

theorem limit_precise_sample : reactivation.exec blockedAtLimit = .error (carrierLimitReached 0) ∧
    ∃ t, LimitPrecise 0 blockedAtLimit t reactivation := by
  have hguards : (reactivation.exec blockedAtLimit.unlimited).toOption.isSome := by decide
  have hop : reactivation.op.ChecksCarrierLimit := trivial
  exact ⟨rfl, _, (limit_precise_iff rfl hop (eq_accepted hguards)).mpr (fun h => h.1)⟩

theorem activation_refused_at_limit : activation.exec atLimit.unlimited = .ok activated ∧ atLimit.carrierCount = 1 ∧
    activated.carrierCount = 1 ∧ activation.exec atLimit = .error (carrierLimitReached 1) ∧
    ¬ LimitPrecise 1 atLimit activated activation := by
  have hrefused : activation.exec atLimit = .error (carrierLimitReached 1) := rfl
  have hcount : activated.carrierCount = 1 := by decide
  refine ⟨eq_accepted _, by decide, hcount, hrefused, fun h => ?_⟩
  have hexceeds := h.1 hrefused
  omega

end Truckmaster.Carriers
