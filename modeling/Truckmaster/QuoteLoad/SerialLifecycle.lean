import Truckmaster.Library.SerialRuns
import Truckmaster.QuoteLoad.CarrierCharges
import Truckmaster.QuoteLoad.LifecycleRequests

/-! Any number of requests on one Load at a time. Each tests the status on the row it reads first and writes by the
id of the Load later; as long as the test still holds when another request commits, they act one after another. -/

namespace Truckmaster.QuoteLoad

open Common Fallible LifecycleTx ReadCommitted Runs Tables Transactions

variable {I : Type} [DecidableEq I] {requests : I → LifecycleRequest} {c : LifecycleRequest} {d d' d₀ : SourcingDb}
  {rows rows' rows₀ : LoadRows} {r : Reference} {q : Request}

abbrev LifecycleState (I : Type) := State SourcingDb LifecycleRow I
  (Frame SourcingDb LifecycleRow LifecycleWrite AppError Unit) LifecycleWrite

abbrev lifecycleCode (lost : AppError) := code (D := SourcingDb) (K := LifecycleRow) (α := Unit)
  SourcingDb.writeLifecycle lost

def LifecycleState.leaves (s : LifecycleState I) (i : I) : SourcingDb :=
  (s.session i).writes.foldl (fun d w => SourcingDb.writeLifecycle w d) s.committed

/-- A request commits only while every other one that has passed its test of the status would still pass it on the
status that the commit leaves. -/
def StillAccepted (requests : I → LifecycleRequest) (s : LifecycleState I) : Event I → Prop
  | .advance i => (∃ a, (s.session i).frame = .running (.done a)) →
    ∀ j ≠ i, Underway (fun i => (requests i).transaction) s j →
      ∀ rows ∈ (LifecycleState.leaves s i).load, (requests j).op.accepts rows.load.status = true
  | .fail _ => True

section Writes

def LoadRows.afterWrite : LifecycleWrite → LoadRows → LoadRows
  | .sourcing (.carriers _), rows => rows
  | .sourcing (.createSourcingAttempt attempt), rows =>
    { rows with sourcingAttempts := rows.sourcingAttempts ++ [attempt] }
  | .sourcing (.assign carrierId carrierRate), rows => rows.assign carrierId carrierRate
  | .sourcing (.createCharge charge), rows => { rows with chargeLineItems := rows.chargeLineItems ++ [charge] }
  | .sourcing (.record event), rows => rows.record event
  | .sourcing (.notify recipients type message), rows => rows.notify recipients type message
  | w, rows => rows.writeLifecycle w

lemma load_afterWrite (w : LifecycleWrite) (d : SourcingDb) :
    (SourcingDb.writeLifecycle w d).load = d.load.map (LoadRows.afterWrite w) := by
  cases w with
  | sourcing w =>
    cases w with
    | carriers w => exact Option.map_id.symm ▸ rfl
    | _ => rfl
  | _ => rfl

def LoadRows.names (rows : LoadRows) : Uuid × String × Option Uuid :=
  (rows.load.id, rows.load.loadNumber, rows.load.assignedDispatcherId)

lemma names_afterWrite (w : LifecycleWrite) (rows : LoadRows) : (rows.afterWrite w).names = rows.names := by
  cases w with
  | sourcing w => cases w <;> rfl
  | _ => rfl

lemma exec_names (h : c.transaction.exec SourcingDb.writeLifecycle d = .ok d') :
    d'.load.map LoadRows.names = d.load.map LoadRows.names := by
  obtain ⟨_, hrun⟩ := Txn.exec_eq_ok.mp h
  have hstep (w : LifecycleWrite) (u : SourcingDb) (hu : u.load.map LoadRows.names = d.load.map LoadRows.names) :
      (SourcingDb.writeLifecycle w u).load.map LoadRows.names = d.load.map LoadRows.names := by
    rw [load_afterWrite, Option.map_map, ← hu]
    exact congrArg (fun f => Option.map f u.load) (funext (names_afterWrite w))
  have hkeep := Txn.run_keeps hstep c.transaction rfl
  rwa [hrun] at hkeep

/-- Rows of the Load that `view` does not tell apart. -/
def Alike {α : Type} (view : LoadRows → α) (d d' : SourcingDb) : Prop := d.load.map view = d'.load.map view

lemma Alike.cases {α : Type} {view : LoadRows → α} (h : Alike view d d') :
    d.load = none ∧ d'.load = none ∨
      ∃ rows rows', d.load = some rows ∧ d'.load = some rows' ∧ view rows = view rows' := by
  unfold Alike at h
  cases hload : d.load with
  | none =>
    rw [hload] at h
    exact Or.inl ⟨rfl, Option.map_eq_none_iff.mp h.symm⟩
  | some rows =>
    rw [hload] at h
    obtain ⟨rows', hload', hrows⟩ := Option.map_eq_some_iff.mp h.symm
    exact Or.inr ⟨rows, rows', rfl, hload', hrows.symm⟩

lemma alike_write {α : Type} {view : LoadRows → α}
    (hview : ∀ w rows rows', view rows = view rows' → view (LoadRows.afterWrite w rows) = view (LoadRows.afterWrite w rows'))
    (w : LifecycleWrite) (d d' : SourcingDb) (hd : Alike view d d') :
    Alike view (SourcingDb.writeLifecycle w d) (SourcingDb.writeLifecycle w d') := by
  rw [Alike, load_afterWrite, load_afterWrite]
  rcases hd.cases with ⟨hload, hload'⟩ | ⟨rows, rows', hload, hload', hrows⟩
  · rw [hload, hload']
  · rw [hload, hload']
    exact congrArg some (hview w rows rows' hrows)

def LifecycleOp.refused (op : LifecycleOp) (status : LoadStatus) : Option LoadStatus :=
  if op.accepts status then none else some status

def closingView (rows : LoadRows) : Option LoadStatus × Uuid × String × Option Uuid :=
  (LifecycleOp.closeLoad.refused rows.load.status, rows.names)

def cancellingView (dto : CancelLoadInput) (rows : LoadRows) :
    Option LoadStatus × Bool × Uuid × String × Option Uuid :=
  ((LifecycleOp.cancelLoad dto).refused rows.load.status, rows.notified "LOAD_CANCELLED", rows.names)

lemma closingView_write (w : LifecycleWrite) (rows rows' : LoadRows) (h : closingView rows = closingView rows') :
    closingView (rows.afterWrite w) = closingView (rows'.afterWrite w) := by
  obtain ⟨hrefused, hnames⟩ := Prod.mk.inj h
  refine Prod.ext ?_ ((names_afterWrite w rows).trans (hnames.trans (names_afterWrite w rows').symm))
  cases w with
  | sourcing w => cases w <;> first | exact hrefused | rfl
  | _ => first | exact hrefused | rfl

lemma cancellingView_write (dto : CancelLoadInput) (w : LifecycleWrite) (rows rows' : LoadRows)
    (h : cancellingView dto rows = cancellingView dto rows') :
    cancellingView dto (rows.afterWrite w) = cancellingView dto (rows'.afterWrite w) := by
  obtain ⟨hrefused, h⟩ := Prod.mk.inj h
  obtain ⟨hnotified, hnames⟩ := Prod.mk.inj h
  refine Prod.ext ?_ (Prod.ext ?_ ((names_afterWrite w rows).trans (hnames.trans (names_afterWrite w rows').symm)))
  · cases w with
    | sourcing w => cases w <;> first | exact hrefused | rfl
    | _ => first | exact hrefused | rfl
  · cases w with
    | sourcing w =>
      cases w with
      | notify recipients type message =>
        have happend (rows : LoadRows) : (rows.notify recipients type message).notified "LOAD_CANCELLED" =
            (rows.notified "LOAD_CANCELLED" || (recipients.map (fun u => (⟨u, type, message⟩ : LoadNotification))).any
              (fun n => n.type == "LOAD_CANCELLED")) := List.any_append
        exact (happend rows).trans ((congrArg (· || _) hnotified).trans (happend rows').symm)
      | _ => exact hnotified
    | _ => exact hnotified

end Writes

section Alike

lemma any_of_view {α : Type} {view : LoadRows → α} {p : LoadRows → Bool} {d d' : SourcingDb}
    (hp : ∀ rows rows', view rows = view rows' → p rows = p rows') (hd : Alike view d d') :
    d.load.any p = d'.load.any p := by
  rcases hd.cases with ⟨hload, hload'⟩ | ⟨rows, rows', hload, hload', hrows⟩
  · rw [hload, hload']
  · rw [hload, hload']
    exact hp rows rows' hrows

lemma blindTo_findLoad {α : Type} {view : LoadRows → α} {accepts : LoadStatus → Bool}
    {refusal : LoadStatus → AppError} {f : LoadRows → LifecycleTx Unit}
    (haccepts : ∀ rows rows', view rows = view rows' → accepts rows.load.status = accepts rows'.load.status)
    (hrefusal : ∀ rows rows', view rows = view rows' → ¬ accepts rows.load.status = true →
      rows.load.status = rows'.load.status)
    (hf : ∀ rows rows', view rows = view rows' → f rows = f rows') (hblind : ∀ rows, (f rows).BlindTo (Alike view)) :
    (findLoad accepts refusal >>= f).BlindTo (Alike view) := by
  let next (found : Option LoadRows) : LifecycleTx Unit := (do
    let rows ← LoadRows.found found
    Txn.ensure (accepts rows.load.status = true) (refusal rows.load.status)
    pure rows) >>= f
  have haccepted (rows : LoadRows) (h : accepts rows.load.status = true) : next (some rows) = f rows := by
    simp only [next, LoadRows.found_some, Txn.lift_ok_bind, Txn.ensure_of h, Txn.pure_bind]
  have hrefused (rows : LoadRows) (h : ¬ accepts rows.load.status = true) :
      next (some rows) = .throw (refusal rows.load.status) := by
    simp only [next, LoadRows.found_some, Txn.lift_ok_bind, Txn.ensure_not h, Txn.throw_bind]
  intro d d' hd
  refine ⟨rfl, ?_⟩
  change next d.load = next d'.load ∧ (next d.load).BlindTo _
  rcases hd.cases with ⟨hload, hload'⟩ | ⟨rows, rows', hload, hload', hrows⟩
  · rw [hload, hload']
    exact ⟨rfl, trivial⟩
  · rw [hload, hload']
    by_cases h : accepts rows.load.status = true
    · rw [haccepted rows h, haccepted rows' (haccepts rows rows' hrows ▸ h)]
      exact ⟨hf rows rows' hrows, hblind rows⟩
    · rw [hrefused rows h, hrefused rows' (haccepts rows rows' hrows ▸ h), hrefusal rows rows' hrows h]
      exact ⟨rfl, trivial⟩

lemma refused_accepts (op : LifecycleOp) {status status' : LoadStatus} (h : op.refused status = op.refused status') :
    op.accepts status = op.accepts status' := by
  unfold LifecycleOp.refused at h
  split at h
  · split at h
    · simp_all
    · cases h
  · split at h
    · cases h
    · simp_all

lemma refused_eq (op : LifecycleOp) {status status' : LoadStatus} (h : op.refused status = op.refused status')
    (hrefused : ¬ op.accepts status = true) : status = status' := by
  have hrefused' : ¬ op.accepts status' = true := refused_accepts op h ▸ hrefused
  rw [LifecycleOp.refused, LifecycleOp.refused, if_neg hrefused, if_neg hrefused'] at h
  exact Option.some.inj h

lemma closeLoad_blindTo (q : Request) : (closeLoad q).BlindTo (Alike closingView) := by
  refine blindTo_findLoad (fun rows rows' h => refused_accepts .closeLoad (Prod.mk.inj h).1)
    (fun rows rows' h => refused_eq .closeLoad (Prod.mk.inj h).1) (fun rows rows' h => ?_) (fun rows => ?_)
  · obtain ⟨hid, _⟩ := Prod.mk.inj (Prod.mk.inj h).2
    rw [hid]
  · refine .bind ?_ (fun _ => .bind (.update _ _) (fun _ => .write _))
    exact .ignore _ (.ignore _ (.ignore _ (.ignore _ (.pure _))))

lemma cancelLoad_blindTo (r : Reference) (q : Request) (dto : CancelLoadInput) :
    (cancelLoad r q dto).BlindTo (Alike (cancellingView dto)) := by
  refine blindTo_findLoad (fun rows rows' h => refused_accepts (.cancelLoad dto) (Prod.mk.inj h).1)
    (fun rows rows' h => refused_eq (.cancelLoad dto) (Prod.mk.inj h).1) (fun rows rows' h => ?_) (fun rows => ?_)
  · obtain ⟨hid, hrest⟩ := Prod.mk.inj (Prod.mk.inj (Prod.mk.inj h).2).2
    obtain ⟨hnumber, hdispatcher⟩ := Prod.mk.inj hrest
    rw [hid, hnumber, hdispatcher]
  · refine .bind (.update _ _) (fun _ => .bind (.write _) (fun _ => ?_))
    cases rows.load.assignedDispatcherId with
    | none => exact .pure ()
    | some dispatcher =>
      refine .bind (.read (fun d d' hd => ?_)) (fun existing => ?_)
      · exact any_of_view (fun rows rows' h => (Prod.mk.inj (Prod.mk.inj h).2).1) hd
      · cases existing with
        | true => exact .pure ()
        | false => exact .write _

end Alike

lemma lifecycle_edge (h : (c.call d).exec rows = .ok rows') :
    Edge (c.call d).op rows.load.status rows'.load.status := by
  obtain ⟨r, q, op⟩ := c
  cases op with
  | beginSourcing =>
    obtain ⟨hbefore, hafter, _⟩ := CarrierSourcingService.beginSourcing_ok h
    rw [hbefore, hafter]
    exact .beginSourcing
  | assignCarrier dto =>
    obtain ⟨hbefore, hafter, _⟩ := CarrierSourcingService.assignCarrier_ok h
    rw [hbefore, hafter]
    exact .assignCarrier
  | carrierRejected dto =>
    obtain ⟨hbefore, hafter, _⟩ := CarrierSourcingService.carrierRejected_ok h
    rw [hbefore, hafter]
    exact .carrierRejected
  | generateRateConfirmation =>
    obtain ⟨hbefore, hafter, _⟩ := CarrierSourcingService.generateRateConfirmation_ok h
    rw [hbefore, hafter]
    exact .generateRateConfirmation
  | dispatch dto =>
    obtain ⟨hbefore, hafter, _⟩ := DispatchTrackingService.dispatch_ok h
    rw [hbefore, hafter]
    exact .dispatch
  | cancelLoad dto =>
    obtain ⟨hbefore, hafter, _⟩ := LoadService.cancelLoad_ok h
    rw [hafter]
    exact .cancelLoad hbefore
  | closeLoad =>
    obtain ⟨⟨closed, checklist⟩, hclose, rfl⟩ := map_eq_ok.mp h
    obtain ⟨hbefore, hafter, _⟩ := LoadService.closeLoad_ok hclose
    rw [hafter]
    exact .closeLoad hbefore

lemma Edge.ne {op : LoadOp} {status status' : LoadStatus} (h : Edge op status status') : status ≠ status' := by
  cases h with
  | closeLoad hne => exact hne
  | cancelLoad hmem =>
    rintro rfl
    simp [LoadService.cancellableStatuses] at hmem
  | _ => simp

lemma Edge.accepted_twice {op : LoadOp} {status status' : LoadStatus} (h : Edge op status status') {op' : LifecycleOp}
    (haccepts : op'.accepts status = true) (haccepts' : op'.accepts status' = true) :
    op' = .closeLoad ∨ ∃ dto, op' = .cancelLoad dto := by
  cases op' with
  | closeLoad => exact Or.inl rfl
  | cancelLoad dto => exact Or.inr ⟨dto, rfl⟩
  | _ => exact absurd ((beq_iff_eq.mp haccepts).trans (beq_iff_eq.mp haccepts').symm) h.ne

lemma notifyOnce_notified {us : List Uuid} {type type' message : String} (hne : type ≠ type') :
    (rows.notifyOnce us type message).notified type' = rows.notified type' := by
  unfold LoadRows.notifyOnce
  split
  · rfl
  · rw [LoadRows.notified, List.any_append, LoadRows.notified, Bool.or_eq_left_iff_imp, List.any_map]
    intro hany
    obtain ⟨u, _, hu⟩ := List.any_eq_true.mp hany
    exact absurd (beq_iff_eq.mp hu) hne

lemma exec_notified (h : (c.call d).exec rows = .ok rows')
    (hcancellable : rows'.load.status ∈ LoadService.cancellableStatuses) :
    rows'.notified "LOAD_CANCELLED" = rows.notified "LOAD_CANCELLED" := by
  obtain ⟨r, q, op⟩ := c
  cases op with
  | beginSourcing =>
    change CarrierSourcingService.beginSourcing q (some rows) = _ at h
    simp only [CarrierSourcingService.beginSourcing, LoadRows.found_some, ok_bind, bind_eq_ok, pure_eq_ok] at h
    obtain ⟨_, _, rfl⟩ := h
    rfl
  | assignCarrier dto =>
    change CarrierSourcingService.assignCarrier (d.reference r q) q (some rows) dto = _ at h
    simp only [CarrierSourcingService.assignCarrier, LoadRows.found_some, ok_bind, bind_eq_ok, pure_eq_ok] at h
    obtain ⟨_, _, _, _, _, _, _, _, rfl⟩ := h
    rw [notifyOnce_notified (by decide)]
    unfold CarrierSourcingService.createOriginalCarrierLinehaulCharge
    split <;> rfl
  | carrierRejected dto =>
    change CarrierSourcingService.carrierRejected (d.reference r q) q (some rows) dto = _ at h
    simp only [CarrierSourcingService.carrierRejected, LoadRows.found_some, ok_bind, bind_eq_ok, pure_eq_ok] at h
    obtain ⟨_, _, rfl⟩ := h
    unfold CarrierSourcingService.removeOriginalCarrierLinehaulCharge
    split <;> rfl
  | generateRateConfirmation =>
    change CarrierSourcingService.generateRateConfirmation (d.reference r q) q (some rows) {} = _ at h
    simp only [CarrierSourcingService.generateRateConfirmation, LoadRows.found_some, ok_bind, bind_eq_ok,
      pure_eq_ok] at h
    obtain ⟨_, _, _, _, _, _, _, _, rfl⟩ := h
    rfl
  | dispatch dto =>
    rw [(DispatchTrackingService.dispatch_ok h).2.1] at hcancellable
    simp [LoadService.cancellableStatuses] at hcancellable
  | cancelLoad dto =>
    rw [(LoadService.cancelLoad_ok h).2.1] at hcancellable
    simp [LoadService.cancellableStatuses] at hcancellable
  | closeLoad =>
    obtain ⟨⟨closed, checklist⟩, hclose, rfl⟩ := map_eq_ok.mp h
    rw [(LoadService.closeLoad_ok hclose).2.1] at hcancellable
    simp [LoadService.cancellableStatuses] at hcancellable

lemma refused_of_accepts {op : LifecycleOp} {status : LoadStatus} (h : op.accepts status = true) :
    op.refused status = none := if_pos h

lemma reaches_after_commit {j : LifecycleRequest} {p : LifecycleTx Unit} {ws : List LifecycleWrite}
    (h : Reaches SourcingDb.writeLifecycle d j.transaction p ws) (hload : d.load = some rows)
    (hload' : d'.load = some rows') (hexec : c.transaction.exec SourcingDb.writeLifecycle d = .ok d')
    (hcall : (c.call d).exec rows = .ok rows') (haccepts : j.op.accepts rows.load.status = true)
    (haccepts' : j.op.accepts rows'.load.status = true) :
    Reaches SourcingDb.writeLifecycle d' j.transaction p ws := by
  have hnames : rows.names = rows'.names := by
    have hmap := exec_names hexec
    rw [hload, hload'] at hmap
    exact (Option.some.inj hmap).symm
  obtain ⟨r, q, op⟩ := j
  rcases (lifecycle_edge hcall).accepted_twice haccepts haccepts' with rfl | ⟨dto, rfl⟩
  · have halike : Alike closingView d d' := by
      rw [Alike, hload, hload']
      refine congrArg some (Prod.ext ?_ hnames)
      exact (refused_of_accepts haccepts).trans (refused_of_accepts haccepts').symm
    exact (h.transfer (alike_write closingView_write) halike (closeLoad_blindTo q)).1
  · have halike : Alike (cancellingView dto) d d' := by
      rw [Alike, hload, hload']
      refine congrArg some (Prod.ext ?_ (Prod.ext ?_ hnames))
      · exact (refused_of_accepts haccepts).trans (refused_of_accepts haccepts').symm
      · exact (exec_notified hcall (of_decide_eq_true haccepts')).symm
    exact (h.transfer (alike_write (cancellingView_write dto)) halike (cancelLoad_blindTo r q dto)).1

omit [DecidableEq I] in
lemma stillAccepted_keepsCourse :
    KeepsCourse SourcingDb.writeLifecycle (fun i => (requests i).transaction) (StillAccepted requests) := by
  intro s i a d' hguard hframe hleaves hexec j hj hon
  by_cases hunder : Underway (fun i => (requests i).transaction) s j
  · obtain ⟨p, hp, hstarted, hrunning⟩ := hunder
    dsimp only at hstarted
    have hreaches : Reaches SourcingDb.writeLifecycle s.committed (requests j).transaction p (s.session j).writes :=
      (hon p hp).resolve_left (fun ⟨e, he⟩ => hrunning e he)
    obtain ⟨next, hfirst, hgate⟩ := gated (requests j)
    obtain ⟨_, hrun⟩ := Txn.exec_eq_ok.mp hexec
    obtain ⟨rows, rows', hload, hload', hcall⟩ := serves (requests i) s.committed d' hrun
    have haccepts : (requests j).op.accepts rows.load.status = true := by
      rw [hfirst] at hreaches hstarted
      have hnext := hreaches.of_read.resolve_left hstarted
      rcases hgate s.committed with ⟨e, he⟩ | ⟨_, hsome, haccepts⟩
      · rw [he] at hnext
        exact absurd hnext.of_throw (hrunning e)
      · rwa [Option.some.inj (hload.symm.trans hsome)]
    have haccepts' := hguard ⟨a, hframe⟩ j hj ⟨p, hp, hstarted, hrunning⟩ rows' (by
      rw [LifecycleState.leaves, hleaves]
      exact hload')
    intro p' hp'
    obtain rfl := Frame.running.inj (hp.symm.trans hp')
    exact Or.inr (reaches_after_commit hreaches hload hload' hexec hcall haccepts haccepts')
  · exact hon.idle hunder

section Orderly

/-- The traces that a dispatch and a cancellation leave on a Load. -/
def LoadRows.milestones (rows : LoadRows) : Option DispatchRecord × Option Instant :=
  (rows.dispatchRecord, rows.load.cancelledAt)

lemma milestones_untracked : LoadRows.Untracked LoadRows.milestones :=
  ⟨fun _ _ => rfl, fun _ _ => rfl, fun _ _ => rfl⟩

lemma exec_milestones {c : Call} (h : c.exec rows = .ok rows') :
    (rows'.dispatchRecord = rows.dispatchRecord ∨ ∃ dto, c.op = .dispatch dto) ∧
      (rows'.load.cancelledAt = rows.load.cancelledAt ∨ ∃ dto, c.op = .cancelLoad dto) := by
  have hsame (hmilestones : rows'.milestones = rows.milestones) :
      (rows'.dispatchRecord = rows.dispatchRecord ∨ ∃ dto, c.op = .dispatch dto) ∧
        (rows'.load.cancelledAt = rows.load.cancelledAt ∨ ∃ dto, c.op = .cancelLoad dto) :=
    ⟨Or.inl (Prod.mk.inj hmilestones).1, Or.inl (Prod.mk.inj hmilestones).2⟩
  obtain ⟨r, q, op⟩ := c
  cases op with
  | beginSourcing =>
    simp only [Call.exec, Call.execOn, CarrierSourcingService.beginSourcing, LoadRows.found_some, ok_bind, bind_eq_ok,
      pure_eq_ok] at h
    obtain ⟨_, _, rfl⟩ := h
    exact hsame rfl
  | assignCarrier dto =>
    simp only [Call.exec, Call.execOn, CarrierSourcingService.assignCarrier, LoadRows.found_some, ok_bind, bind_eq_ok,
      pure_eq_ok] at h
    obtain ⟨_, _, _, _, _, _, _, _, rfl⟩ := h
    refine hsame ?_
    unfold LoadRows.notifyOnce CarrierSourcingService.createOriginalCarrierLinehaulCharge
    cases r.findType (q.order 0) "LINEHAUL" r.chargeTypes <;> dsimp only <;> split <;> rfl
  | carrierRejected dto =>
    simp only [Call.exec, Call.execOn, CarrierSourcingService.carrierRejected, LoadRows.found_some, ok_bind, bind_eq_ok,
      pure_eq_ok] at h
    obtain ⟨_, _, rfl⟩ := h
    refine hsame ?_
    unfold CarrierSourcingService.removeOriginalCarrierLinehaulCharge
    split <;> rfl
  | generateRateConfirmation dto =>
    simp only [Call.exec, Call.execOn, CarrierSourcingService.generateRateConfirmation, LoadRows.found_some, ok_bind,
      bind_eq_ok, pure_eq_ok] at h
    obtain ⟨_, _, _, _, _, _, _, _, rfl⟩ := h
    refine hsame ?_
    split <;> rfl
  | dispatch dto =>
    simp only [Call.exec, Call.execOn, DispatchTrackingService.dispatch, LoadRows.found_some, ok_bind, bind_eq_ok,
      pure_eq_ok] at h
    obtain ⟨_, _, _, _, _, _, _, _, _, _, _, _, _, _, rfl⟩ := h
    exact ⟨Or.inr ⟨dto, rfl⟩, Or.inl rfl⟩
  | logCheckCall dto =>
    simp only [Call.exec, Call.execOn, DispatchTrackingService.logCheckCall, LoadRows.found_some, ok_bind, bind_eq_ok,
      pure_eq_ok] at h
    obtain ⟨_, _, rfl⟩ := h
    exact hsame rfl
  | closeLoad =>
    obtain ⟨⟨closed, checklist⟩, hclose, rfl⟩ := map_eq_ok.mp h
    simp only [LoadService.closeLoad, LoadRows.found_some, ok_bind, bind_eq_ok, pure_eq_ok, Prod.mk.injEq] at hclose
    obtain ⟨_, _, rfl, _⟩ := hclose
    exact hsame rfl
  | cancelLoad dto =>
    simp only [Call.exec, Call.execOn, LoadService.cancelLoad, LoadRows.found_some, ok_bind, bind_eq_ok, pure_eq_ok] at h
    obtain ⟨_, _, rfl⟩ := h
    refine ⟨Or.inl ?_, Or.inr ⟨dto, rfl⟩⟩
    split
    · rfl
    · unfold LoadRows.notifyOnce
      split <;> rfl
  | _ => exact hsame (exec_untracked milestones_untracked h trivial)

lemma Effect.status_cases {c : Call} (h : Effect c rows rows') :
    Edge c.op rows.load.status rows'.load.status ∨ rows'.load.status = rows.load.status ∨
      rows.load.status ∈ LoadStatusDerivationService.derivableStatuses ∧
        (rows'.load.status ∈ LoadStatusDerivationService.derivableStatuses ∨ rows'.load.status = .delivered) := by
  have hderived (hd : DispatchTrackingService.Derived rows rows') : rows'.load.status = rows.load.status ∨
      rows.load.status ∈ LoadStatusDerivationService.derivableStatuses ∧
        (rows'.load.status ∈ LoadStatusDerivationService.derivableStatuses ∨ rows'.load.status = .delivered) := by
    by_cases hstatus : rows.load.status ∈ LoadStatusDerivationService.derivableStatuses
    · obtain ⟨stops, _, hderived⟩ := hd
      rw [hderived]
      exact Or.inr ⟨hstatus, LoadStatusDerivationService.deriveLoadStatus_mem stops hstatus⟩
    · exact Or.inl (hd.of_not_derivable hstatus)
  cases h with
  | workflow edge _ => exact Or.inl edge
  | unmoved status _ => exact Or.inr (Or.inl status)
  | arrival _ moved => exact Or.inr (hderived moved.derived)
  | departure _ moved => exact Or.inr (hderived moved.derived)
  | edit _ derived _ => exact Or.inr (hderived derived)
  | returned _ pair => exact Or.inr (hderived pair.derived)

def undispatchedStatuses : List LoadStatus := .cancelled :: LoadService.cancellableStatuses

structure Orderly (rows : LoadRows) : Prop where
  undispatched : rows.load.status ∈ undispatchedStatuses → rows.dispatchRecord = none
  cancelled : rows.load.cancelledAt.isSome → rows.load.status = .cancelled ∨ rows.load.status = .closed

lemma Edge.undispatched {op : LoadOp} {status status' : LoadStatus} (h : Edge op status status')
    (hstatus : status' ∈ undispatchedStatuses) : status ∈ undispatchedStatuses := by
  cases h with
  | cancelLoad hmem => exact List.mem_cons_of_mem _ hmem
  | dispatch => exact absurd hstatus (by decide)
  | closeLoad => exact absurd hstatus (by decide)
  | _ => decide

lemma Edge.cancelled_or_closed {op : LoadOp} {status status' : LoadStatus} (h : Edge op status status')
    (hstatus : status = .cancelled ∨ status = .closed) : status' = .closed := by
  rcases hstatus with rfl | rfl
  · obtain rfl := h.from_cancelled
    cases h
    rfl
  · exact absurd h Edge.not_from_closed

lemma undispatched_not_tracked {status : LoadStatus} (h : status ∈ undispatchedStatuses) :
    status ∉ LoadStatusDerivationService.derivableStatuses ∧ status ≠ .delivered := by
  revert h
  cases status <;> decide

lemma Orderly.exec {c : Call} (hs : Orderly rows) (h : c.exec rows = .ok rows') : Orderly rows' := by
  obtain ⟨hrecord, hcancel⟩ := exec_milestones h
  have heffect := (exec_effect h).status_cases
  obtain ⟨r, q, op⟩ := c
  constructor
  · intro hstatus
    have hbefore : rows.load.status ∈ undispatchedStatuses := by
      rcases heffect with hedge | hsame | ⟨_, htracked⟩
      · exact hedge.undispatched hstatus
      · rwa [← hsame]
      · obtain ⟨hnot, hne⟩ := undispatched_not_tracked hstatus
        exact (htracked.elim hnot hne).elim
    rcases hrecord with hrecord | ⟨dto, rfl⟩
    · rw [hrecord]
      exact hs.undispatched hbefore
    · rw [(DispatchTrackingService.dispatch_ok h).2.1] at hstatus
      exact absurd hstatus (by decide)
  · intro hsome
    rcases hcancel with hcancel | ⟨dto, rfl⟩
    · rw [hcancel] at hsome
      have hbefore := hs.cancelled hsome
      rcases heffect with hedge | hsame | ⟨htracked, _⟩
      · exact Or.inr (hedge.cancelled_or_closed hbefore)
      · rwa [hsame]
      · rcases hbefore with hbefore | hbefore <;> exact absurd (hbefore ▸ htracked) (by decide)
    · exact Or.inl (LoadService.cancelLoad_ok h).2.1

def Call.FindsLinehaul (linehaul : Option TypeDefinition) (c : Call) : Prop :=
  match c.op with
  | .assignCarrier _ => c.reference.findType (c.request.order 0) "LINEHAUL" c.reference.chargeTypes = linehaul
  | .carrierRejected _ => c.reference.findType (c.request.order 1) "LINEHAUL" c.reference.chargeTypes = linehaul
  | _ => True

structure SingleCharge (linehaul : Option TypeDefinition) (rows : LoadRows) : Prop where
  sought : rows.load.status = .booked ∨ rows.load.status = .carrierSourcing → rows.carrierOriginals = []
  single : rows.carrierOriginals.length ≤ 1
  type : ∀ charge ∈ rows.carrierOriginals, linehaul.map TypeDefinition.id = some charge.chargeTypeId

lemma SingleCharge.exec {linehaul : Option TypeDefinition} {c : Call} (hs : SingleCharge linehaul rows)
    (hfinds : c.FindsLinehaul linehaul) (h : c.exec rows = .ok rows') : SingleCharge linehaul rows' := by
  by_cases hop : c.op.Reassigns
  · obtain ⟨r, q, op⟩ := c
    cases op with
    | assignCarrier dto =>
      obtain ⟨hbefore, hafter, _⟩ := CarrierSourcingService.assignCarrier_ok h
      have hnone := hs.sought (Or.inr hbefore)
      have hcharges := originals_of_charges (assignCarrier_charges h).2.2
      have hsought : ¬ (rows'.load.status = .booked ∨ rows'.load.status = .carrierSourcing) := by simp [hafter]
      rcases created_originals r q rows dto.carrierRate.cents with ⟨hsame, _⟩ | ⟨charge, _, htype, horiginals⟩
      · rw [hsame, hnone] at hcharges
        exact ⟨fun hstatus => absurd hstatus hsought, by simp [hcharges], by simp [hcharges]⟩
      · rw [horiginals, hnone, List.nil_append] at hcharges
        refine ⟨fun hstatus => absurd hstatus hsought, by simp [hcharges], fun charge' hmem => ?_⟩
        rw [hcharges, List.mem_singleton] at hmem
        rw [hmem, ← htype]
        exact congrArg (Option.map _) (Eq.symm hfinds)
    | carrierRejected dto =>
      have hcharges := originals_of_charges (carrierRejected_charges h).2
      have hnone : rows'.carrierOriginals = [] := by
        refine hcharges.trans (List.eq_nil_iff_forall_not_mem.mpr (fun charge hmem => ?_))
        obtain ⟨hold, hkept⟩ := mem_removed.mp hmem
        rw [show r.findType (q.order 1) "LINEHAUL" r.chargeTypes = linehaul from hfinds] at hkept
        exact hkept (hs.type charge hold)
      exact ⟨fun _ => hnone, by simp [hnone], by simp [hnone]⟩
    | _ => exact hop.elim
  · have hcharges := originals_of_charges (LoadRows.terms_charges (exec_terms h hop))
    refine ⟨fun hstatus => ?_, hcharges ▸ hs.single, hcharges ▸ hs.type⟩
    rw [hcharges]
    exact hs.sought ((exec_unassigned h hop).1 hstatus)

lemma booked_orderly {sequences : List ℤ} (h : Booked sequences rows) : Orderly rows := by
  obtain ⟨r, q, params, audit, h⟩ := booked_created h
  have hload := (createFromBooking_ok h).1
  simp only [LoadService.createFromBooking, bind_eq_ok, pure_eq_ok] at h
  obtain ⟨_, _, _, _, created, hcreated, rfl⟩ := h
  obtain ⟨hrecord, _⟩ := Prod.mk.inj (milestones_untracked.createStops hcreated)
  refine ⟨fun _ => ?_, fun hsome => ?_⟩
  · unfold LoadService.createOriginalCustomerLinehaulCharge
    split <;> exact hrecord
  · rw [hload] at hsome
    cases hsome

lemma booked_singleCharge {sequences : List ℤ} (linehaul : Option TypeDefinition) (h : Booked sequences rows) :
    SingleCharge linehaul rows := by
  have hnone := (booked_charges h).2
  exact ⟨fun _ => hnone, by simp [hnone], by simp [hnone]⟩

omit [DecidableEq I] in
lemma serial_keeps {P : LoadRows → Prop} {order : List I}
    (hP : ∀ i d rows rows', P rows → ((requests i).call d).exec rows = .ok rows' → P rows')
    (h : order.foldlM (fun d i => (requests i).transaction.exec SourcingDb.writeLifecycle d) d₀ = .ok d)
    (hload : d₀.load = some rows₀) (hstart : P rows₀) : ∃ rows, d.load = some rows ∧ P rows := by
  refine foldlM_exec_invariant (P := fun d => ∃ rows, d.load = some rows ∧ P rows) (fun i d d' hd hexec => ?_)
    ⟨rows₀, hload, hstart⟩ h
  obtain ⟨rows, hrows, hkept⟩ := hd
  obtain ⟨_, hrun⟩ := Txn.exec_eq_ok.mp hexec
  obtain ⟨before, after, hbefore, hafter, hcall⟩ := serves (requests i) d d' hrun
  obtain rfl := Option.some.inj (hrows.symm.trans hbefore)
  exact ⟨after, hafter, hP i d _ _ hkept hcall⟩

end Orderly

theorem lifecycle_serial {lost : AppError} {es : List (Event I)} {s : LifecycleState I}
    (h : Run (Guarded (Enabled (ReadCommitted.step (lifecycleCode lost))) (StillAccepted requests))
      (begin d₀ (fun i => .running (requests i).transaction)) es s) :
    (∃ order, SerialFrom SourcingDb.writeLifecycle (fun i => (requests i).transaction) d₀ order s) ∧
    ∀ sequences booked calls rows₀, Booked sequences booked → Run Served booked calls rows₀ → d₀.load = some rows₀ →
      ∃ rows, s.committed.load = some rows ∧
        ¬ (rows.load.status = .cancelled ∧ rows.dispatchRecord.isSome) ∧
        ¬ (rows.load.status ≠ .cancelled ∧ rows.load.status ≠ .closed ∧ rows.load.cancelledAt.isSome) ∧
        ∀ linehaul, (∀ c ∈ calls, c.FindsLinehaul linehaul) →
          (∀ i d, ((requests i).call d).FindsLinehaul linehaul) → rows.carrierOriginals.length ≤ 1 := by
  obtain ⟨order, hserial⟩ := serial_run_of stillAccepted_keepsCourse h
  refine ⟨⟨order, hserial⟩, fun sequences booked calls rows₀ hbooked hcalls hload => ?_⟩
  have hstart := serving_invariant (fun _ _ _ hs h => Orderly.exec hs h) hcalls (booked_orderly hbooked)
  obtain ⟨rows, hrows, horderly⟩ := serial_keeps (fun _ _ _ _ hs h => Orderly.exec hs h) hserial.committed hload hstart
  refine ⟨rows, hrows, fun ⟨hstatus, hsome⟩ => ?_, fun ⟨hnot, hnot', hsome⟩ => ?_, fun linehaul hcharged hfinds => ?_⟩
  · rw [horderly.undispatched (by rw [hstatus]; decide)] at hsome
    cases hsome
  · exact (horderly.cancelled hsome).elim hnot hnot'
  · have hguarded : Run (Guarded Served (fun _ c => c ∈ calls)) booked calls rows₀ := hcalls.guarded (fun c hc _ => hc)
    have hsingle₀ := hguarded.invariant (P := SingleCharge linehaul) (fun s c t hs ht => ?_)
      (booked_singleCharge linehaul hbooked)
    · obtain ⟨rows', hrows', hsingle⟩ :=
        serial_keeps (fun i d _ _ hs h => SingleCharge.exec hs (hfinds i d) h) hserial.committed hload hsingle₀
      obtain rfl := Option.some.inj (hrows.symm.trans hrows')
      exact hsingle.single
    · rcases served_cases ht.1 with rfl | hexec
      · exact hs
      · exact hs.exec (hcharged c ht.2) hexec

namespace Sample

def activeCarrier : Carriers.Carrier :=
  { id := 5, mcNumber := "MC-5", dotNumber := "DOT-5", status := .active, assignmentEligible := true
    ineligibilityReasons := some [] }

def sourcingDb (rows : LoadRows) : SourcingDb where
  carriers := { Carriers.Sample.compliant with carriers := ⟨[activeCarrier], List.nodup_singleton _⟩ }
  contact _ := ⟨"Carrier", "dispatch@carrier"⟩
  load := some rows

def ofTypes (types : List TypeDefinition) : Reference := { reference with chargeTypes := types }

def lifecycleRequest (n : ℕ) (op : LifecycleOp) : LifecycleRequest :=
  ⟨ofTypes [⟨4, none, "LINEHAUL"⟩], { request n with now := 50 }, op⟩

def pair (first second : LifecycleOp) : Fin 2 → LifecycleRequest :=
  ![lifecycleRequest 20 first, lifecycleRequest 21 second]

def lost : AppError := .database "Connection lost."

def starting (rows : LoadRows) (requests : Fin 2 → LifecycleRequest) : LifecycleState (Fin 2) :=
  begin (sourcingDb rows) (fun i => .running (requests i).transaction)

def steps (n : ℕ) (i : Fin 2) : List (Event (Fin 2)) := List.replicate n (.advance i)

def outcome (rows : LoadRows) (requests : Fin 2 → LifecycleRequest) (events : List (Event (Fin 2))) :
    Option (LifecycleState (Fin 2)) :=
  events.foldlM (ReadCommitted.step (lifecycleCode lost)) (starting rows requests)

def sourced : LoadRows := serve booked 2 [.beginSourcing]

def confirmed : LoadRows := serve booked 2 toRateConfirmation

def bothAssign : Fin 2 → LifecycleRequest := pair (.assignCarrier ⟨5, rate⟩) (.assignCarrier ⟨5, rate⟩)

lemma late_filled : 1 ≤ "Late".length := by decide

def dispatchAndCancel : Fin 2 → LifecycleRequest := pair (.dispatch dispatchInput) (.cancelLoad ⟨"Late", late_filled⟩)

def sourceAndCancel : Fin 2 → LifecycleRequest := pair .beginSourcing (.cancelLoad ⟨"Late", late_filled⟩)

def isAnswered : Frame SourcingDb LifecycleRow LifecycleWrite AppError Unit → Bool
  | .running _ => false
  | .answered _ => true

def StillAcceptedNow (requests : Fin 2 → LifecycleRequest) (s : LifecycleState (Fin 2)) : Event (Fin 2) → Prop
  | .advance i => ∀ j ≠ i, isAnswered (s.session j).frame = false →
    ∀ rows ∈ (LifecycleState.leaves s i).load, (requests j).op.accepts rows.load.status = true
  | .fail _ => True

instance (requests : Fin 2 → LifecycleRequest) (s : LifecycleState (Fin 2)) (e : Event (Fin 2)) :
    Decidable (StillAcceptedNow requests s e) := by
  cases e <;> unfold StillAcceptedNow <;> infer_instance

lemma StillAcceptedNow.stillAccepted {requests : Fin 2 → LifecycleRequest} {s : LifecycleState (Fin 2)}
    {e : Event (Fin 2)} (h : StillAcceptedNow requests s e) : StillAccepted requests s e := by
  cases e with
  | fail i => trivial
  | advance i =>
    intro _ j hj hunder
    obtain ⟨p, hp, _⟩ := hunder
    exact h j hj (by rw [hp]; rfl)

lemma outcome_run {rows : LoadRows} {requests : Fin 2 → LifecycleRequest} {events : List (Event (Fin 2))}
    {P : LoadRows → Prop} [DecidablePred P]
    (h : (outcome rows requests events).any (fun s => s.committed.load.any (fun rows => P rows)) = true) :
    ∃ s rows', Run (Enabled (ReadCommitted.step (lifecycleCode lost))) (starting rows requests) events s ∧
      s.committed.load = some rows' ∧ P rows' := by
  obtain ⟨s, hs, hend⟩ := (Option.any_eq_true _ _).mp h
  obtain ⟨rows', hload, hrows⟩ := (Option.any_eq_true _ _).mp hend
  exact ⟨s, rows', (run_enabled_iff _ _ _ _).mpr hs, hload, of_decide_eq_true hrows⟩

end Sample

open Sample

/-- A cancellation that has read BOOKED ends after the Load has entered sourcing. -/
theorem lifecycle_serial_sample : ∃ s, Run (Enabled (ReadCommitted.step (lifecycleCode lost)))
      (starting booked sourceAndCancel) (steps 1 1 ++ steps 4 0 ++ steps 3 1) s ∧
    (∃ order, SerialFrom SourcingDb.writeLifecycle (fun i => (sourceAndCancel i).transaction) (sourcingDb booked) order s) ∧
    ∃ rows, s.committed.load = some rows ∧ ¬ (rows.load.status = .cancelled ∧ rows.dispatchRecord.isSome) ∧
      ¬ (rows.load.status ≠ .cancelled ∧ rows.load.status ≠ .closed ∧ rows.load.cancelledAt.isSome) ∧
      rows.carrierOriginals.length ≤ 1 := by
  have hsome : ((steps 1 1 ++ steps 4 0 ++ steps 3 1).foldlM (checked (ReadCommitted.step (lifecycleCode lost))
      (StillAcceptedNow sourceAndCancel)) (starting booked sourceAndCancel)).isSome = true := by decide +kernel
  obtain ⟨s, hs⟩ := Option.isSome_iff_exists.mp hsome
  have hguarded : Run (Guarded (Enabled (ReadCommitted.step (lifecycleCode lost))) (StillAccepted sourceAndCancel))
      (starting booked sourceAndCancel) (steps 1 1 ++ steps 4 0 ++ steps 3 1) s :=
    (run_checked hs).mono (fun _ _ _ he => ⟨he.1, he.2.stillAccepted⟩)
  have hfinds (i : Fin 2) (d : SourcingDb) : ((sourceAndCancel i).call d).FindsLinehaul none := by
    fin_cases i <;> trivial
  obtain ⟨hserial, hrest⟩ := lifecycle_serial hguarded
  obtain ⟨rows, hrows, hcancelled, htraces, hcharges⟩ := hrest _ booked [] booked (.direct booked_eq) (.nil booked) rfl
  exact ⟨s, hguarded.unguarded, hserial, rows, hrows, hcancelled, htraces,
    hcharges none (fun c hc => absurd hc List.not_mem_nil) hfinds⟩

theorem status_test_outdated :
    (∃ s rows, Run (Enabled (ReadCommitted.step (lifecycleCode lost))) (starting sourced bothAssign)
      (steps 1 1 ++ steps 14 0 ++ steps 13 1) s ∧ s.committed.load = some rows ∧ rows.carrierOriginals.length = 2) ∧
    (∃ s rows, Run (Enabled (ReadCommitted.step (lifecycleCode lost))) (starting confirmed dispatchAndCancel)
      (steps 1 1 ++ steps 11 0 ++ steps 3 1) s ∧ s.committed.load = some rows ∧
        rows.load.status = .cancelled ∧ rows.dispatchRecord.isSome) ∧
    (∃ s rows, Run (Enabled (ReadCommitted.step (lifecycleCode lost))) (starting confirmed dispatchAndCancel)
      (steps 1 0 ++ steps 4 1 ++ steps 10 0) s ∧ s.committed.load = some rows ∧
        rows.load.status = .dispatched ∧ rows.load.cancelledAt.isSome) :=
  ⟨outcome_run (P := fun rows => rows.carrierOriginals.length = 2) (by decide +kernel),
    outcome_run (P := fun rows => rows.load.status = .cancelled ∧ rows.dispatchRecord.isSome) (by decide +kernel),
    outcome_run (P := fun rows => rows.load.status = .dispatched ∧ rows.load.cancelledAt.isSome) (by decide +kernel)⟩

end Truckmaster.QuoteLoad
