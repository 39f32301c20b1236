import Truckmaster.Billing.InvoiceSessions

namespace Truckmaster.Billing

open Common Fallible QuoteLoad ReadCommitted Runs Tables InvoiceService BillingDb

variable (label : Uuid → String) {d d' : BillingDb} {q : Request} {dto : CreateInvoiceInput} {id : Uuid}
  {rows : InvoiceRows} {ids : List Uuid} {e : AppError} {last : InvoiceFrame}

lemma updateLoads_alone (d : BillingDb) (r : InvoiceRequest) (pending : List Uuid) (ws : List BillingWrite) :
    Alone (invoiceCode label) d ⟨.updateLoads r pending, ws⟩
      ((invoiceCode label).applyAll (ws ++ pending.map (.setInvoiced r.invoiced)) d) (.done none) := by
  induction pending generalizing ws with
  | nil =>
    rw [List.map_nil, List.append_nil]
    exact .commit rfl
  | cons id pending ih =>
    have hrest := ih (ws ++ [.setInvoiced r.invoiced id])
    rw [List.append_assoc] at hrest
    exact .moves rfl hrest

def upsertWrites (d : BillingDb) : List BillingWrite := if d.invoiceSequence = none then [.setSequence 0] else []

def nextNumber (d : BillingDb) : ℕ := d.invoiceSequence.getD 0 + 1

def numberWrites (d : BillingDb) : List BillingWrite := upsertWrites d ++ [.setSequence (nextNumber d)]

lemma upserted (d : BillingDb) :
    ((invoiceCode label).applyAll (upsertWrites d) d).invoiceSequence.getD 0 = d.invoiceSequence.getD 0 := by
  unfold upsertWrites
  split_ifs with h
  · rw [h]
    rfl
  · rfl

lemma numberWrites_frame (d : BillingDb) :
    (invoiceCode label).applyAll (numberWrites d) d = { d with invoiceSequence := some (nextNumber d) } := by
  rw [numberWrites, upsertWrites]
  split_ifs <;> rfl

variable {label}

lemma findLoads_alone (hassert : assertInvoiceable dto (d.findLoads q dto) = .ok ())
    (h : Alone (invoiceCode label) d ⟨.insertInvoice q dto (d.findLoads q dto) (nextNumber d), numberWrites d⟩
      d' last) :
    Alone (invoiceCode label) d ⟨.findLoads q dto, []⟩ d' last := by
  have hupdate : Alone (invoiceCode label) d ⟨.updateSequence q dto (d.findLoads q dto) (nextNumber d), upsertWrites d⟩
      d' last := .writes rfl h
  have hlock : Alone (invoiceCode label) d ⟨.lockSequence q dto (d.findLoads q dto), upsertWrites d⟩ d' last := by
    refine .reads ?_ hupdate
    exact congrArg (fun n => some (InvoiceFrame.updateSequence q dto (d.findLoads q dto) (n + 1), []))
      (upserted label d)
  have hupsert : Alone (invoiceCode label) d ⟨.upsertSequence q dto (d.findLoads q dto), []⟩ d' last :=
    .writes rfl hlock
  refine .reads ?_ hupsert
  simp only [invoiceCode, invoiceStatement, Action.moves, Code.applyAll_nil, hassert]

lemma create_alone (h : create label q (d.invoiceSequence.getD 0) d.loads.rows dto = .ok rows)
    (hid : rows.invoice.id ∉ d.invoices.rows.map (fun a => a.invoice.id))
    (hnumber : rows.invoice.invoiceNumber ∉ d.invoices.rows.map (fun a => a.invoice.invoiceNumber)) :
    ∃ d' : BillingDb, Alone (invoiceCode label) d ⟨.findLoads q dto, []⟩ d' (.done none) ∧
      d'.invoiceSequence = some (nextNumber d) ∧ d'.invoices.rows = d.invoices.rows ++ [rows] ∧
      d'.loads.rows = d.loads.rows.map (fun l => if l.load.id ∈ dto.loadIds then l.withInvoiced true else l) := by
  simp only [create, bind_eq_ok, ensure_eq_ok, pure_eq_ok] at h
  obtain ⟨_, hassert, _, hfits, hrows⟩ := h
  obtain ⟨invoices, hinsert, happended⟩ := Table.insert_of_new hid
  let ids := (q.order 1).arrange dto.loadIds
  have hids (id : Uuid) : id ∈ ids ↔ id ∈ dto.loadIds := ((q.order 1).perm dto.loadIds).mem_iff
  let inserted : BillingDb := { d with invoiceSequence := some (nextNumber d), invoices := invoices }
  have hstatement : ((invoiceCode label).action (.insertInvoice q dto (d.findLoads q dto) (nextNumber d))).moves
      ((invoiceCode label).applyAll (numberWrites d) d) =
        some (.updateLoads (.create q dto) ids, [.insertInvoice rows]) := by
    rw [numberWrites_frame, ← hrows]
    rw [← hrows] at hid hnumber
    exact congrArg some ((if_pos hfits).trans (if_pos ⟨hid, hnumber⟩))
  have hend : (invoiceCode label).applyAll (numberWrites d ++ [.insertInvoice rows] ++ ids.map (.setInvoiced true)) d =
      (invoiceCode label).applyAll (ids.map (.setInvoiced true)) inserted := by
    rw [Code.applyAll_append, Code.applyAll_append, numberWrites_frame]
    have hwrite : write (.insertInvoice rows) { d with invoiceSequence := some (nextNumber d) } = inserted := by
      simp only [write, hinsert, Option.getD_some, inserted]
    exact congrArg _ hwrite
  obtain ⟨hinvoices, hsequence⟩ := flags_frame label true ids inserted
  refine ⟨(invoiceCode label).applyAll (ids.map (.setInvoiced true)) inserted, ?_, hsequence, ?_, ?_⟩
  · have hflags := updateLoads_alone label d (.create q dto) ids (numberWrites d ++ [.insertInvoice rows])
    rw [show (InvoiceRequest.create q dto).invoiced = true from rfl, hend] at hflags
    exact findLoads_alone hassert (.writes hstatement hflags)
  · rw [hinvoices]
    exact happended
  · rw [flags_loads]
    apply List.map_congr_left
    intro l _
    simp only [hids]

lemma create_refused_alone (h : create label q (d.invoiceSequence.getD 0) d.loads.rows dto = .error e) :
    Alone (invoiceCode label) d ⟨.findLoads q dto, []⟩ d (.done (some e)) := by
  simp only [create, bind_eq_error, ensure_eq_error, pure_ne_error, and_false, exists_false, or_false] at h
  rcases h with hrefused | ⟨_, hassert, hfits, rfl⟩
  · have hback : Alone (invoiceCode label) d ⟨.rollback e, []⟩ d (.done (some e)) := .rollback rfl
    refine .reads ?_ hback
    have hread : assertInvoiceable dto (d.findLoads q dto) = .error e := hrefused
    simp only [invoiceCode, invoiceStatement, Action.moves, Code.applyAll_nil, hread]
  · have hback : Alone (invoiceCode label) d ⟨.rollback (.database "Numeric field overflow."), numberWrites d⟩ d
        (.done (some (.database "Numeric field overflow."))) := .rollback rfl
    refine findLoads_alone hassert (.reads ?_ hback)
    exact congrArg some (if_neg hfits)

lemma findInvoice_order (o o' : RowOrder) : d.findInvoice o id = d.findInvoice o' id := by
  cases h : d.findInvoice o id with
  | none =>
    symm
    rw [findInvoice, findFirst_none] at h ⊢
    exact h
  | some a =>
    obtain ⟨ha, hida⟩ := findFirst_some h
    cases h' : d.findInvoice o' id with
    | none => exact absurd hida (by simp [findFirst_none.mp h' a ha])
    | some b =>
      obtain ⟨hb, hidb⟩ := findFirst_some h'
      rw [d.invoices.eq_of_key ha hb ((eq_of_beq hida).trans (eq_of_beq hidb).symm)]

lemma void_alone (h : InvoiceService.void q (d.findInvoice (q.order 0) id) = .ok (rows, ids)) :
    ∃ d' : BillingDb, Alone (invoiceCode label) d ⟨.findInvoice q id, []⟩ d' (.done none) ∧
      d'.invoiceSequence = d.invoiceSequence ∧
      d'.invoices.rows = d.invoices.rows.map (fun a => if a.invoice.id = id then rows else a) ∧
      d'.loads.rows = d.loads.rows.map (fun l => if l.load.id ∈ ids then l.withInvoiced false else l) := by
  have hread := h
  simp only [InvoiceService.void, bind_eq_ok, ensure_eq_ok, pure_eq_ok, InvoiceRows.found, require_eq_ok,
    Prod.mk.injEq] at h
  obtain ⟨existing, hfound, _, _, rfl, rfl⟩ := h
  let flags := (q.order 2).arrange existing.loadIds
  have hflags (x : Uuid) : x ∈ flags ↔ x ∈ existing.loadIds := ((q.order 2).perm existing.loadIds).mem_iff
  have hids : ((d.findInvoice (q.order 1) id).map InvoiceRows.loadIds).getD [] = existing.loadIds := by
    rw [findInvoice_order (q.order 1) (q.order 0), hfound]
    rfl
  have hupdate : Alone (invoiceCode label) d ⟨.updateInvoice q id existing.loadIds, []⟩
      ((invoiceCode label).applyAll (.setVoid q id :: flags.map (.setInvoiced false)) d) (.done none) :=
    .writes rfl (updateLoads_alone label d (.void q id) flags [.setVoid q id])
  have hloads : Alone (invoiceCode label) d ⟨.findInvoiceLoads q id, []⟩
      ((invoiceCode label).applyAll (.setVoid q id :: flags.map (.setInvoiced false)) d) (.done none) :=
    .reads (congrArg (fun loadIds => some (InvoiceFrame.updateInvoice q id loadIds, [])) hids) hupdate
  obtain ⟨hinvoices, hsequence⟩ := flags_frame label false flags (write (.setVoid q id) d)
  refine ⟨_, .reads ?_ hloads, hsequence, ?_, ?_⟩
  · simp only [invoiceCode, invoiceStatement, Action.moves, Code.applyAll_nil, hread]
  · rw [Code.applyAll_cons]
    have hrows : (write (.setVoid q id) d).invoices.rows =
        d.invoices.rows.map (fun a => if a.invoice.id = id then voided q a else a) :=
      Table.update_rows d.invoices id (voided q) (voided_id q)
    refine (congrArg Table.rows hinvoices).trans (hrows.trans ?_)
    apply List.map_congr_left
    intro a ha
    split_ifs with hid
    · obtain ⟨hexisting, hfoundid⟩ := findFirst_some hfound
      rw [d.invoices.eq_of_key ha hexisting (hid.trans (eq_of_beq hfoundid).symm)]
    · rfl
  · rw [Code.applyAll_cons]
    refine (flags_loads label false flags _).trans ?_
    apply List.map_congr_left
    intro l _
    simp only [hflags]

lemma void_found (h : InvoiceService.void q (d.findInvoice (q.order 0) id) = .ok (rows, ids)) :
    ∃ a ∈ d.invoices.rows, a.invoice.id = id := by
  simp only [InvoiceService.void, bind_eq_ok, InvoiceRows.found, require_eq_ok] at h
  obtain ⟨existing, hfound, _⟩ := h
  obtain ⟨hrow, hid⟩ := findFirst_some hfound
  exact ⟨existing, hrow, eq_of_beq hid⟩

lemma void_refused_alone (h : InvoiceService.void q (d.findInvoice (q.order 0) id) = .error e) :
    Alone (invoiceCode label) d ⟨.findInvoice q id, []⟩ d (.done (some e)) := by
  have hback : Alone (invoiceCode label) d ⟨.rollback e, []⟩ d (.done (some e)) := .rollback rfl
  refine .reads ?_ hback
  simp only [invoiceCode, invoiceStatement, Action.moves, Code.applyAll_nil, h]

def InvoiceRequest.serve (label : Uuid → String) (d : BillingDb) :
    InvoiceRequest → Except AppError (InvoiceRows × List Uuid)
  | .create q dto => (fun rows => (rows, dto.loadIds)) <$>
    InvoiceService.create label q (d.invoiceSequence.getD 0) d.loads.rows dto
  | .void q id => InvoiceService.void q (d.findInvoice (q.order 0) id)

def InvoiceRequest.Fresh (d : BillingDb) (rows : InvoiceRows) : InvoiceRequest → Prop
  | .create _ _ => rows.invoice.id ∉ d.invoices.rows.map (fun a => a.invoice.id) ∧
      rows.invoice.invoiceNumber ∉ d.invoices.rows.map (fun a => a.invoice.invoiceNumber)
  | .void _ _ => True

variable {I : Type*} [DecidableEq I] {requests : I → InvoiceRequest} {i : I}

theorem uninterrupted_request_served (h : (requests i).serve label d = .ok (rows, ids))
    (hfresh : (requests i).Fresh d rows) :
    ∃ n t, Run (Enabled (step (invoiceCode label))) (begin d (fun j => (requests j).start))
        (List.replicate n (.advance i)) t ∧
      (t.session i).frame = .done none ∧ rows ∈ t.committed.invoices.rows ∧
      t.committed.loads.rows = d.loads.rows.map (fun l =>
        if l.load.id ∈ ids then l.withInvoiced (requests i).invoiced else l) := by
  have halone : ∃ d' : BillingDb, Alone (invoiceCode label) d ⟨(requests i).start, []⟩ d' (.done none) ∧
      rows ∈ d'.invoices.rows ∧ d'.loads.rows = d.loads.rows.map (fun l =>
        if l.load.id ∈ ids then l.withInvoiced (requests i).invoiced else l) := by
    cases hr : requests i with
    | create q dto =>
      rw [hr] at h hfresh
      obtain ⟨_, hcreate, hrows⟩ := map_eq_ok.mp h
      obtain ⟨rfl, rfl⟩ := Prod.mk.inj hrows
      obtain ⟨d', halone, _, hinvoices, hloads⟩ := create_alone hcreate hfresh.1 hfresh.2
      exact ⟨d', halone, by simp [hinvoices], hloads⟩
    | void q id =>
      rw [hr] at h
      obtain ⟨d', halone, _, hinvoices, hloads⟩ := void_alone h
      obtain ⟨a, ha, hid⟩ := void_found h
      refine ⟨d', halone, ?_, hloads⟩
      rw [hinvoices]
      exact List.mem_map.mpr ⟨a, ha, if_pos hid⟩
  obtain ⟨d', halone, hrows, hloads⟩ := halone
  obtain ⟨n, t, hrun, rfl, hsession⟩ := halone.run_begin (fun j => (requests j).start)
  exact ⟨n, t, hrun, congrArg Session.frame hsession, hrows, hloads⟩

theorem uninterrupted_request_refused (h : (requests i).serve label d = .error e) :
    ∃ n t, Run (Enabled (step (invoiceCode label))) (begin d (fun j => (requests j).start))
        (List.replicate n (.advance i)) t ∧
      (t.session i).frame = .done (some e) ∧ t.committed = d := by
  have halone : Alone (invoiceCode label) d ⟨(requests i).start, []⟩ d (.done (some e)) := by
    cases hr : requests i with
    | create q dto =>
      rw [hr] at h
      exact create_refused_alone (map_eq_error.mp h)
    | void q id =>
      rw [hr] at h
      exact void_refused_alone h
  obtain ⟨n, t, hrun, hcommitted, hsession⟩ := halone.run_begin (fun j => (requests j).start)
  exact ⟨n, t, hrun, congrArg Session.frame hsession, hcommitted⟩

end Truckmaster.Billing
