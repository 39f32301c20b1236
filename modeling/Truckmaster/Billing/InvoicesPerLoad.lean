import Truckmaster.Billing.InvoiceBalance
import Truckmaster.Billing.InvoiceSessions

namespace Truckmaster.Billing

open Common Fallible QuoteLoad ReadCommitted Runs Tables InvoiceService

variable {I : Type*} [DecidableEq I] {label : Uuid → String} {d : BillingDb} {ws : List BillingWrite}
  {dto : CreateInvoiceInput} {id : Uuid} {flags pending : List Uuid}

namespace BillingDb

def live (d : BillingDb) : List InvoiceRows := d.invoices.rows.filter (fun rows => rows.invoice.status ≠ .void)

def OneInvoicePerLoad (d : BillingDb) : Prop :=
  ∀ a ∈ d.live, ∀ b ∈ d.live, ∀ id ∈ a.loadIds, id ∈ b.loadIds → a.invoice.id = b.invoice.id

instance (d : BillingDb) : Decidable d.OneInvoicePerLoad :=
  inferInstanceAs (Decidable (∀ a ∈ d.live, ∀ b ∈ d.live, ∀ id ∈ a.loadIds, id ∈ b.loadIds →
    a.invoice.id = b.invoice.id))

structure Coherent (d : BillingDb) : Prop where
  one : d.OneInvoicePerLoad
  flagged : ∀ a ∈ d.live, ∀ id ∈ a.loadIds, ∃ l ∈ d.loads.rows, l.load.id = id ∧ l.load.invoiced = true

lemma mem_live {a : InvoiceRows} : a ∈ d.live ↔ a ∈ d.invoices.rows ∧ a.invoice.status ≠ .void := by
  simp [live]

def HasLoad (d : BillingDb) (id : Uuid) : Prop := id ∈ d.loads.rows.map (fun l => l.load.id)

def Bills (d : BillingDb) (id load : Uuid) : Prop :=
  ∃ rows ∈ d.invoices.rows, rows.invoice.id = id ∧ load ∈ rows.loadIds

lemma hasLoad_write (w : BillingWrite) {x : Uuid} (h : d.HasLoad x) : (write w d).HasLoad x := by
  cases w with
  | setInvoiced b id =>
    obtain ⟨l, hl, rfl⟩ := List.mem_map.mp h
    rw [HasLoad, write, setInvoiced_rows, List.map_map]
    refine List.mem_map.mpr ⟨l, hl, ?_⟩
    by_cases hid : l.load.id = id <;> simp [hid, BillableLoad.withInvoiced]
  | _ => exact h

lemma insert_getD (rows a : InvoiceRows) (h : a ∈ ((d.invoices.insert rows).getD d.invoices).rows) :
    a ∈ d.invoices.rows ∨ a = rows := by
  cases hinsert : d.invoices.insert rows with
  | none =>
    rw [hinsert] at h
    exact Or.inl h
  | some t =>
    rw [hinsert, Option.getD_some, Table.insert_rows hinsert] at h
    simpa using h

lemma insert_mono (rows : InvoiceRows) {a : InvoiceRows} (h : a ∈ d.invoices.rows) :
    a ∈ ((d.invoices.insert rows).getD d.invoices).rows := by
  cases hinsert : d.invoices.insert rows with
  | none => exact h
  | some t =>
    rw [Option.getD_some, Table.insert_rows hinsert]
    exact List.mem_append_left _ h

lemma mem_setVoid {q : Request} {k : Uuid} {a : InvoiceRows} : a ∈ (write (.setVoid q k) d).invoices.rows ↔
    (∃ rows ∈ d.invoices.rows, rows.invoice.id = k ∧ voided q rows = a) ∨ (a ∈ d.invoices.rows ∧ a.invoice.id ≠ k) :=
  Table.mem_update d.invoices k (voided q) (voided_id q)

lemma bills_write (w : BillingWrite) {load : Uuid} (h : d.Bills id load) : (write w d).Bills id load := by
  obtain ⟨rows, hrows, hid, hload⟩ := h
  cases w with
  | insertInvoice a => exact ⟨rows, insert_mono a hrows, hid, hload⟩
  | setVoid q k =>
    by_cases hk : rows.invoice.id = k
    · exact ⟨voided q rows, mem_setVoid.mpr (Or.inl ⟨rows, hrows, hk, rfl⟩), hid, hload⟩
    · exact ⟨rows, mem_setVoid.mpr (Or.inr ⟨hrows, hk⟩), hid, hload⟩
  | _ => exact ⟨rows, hrows, hid, hload⟩

end BillingDb

open BillingDb

def Numbering (ws : List BillingWrite) : Prop := ∀ w ∈ ws, ∃ n, w = .setSequence n

lemma Numbering.applyAll (h : Numbering ws) (label : Uuid → String) (d : BillingDb) :
    ((invoiceCode label).applyAll ws d).loads = d.loads ∧
      ((invoiceCode label).applyAll ws d).invoices = d.invoices := by
  induction ws generalizing d with
  | nil => exact ⟨rfl, rfl⟩
  | cons w ws ih =>
    obtain ⟨⟨n, rfl⟩, hrest⟩ := List.forall_mem_cons.mp h
    exact ih hrest (write (.setSequence n) d)

lemma Numbering.append {vs : List BillingWrite} (h : Numbering ws) (h' : Numbering vs) : Numbering (ws ++ vs) :=
  fun w hw => (List.mem_append.mp hw).elim (h w) (h' w)

structure Flagging (d : BillingDb) (dto : CreateInvoiceInput) (numbering : List BillingWrite) (rows : InvoiceRows)
    (flags pending : List Uuid) : Prop where
  numbering : Numbering numbering
  billed : ∀ id ∈ rows.loadIds, id ∈ dto.loadIds ∧ d.HasLoad id
  covered : ∀ id ∈ dto.loadIds, id ∈ flags ∨ id ∈ pending

def Billed (d : BillingDb) (dto : CreateInvoiceInput) (ws : List BillingWrite) (pending : List Uuid) : Prop :=
  ∃ (numbering : List BillingWrite) (rows : InvoiceRows) (flags : List Uuid),
    ws = numbering ++ .insertInvoice rows :: flags.map (.setInvoiced true) ∧
    Flagging d dto numbering rows flags pending

def Released (d : BillingDb) (id : Uuid) (ws : List BillingWrite) (pending : List Uuid) : Prop :=
  ∃ (q : Request) (flags : List Uuid), ws = .setVoid q id :: flags.map (.setInvoiced false) ∧
    ∀ load, load ∈ flags ∨ load ∈ pending → d.Bills id load

def Read (d : BillingDb) (dto : CreateInvoiceInput) (loads : List BillableLoad) : Prop :=
  ∀ l ∈ loads, l.load.id ∈ dto.loadIds ∧ d.HasLoad l.load.id

def Held (d : BillingDb) (x : Session InvoiceFrame BillingWrite) : Prop :=
  match x.frame with
  | .findLoads _ _ => Numbering x.writes
  | .upsertSequence _ dto loads => Numbering x.writes ∧ Read d dto loads
  | .lockSequence _ dto loads => Numbering x.writes ∧ Read d dto loads
  | .updateSequence _ dto loads _ => Numbering x.writes ∧ Read d dto loads
  | .insertInvoice _ dto loads _ => Numbering x.writes ∧ Read d dto loads
  | .findInvoice _ _ => x.writes = []
  | .findInvoiceLoads _ _ => x.writes = []
  | .updateInvoice _ id loadIds => x.writes = [] ∧ ∀ load ∈ loadIds, d.Bills id load
  | .updateLoads (.create _ dto) pending => Billed d dto x.writes pending
  | .updateLoads (.void _ id) pending => Released d id x.writes pending
  | .rollback _ => True
  | .done _ => True

lemma Read.write {loads : List BillableLoad} (h : Read d dto loads) (w : BillingWrite) : Read (write w d) dto loads :=
  fun l hl => ⟨(h l hl).1, hasLoad_write w (h l hl).2⟩

lemma held_write (x : Session InvoiceFrame BillingWrite) (w : BillingWrite) (h : Held d x) : Held (write w d) x := by
  obtain ⟨frame, ws⟩ := x
  cases frame with
  | upsertSequence | lockSequence | updateSequence | insertInvoice => exact ⟨h.1, h.2.write w⟩
  | updateInvoice => exact ⟨h.1, fun load hload => bills_write w (h.2 load hload)⟩
  | updateLoads r pending =>
    cases r with
    | create q dto =>
      obtain ⟨numbering, rows, flags, hws, hnumbering, hbilled, hcovered⟩ := h
      exact ⟨numbering, rows, flags, hws, hnumbering,
        fun id hid => ⟨(hbilled id hid).1, hasLoad_write w (hbilled id hid).2⟩, hcovered⟩
    | void q id =>
      obtain ⟨q', flags, hws, hbills⟩ := h
      exact ⟨q', flags, hws, fun load hload => bills_write w (hbills load hload)⟩
  | _ => exact h

lemma invoiceRows_loadIds (q : Request) (n : ℕ) (loads : List BillableLoad) :
    (invoiceRows label q dto n loads).loadIds = loads.map (fun l => l.load.id) := by
  simp only [invoiceRows, InvoiceRows.record, InvoiceRows.loadIds]
  split <;> simp

lemma assertInvoiceable_ids {loads : List BillableLoad} (h : Read d dto loads) (q : Request) (n : ℕ) :
    ∀ id ∈ (invoiceRows label q dto n loads).loadIds, id ∈ dto.loadIds ∧ d.HasLoad id := by
  intro id hid
  rw [invoiceRows_loadIds] at hid
  obtain ⟨l, hl, rfl⟩ := List.mem_map.mp hid
  exact h l hl

lemma found_bills {o : RowOrder} {load : Uuid}
    (h : load ∈ ((d.findInvoice o id).map InvoiceRows.loadIds).getD []) : d.Bills id load := by
  cases hfound : d.findInvoice o id with
  | none => simp [hfound] at h
  | some rows =>
    obtain ⟨hrows, hid⟩ := findFirst_some hfound
    rw [hfound] at h
    exact ⟨rows, hrows, eq_of_beq hid, h⟩

lemma held_statement {frame : InvoiceFrame} {r : InvoiceFrame × List BillingWrite} (h : Held d ⟨frame, ws⟩)
    (hr : (invoiceStatement label frame).moves ((invoiceCode label).applyAll ws d) = some r) :
    Held d ⟨r.1, ws ++ r.2⟩ := by
  cases frame with
  | findLoads q dto =>
    obtain rfl := Option.some.inj hr
    dsimp only
    rw [BillingDb.findLoads, (Numbering.applyAll h label d).1]
    split
    · refine ⟨(List.append_nil ws).symm ▸ h, fun l hl => ?_⟩
      obtain ⟨hrow, hid⟩ := mem_findMany.mp hl
      exact ⟨of_decide_eq_true hid, List.mem_map_of_mem hrow⟩
    · trivial
  | upsertSequence q dto loads =>
    obtain rfl := Option.some.inj hr
    refine ⟨h.1.append ?_, h.2⟩
    dsimp only
    split
    · exact fun w hw => ⟨0, List.mem_singleton.mp hw⟩
    · exact fun w hw => absurd hw List.not_mem_nil
  | lockSequence q dto loads =>
    obtain rfl := Option.some.inj hr
    exact ⟨h.1.append (by simp [Numbering]), h.2⟩
  | updateSequence q dto loads next =>
    obtain rfl := Option.some.inj hr
    exact ⟨h.1.append (by simp [Numbering]), h.2⟩
  | insertInvoice q dto loads next =>
    obtain rfl := Option.some.inj hr
    dsimp only
    split_ifs
    · refine ⟨ws, _, [], rfl, h.1, assertInvoiceable_ids h.2 q next, fun id hid => Or.inr ?_⟩
      exact ((q.order 1).perm _).mem_iff.mpr hid
    · trivial
    · trivial
  | findInvoice q id =>
    obtain rfl := Option.some.inj hr
    dsimp only
    split
    · exact (List.append_nil ws).trans h
    · trivial
  | findInvoiceLoads q id =>
    obtain rfl := Option.some.inj hr
    obtain rfl : ws = [] := h
    exact ⟨rfl, fun load hload => found_bills hload⟩
  | updateInvoice q id loadIds =>
    obtain rfl := Option.some.inj hr
    obtain ⟨rfl, hbills⟩ : ws = [] ∧ _ := h
    refine ⟨q, [], rfl, fun load hload => hbills load ?_⟩
    exact ((q.order 2).perm _).mem_iff.mp (hload.resolve_left (List.not_mem_nil))
  | updateLoads r pending =>
    cases pending with
    | nil => cases hr
    | cons id pending =>
      obtain rfl := Option.some.inj hr
      cases r with
      | create q dto =>
        obtain ⟨numbering, rows, flags, rfl, hnumbering, hbilled, hcovered⟩ := h
        refine ⟨numbering, rows, flags ++ [id], by simp [InvoiceRequest.invoiced], hnumbering, hbilled, ?_⟩
        intro x hx
        have := hcovered x hx
        simp only [List.mem_cons, List.mem_append, List.not_mem_nil, or_false] at this ⊢
        tauto
      | void q k =>
        obtain ⟨q', flags, rfl, hbills⟩ := h
        refine ⟨q', flags ++ [id], by simp [InvoiceRequest.invoiced], fun load hload => hbills load ?_⟩
        simp only [List.mem_cons, List.mem_append, List.not_mem_nil, or_false] at hload ⊢
        tauto
  | rollback e => cases hr
  | done e => cases hr

omit [DecidableEq I] in
lemma knows (label : Uuid → String) : Knows (invoiceCode label) (fun (_ : I) => Held) where
  stable _ _ x w h := held_write x w h
  statement _ _ _ _ _ h hr := held_statement h hr
  ending := by
    rintro i d f ws next h (hend | rfl)
    · cases f with
      | updateLoads r pending =>
        cases pending with
        | nil =>
          obtain rfl := Option.some.inj hend
          trivial
        | cons id pending => cases hend
      | rollback e =>
        obtain rfl := Option.some.inj hend
        trivial
      | _ => cases hend
    · trivial

/-- The flags and the status that a request has checked are still as it read them. -/
def StillOpen : InvoiceRequest → BillingDb → Prop
  | .create _ dto, d => ∀ l ∈ d.loads.rows, l.load.id ∈ dto.loadIds → l.load.invoiced = false
  | .void _ id, d => ∀ rows ∈ d.invoices.rows, rows.invoice.id = id → rows.invoice.status ≠ .void

def committing : InvoiceFrame → Option InvoiceRequest
  | .updateLoads r [] => some r
  | _ => none

def Undisturbed (s : State BillingDb BillingRow I InvoiceFrame BillingWrite) : Event I → Prop
  | .advance i => ∀ r ∈ committing (s.session i).frame, StillOpen r s.committed
  | .fail _ => True

lemma coherent_create_commit (hd : d.Coherent) (h : Billed d dto ws []) {q : Request}
    (hopen : StillOpen (.create q dto) d) : ((invoiceCode label).applyAll ws d).Coherent := by
  obtain ⟨numbering, rows, flags, rfl, hnumbering, hbilled, hcovered⟩ := h
  obtain ⟨hloads, hinvoices⟩ := hnumbering.applyAll label d
  rw [Code.applyAll_append, Code.applyAll_cons]
  set e := (invoiceCode label).applyAll numbering d
  set t := (invoiceCode label).applyAll (flags.map (.setInvoiced true))
    ((invoiceCode label).apply (.insertInvoice rows) e)
  have hlive (a : InvoiceRows) (ha : a ∈ t.live) : a ∈ d.live ∨ a = rows := by
    obtain ⟨hmem, hstatus⟩ := mem_live.mp ha
    rw [show t.invoices = _ from flags_invoices ..] at hmem
    rcases insert_getD rows a hmem with hold | hnew
    · exact Or.inl (mem_live.mpr ⟨hinvoices ▸ hold, hstatus⟩)
    · exact Or.inr hnew
  have hrow (l : BillableLoad) (hl : l ∈ d.loads.rows) (hflag : l.load.invoiced = true ∨ l.load.id ∈ flags) :
      ∃ l' ∈ t.loads.rows, l'.load.id = l.load.id ∧ l'.load.invoiced = true := by
    rw [show t.loads.rows = _ from flags_loads ..]
    refine ⟨_, List.mem_map_of_mem (hloads.symm ▸ hl : l ∈ e.loads.rows), ?_⟩
    by_cases hid : l.load.id ∈ flags
    · simp [hid, BillableLoad.withInvoiced]
    · simp [hid, hflag.resolve_right hid]
  -- a live invoice has flagged its Loads, and the new one is billed for unflagged ones
  have hapart (a : InvoiceRows) (ha : a ∈ d.live) (id : Uuid) (hid : id ∈ a.loadIds) : id ∉ rows.loadIds := by
    intro hmem
    obtain ⟨l, hl, rfl, hflag⟩ := hd.flagged a ha id hid
    rw [hopen l hl (hbilled _ hmem).1] at hflag
    cases hflag
  constructor
  · intro a ha b hb id hid hid'
    rcases hlive a ha with holda | hnewa
    · rcases hlive b hb with holdb | hnewb
      · exact hd.one a holda b holdb id hid hid'
      · exact absurd (hnewb ▸ hid') (hapart a holda id hid)
    · rcases hlive b hb with holdb | hnewb
      · exact absurd (hnewa ▸ hid) (hapart b holdb id hid')
      · rw [hnewa, hnewb]
  · intro a ha id hid
    rcases hlive a ha with ha | rfl
    · obtain ⟨l, hl, rfl, hflag⟩ := hd.flagged a ha id hid
      exact hrow l hl (Or.inl hflag)
    · obtain ⟨hasked, hload⟩ := hbilled id hid
      obtain ⟨l, hl, rfl⟩ := List.mem_map.mp hload
      exact hrow l hl (Or.inr ((hcovered _ hasked).resolve_right List.not_mem_nil))

lemma coherent_void_commit (hd : d.Coherent) (h : Released d id ws []) {q : Request}
    (hopen : StillOpen (.void q id) d) : ((invoiceCode label).applyAll ws d).Coherent := by
  obtain ⟨q', flags, rfl, hbills⟩ := h
  rw [Code.applyAll_cons]
  set e := (invoiceCode label).apply (.setVoid q' id) d
  set t := (invoiceCode label).applyAll (flags.map (.setInvoiced false)) e
  have hlive (a : InvoiceRows) (ha : a ∈ t.live) : a ∈ d.live ∧ a.invoice.id ≠ id := by
    obtain ⟨hmem, hstatus⟩ := mem_live.mp ha
    rw [show t.invoices = _ from flags_invoices ..] at hmem
    rcases mem_setVoid.mp hmem with ⟨rows, _, _, rfl⟩ | ⟨hold, hid⟩
    · exact absurd rfl hstatus
    · exact ⟨mem_live.mpr ⟨hold, hstatus⟩, hid⟩
  constructor
  · intro a ha b hb load hload hload'
    exact hd.one a (hlive a ha).1 b (hlive b hb).1 load hload hload'
  · intro a ha load hload
    obtain ⟨hlivea, hid⟩ := hlive a ha
    obtain ⟨l, hl, rfl, hflag⟩ := hd.flagged a hlivea load hload
    have hkept : l.load.id ∉ flags := by
      intro hreleased
      obtain ⟨rows, hrows, hrowsid, hbilled⟩ := hbills _ (Or.inl hreleased)
      have hliverows := mem_live.mpr ⟨hrows, hopen rows hrows hrowsid⟩
      exact hid ((hd.one a hlivea rows hliverows _ hload hbilled).trans hrowsid)
    refine ⟨l, ?_, rfl, hflag⟩
    rw [show t.loads.rows = _ from flags_loads ..]
    refine List.mem_map.mpr ⟨l, hl, if_neg hkept⟩

lemma commit_frame {frame next : InvoiceFrame} (h : invoiceStatement label frame = .commit next) :
    ∃ r, frame = .updateLoads r [] := by
  cases frame with
  | updateLoads r pending =>
    cases pending with
    | nil => exact ⟨r, rfl⟩
    | cons id pending => cases h
  | _ => cases h

theorem one_invoice_per_load {requests : I → InvoiceRequest} {es : List (Event I)}
    {s : State BillingDb BillingRow I InvoiceFrame BillingWrite} (hd : d.Coherent)
    (h : Run (Guarded (Enabled (step (invoiceCode label))) Undisturbed) (begin d (fun i => (requests i).start)) es s) :
    s.committed.OneInvoicePerLoad := by
  suffices hcoherent : s.committed.Coherent from hcoherent.one
  refine (knows label).committed (fun s i next hact hguard hheld hcoherent => ?_) (fun i => ?_) hd h
  · obtain ⟨r, hframe⟩ := commit_frame hact
    have hopen : StillOpen r s.committed := hguard r (by rw [hframe]; rfl)
    cases r with
    | create q dto =>
      have hbilled : Billed s.committed dto (s.session i).writes [] := by simpa [Held, hframe] using hheld
      exact coherent_create_commit hcoherent hbilled hopen
    | void q id =>
      have hreleased : Released s.committed id (s.session i).writes [] := by simpa [Held, hframe] using hheld
      exact coherent_void_commit hcoherent hreleased hopen
  · cases hrequest : requests i <;> simp [begin, hrequest, InvoiceRequest.start, Held, Numbering]

instance (d : BillingDb) : (r : InvoiceRequest) → Decidable (StillOpen r d)
  | .create _ dto => inferInstanceAs
    (Decidable (∀ l ∈ d.loads.rows, l.load.id ∈ dto.loadIds → l.load.invoiced = false))
  | .void _ id => inferInstanceAs
    (Decidable (∀ rows ∈ d.invoices.rows, rows.invoice.id = id → rows.invoice.status ≠ .void))

instance (s : State BillingDb BillingRow I InvoiceFrame BillingWrite) : (e : Event I) → Decidable (Undisturbed s e)
  | .advance i => inferInstanceAs (Decidable (∀ r ∈ committing (s.session i).frame, StillOpen r s.committed))
  | .fail _ => inferInstanceAs (Decidable True)

namespace Sample

open QuoteLoad.Sample

def unbilled : BillingDb where
  invoiceSequence := none
  loads := ⟨[delivered], by decide⟩
  invoices := .empty

lemma unbilled_coherent : unbilled.Coherent where
  one := by decide
  flagged a ha := absurd ha List.not_mem_nil

def twoCreates (i : Bool) : InvoiceRequest := .create (request (if i then 50 else 40)) createInput

def beginTwo : State BillingDb BillingRow Bool InvoiceFrame BillingWrite :=
  begin unbilled (fun i => (twoCreates i).start)

def serial : List (Event Bool) := List.replicate 7 (.advance false) ++ List.replicate 2 (.advance true)

def interleaved : List (Event Bool) :=
  .advance false :: .advance true :: List.replicate 6 (.advance false) ++ List.replicate 6 (.advance true)

def bothBilled : State BillingDb BillingRow Bool InvoiceFrame BillingWrite :=
  (interleaved.foldlM (step (invoiceCode Sample.label)) beginTwo).get (by decide)

end Sample

open Sample

theorem one_invoice_per_load_sample : ∃ s : State BillingDb BillingRow Bool InvoiceFrame BillingWrite,
    Run (Enabled (step (invoiceCode Sample.label))) beginTwo serial s ∧ s.committed.OneInvoicePerLoad := by
  have hsome : (serial.foldlM (checked (step (invoiceCode Sample.label)) Undisturbed) beginTwo).isSome := by decide
  obtain ⟨s, hs⟩ := Option.isSome_iff_exists.mp hsome
  have hrun := run_checked hs
  exact ⟨s, hrun.unguarded, one_invoice_per_load unbilled_coherent hrun⟩

theorem two_creates_bill_one_load :
    unbilled.Coherent ∧ Run (Enabled (step (invoiceCode Sample.label))) beginTwo interleaved bothBilled ∧
      (∀ i, (bothBilled.session i).frame = .done none) ∧ ¬ bothBilled.committed.OneInvoicePerLoad := by
  refine ⟨unbilled_coherent, (run_enabled_iff _ _ _ _).mpr (Option.some_get _).symm, ?_, by decide⟩
  rintro (_ | _) <;> rfl

end Truckmaster.Billing
