import Truckmaster.QuoteLoad.Lifecycle
import Truckmaster.Library.ReadCommitted

/-! Conversion, loss and expiry of one Quote, statement by statement. -/

namespace Truckmaster.QuoteLoad

open Common Fallible ReadCommitted Runs Tables

structure MarkQuoteLostInput where
  reason : String
  filled : 1 ≤ reason.length := by decide

structure QuoteDb where
  quote : QuoteRows
  loadSequence : Option ℕ
  loads : List LoadRows
  notifications : List LoadNotification := []

inductive QuoteRow
  | loadSequence | bookedLoad | quote
  deriving DecidableEq

structure Conversion where
  reference : Reference
  request : Request
  dto : ConvertQuoteInput

structure Expiry where
  reference : Reference
  request : Request

inductive QuoteRequest
  | convert (c : Conversion)
  | markLost (q : Request) (dto : MarkQuoteLostInput)
  | sweep (x : Expiry)

inductive QuoteChange
  | won (c : Conversion) (read : QuoteRows) (load : LoadRows)
  | lost (q : Request) (dto : MarkQuoteLostInput)
  | expired (x : Expiry) (stale : Quote)

namespace QuoteChange

def apply : QuoteChange → Quote → Quote
  | won _ _ load, quote => { quote with status := .won, resultingLoadId := some load.load.id }
  | lost _ dto, quote => { quote with status := .lost, lossReason := some dto.reason }
  | expired _ _, quote => { quote with status := .lost, lossReason := some "Expired" }

def events (id : Uuid) : QuoteChange → List AuditEvent
  | won c read _ => ⟨"Quote Won — Converted to Load", "Quote", id, none, .system, none⟩ ::
    if read.quote.customerRate = c.dto.confirmedCustomerRate.cents then []
    else [⟨"Rate Changed During Conversion", "Quote", id, some c.request.actingUserId, .human, none⟩]
  | lost q dto => [⟨"Quote Marked Lost", "Quote", id, some q.actingUserId, .human, some dto.reason⟩]
  | expired _ _ => [⟨"Quote Expired — Automatically Marked Lost", "Quote", id, none, .system, none⟩]

end QuoteChange

inductive QuoteWrite
  | setLoadSequence (value : ℕ)
  | insertLoad (rows : LoadRows)
  | updateQuote (change : QuoteChange)
  | recordAudit (change : QuoteChange)
  | notify (x : Expiry) (stale : Quote)

inductive QuoteFrame
  | findQuote (c : Conversion)
  | findCustomer (c : Conversion) (read : QuoteRows)
  | checkSubscription (c : Conversion) (read : QuoteRows) (audit : List AuditEvent)
  | upsertSequence (c : Conversion) (read : QuoteRows) (audit : List AuditEvent)
  | lockSequence (c : Conversion) (read : QuoteRows) (audit : List AuditEvent)
  | updateSequence (c : Conversion) (read : QuoteRows) (audit : List AuditEvent) (last : ℕ)
  | insertLoad (c : Conversion) (read : QuoteRows) (audit : List AuditEvent) (last : ℕ)
  | findOpenQuote (q : Request) (dto : MarkQuoteLostInput)
  | loadStaleQuotes (x : Expiry)
  | staleQuotes (x : Expiry) (stale : Option Quote)
  | updateQuote (change : QuoteChange)
  | recordAudit (change : QuoteChange)
  | findNotification (x : Expiry) (stale : Quote)
  | commit (change : QuoteChange)
  | rollback (e : AppError)
  | done (failure : Option AppError)

def QuoteChange.recorded : QuoteChange → QuoteFrame
  | .expired x stale => .findNotification x stale
  | change => .commit change

def QuoteRequest.start : QuoteRequest → QuoteFrame
  | .convert c => .findQuote c
  | .markLost q dto => .findOpenQuote q dto
  | .sweep x => .loadStaleQuotes x

namespace QuoteService

def assertConvertible (read : QuoteRows) : Except AppError Unit :=
  ensure (read.quote.status = .open) (.invalidTransition
    "Only an OPEN Quote can be converted to a Booked Load — an already Won or Lost Quote cannot be reopened or reconverted.")

def checkCustomer (c : Conversion) (read : QuoteRows) : Except AppError (List AuditEvent) := do
  let customer ← require (c.reference.customer read.quote.customerId) (.notFound "Customer not found.")
  LoadService.assertCustomerAllowsBooking c.request customer c.dto.confirmInactiveCustomerOverride

def book (c : Conversion) (read : QuoteRows) (audit : List AuditEvent) (last : ℕ) : Except AppError LoadRows :=
  LoadService.createFromBooking { c.reference with lastLoadNumber := last } c.request
    { customerId := read.quote.customerId
      bookingSource := .quote
      quoteId := some read.quote.id
      equipmentType := read.quote.equipmentType
      customerRate := c.dto.confirmedCustomerRate
      rateSource := read.quote.rateSource
      rateAgreementId := read.quote.rateAgreementId
      stops := (findMany (c.request.order 2) (fun _ => true) read.stops).map bookedStop
      auditAction := "Load Booked From Quote" } audit

def assertMarkable (read : QuoteRows) : Except AppError Unit :=
  ensure (read.quote.status = .open) (.invalidTransition
    "Only an OPEN Quote can be marked Lost — WON and LOST are both permanently terminal.")

def markLost (q : Request) (found : Option QuoteRows) (dto : MarkQuoteLostInput) : Except AppError QuoteRows := do
  let rows ← require found (.notFound "Quote not found.")
  assertMarkable rows
  pure
    { rows with
      quote := { rows.quote with status := .lost, lossReason := some dto.reason }
      audit := rows.audit ++
        [⟨"Quote Marked Lost", "Quote", rows.quote.id, some q.actingUserId, .human, some dto.reason⟩] }

end QuoteService

namespace QuoteExpirationSweepService

def adminVisibilityRoles : List MembershipRoleName := [.admin]

def isStale (x : Expiry) (quote : Quote) : Bool :=
  quote.status == .open && decide (quote.expirationDate < dateOf x.request.now)

def message (stale : Quote) : String := "Quote expired — " ++ stale.quoteNumber

end QuoteExpirationSweepService

open QuoteExpirationSweepService QuoteService

namespace QuoteDb

def taken (d : QuoteDb) (rows : LoadRows) : Bool :=
  d.loads.any (fun a => a.load.id == rows.load.id || a.load.loadNumber == rows.load.loadNumber ||
    a.load.quoteId == rows.load.quoteId)

def notified (d : QuoteDb) : Bool := d.notifications.any (fun n => n.type == "QUOTE_EXPIRED")

def write : QuoteWrite → QuoteDb → QuoteDb
  | .setLoadSequence value, d => { d with loadSequence := some value }
  | .insertLoad rows, d => { d with loads := d.loads ++ [rows] }
  | .updateQuote change, d => { d with quote := { d.quote with quote := change.apply d.quote.quote } }
  | .recordAudit change, d =>
    { d with quote := { d.quote with audit := d.quote.audit ++ change.events d.quote.quote.id } }
  | .notify x stale, d =>
    { d with
      notifications := d.notifications ++
        (stale.createdByUserId :: x.reference.membersInRoles adminVisibilityRoles).eraseDups.map
          (fun recipient => ⟨recipient, "QUOTE_EXPIRED", message stale⟩) }

end QuoteDb

/-- The lock of `bookedLoad` is that of the unique key on `Load.quoteId`; the sweep reads the stale Quotes and
expires each in transactions of their own. -/
def quoteStatement : QuoteFrame → Action QuoteDb QuoteRow QuoteFrame QuoteWrite
  | .findQuote c => .run fun d =>
    match assertConvertible d.quote with
    | .ok _ => (.findCustomer c d.quote, [])
    | .error e => (.rollback e, [])
  | .findCustomer c read => .run fun _ =>
    match checkCustomer c read with
    | .ok audit => (.checkSubscription c read audit, [])
    | .error e => (.rollback e, [])
  | .checkSubscription c read audit => .run fun _ =>
    match EntitlementService.assertCanCreateOperationalRecord c.reference c.request.now with
    | .ok _ => (.upsertSequence c read audit, [])
    | .error e => (.rollback e, [])
  | .upsertSequence c read audit => .lock .loadSequence fun d =>
    (.lockSequence c read audit, if d.loadSequence = none then [.setLoadSequence 0] else [])
  | .lockSequence c read audit => .lock .loadSequence fun d =>
    (.updateSequence c read audit (d.loadSequence.getD 0), [])
  | .updateSequence c read audit last => .lock .loadSequence fun _ =>
    (.insertLoad c read audit last, [.setLoadSequence (last + 1)])
  | .insertLoad c read audit last => .lock .bookedLoad fun d =>
    match book c read audit last with
    | .ok rows =>
      if d.taken rows then (.rollback (.database "Unique constraint failed."), [])
      else (.updateQuote (.won c read rows), [.insertLoad rows])
    | .error e => (.rollback e, [])
  | .findOpenQuote q dto => .run fun d =>
    match assertMarkable d.quote with
    | .ok _ => (.updateQuote (.lost q dto), [])
    | .error e => (.rollback e, [])
  | .loadStaleQuotes x => .run fun d =>
    (.staleQuotes x (if isStale x d.quote.quote then some d.quote.quote else none), [])
  | .staleQuotes x (some stale) => .commit (.updateQuote (.expired x stale))
  | .staleQuotes _ none => .commit (.done none)
  | .updateQuote change => .lock .quote fun _ => (.recordAudit change, [.updateQuote change])
  | .recordAudit change => .run fun _ => (change.recorded, [.recordAudit change])
  | .findNotification x stale => .run fun d =>
    (.commit (.expired x stale), if d.notified then [] else [.notify x stale])
  | .commit _ => .commit (.done none)
  | .rollback e => .rollback (.done (some e))
  | .done _ => .stop

def quoteCode : Code QuoteDb QuoteRow QuoteFrame QuoteWrite where
  action := quoteStatement
  apply := QuoteDb.write
  fail _ := .done (some (.database "Transaction aborted."))

variable {d : QuoteDb} {ws : List QuoteWrite} {change : QuoteChange} {c : Conversion} {read : QuoteRows}
  {rows : LoadRows} {audit : List AuditEvent}

def QuoteWrite.Quiet : QuoteWrite → Prop
  | .insertLoad _ => False
  | .updateQuote _ => False
  | _ => True

def AllQuiet (ws : List QuoteWrite) : Prop := ∀ w ∈ ws, w.Quiet

lemma AllQuiet.append {vs : List QuoteWrite} (h : AllQuiet ws) (h' : AllQuiet vs) : AllQuiet (ws ++ vs) :=
  fun w hw => (List.mem_append.mp hw).elim (h w) (h' w)

lemma AllQuiet.applyAll (h : AllQuiet ws) (d : QuoteDb) :
    (quoteCode.applyAll ws d).quote.quote = d.quote.quote ∧ (quoteCode.applyAll ws d).loads = d.loads := by
  induction ws generalizing d with
  | nil => exact ⟨rfl, rfl⟩
  | cons w ws ih =>
    obtain ⟨hw, hrest⟩ := List.forall_mem_cons.mp h
    obtain ⟨hquote, hloads⟩ := ih hrest (d.write w)
    rw [Code.applyAll_cons]
    cases w with
    | insertLoad | updateQuote => exact hw.elim
    | setLoadSequence | recordAudit | notify => exact ⟨hquote, hloads⟩

@[simp] lemma change_id (change : QuoteChange) (quote : Quote) : (change.apply quote).id = quote.id := by
  cases change <;> rfl

lemma write_id (w : QuoteWrite) (d : QuoteDb) : (d.write w).quote.quote.id = d.quote.quote.id := by
  cases w with
  | updateQuote change => exact change_id change d.quote.quote
  | _ => rfl

def Opened (id : Uuid) (ws : List QuoteWrite) : QuoteChange → Prop
  | .won _ _ rows => ∃ numbering, ws = numbering ++ [.insertLoad rows] ∧ AllQuiet numbering ∧ rows.load.quoteId = some id
  | _ => ws = []

def Changed (id : Uuid) (ws : List QuoteWrite) (change : QuoteChange) : Prop :=
  ∃ before after, ws = before ++ .updateQuote change :: after ∧ Opened id before change ∧ AllQuiet after

def Converting (id : Uuid) (ws : List QuoteWrite) (read : QuoteRows) : Prop := AllQuiet ws ∧ read.quote.id = id

def Pending (d : QuoteDb) (x : Session QuoteFrame QuoteWrite) : Prop :=
  let id := d.quote.quote.id
  match x.frame with
  | .findQuote _ => x.writes = []
  | .findCustomer _ read => Converting id x.writes read
  | .checkSubscription _ read _ => Converting id x.writes read
  | .upsertSequence _ read _ => Converting id x.writes read
  | .lockSequence _ read _ => Converting id x.writes read
  | .updateSequence _ read _ _ => Converting id x.writes read
  | .insertLoad _ read _ _ => Converting id x.writes read
  | .findOpenQuote _ _ => x.writes = []
  | .loadStaleQuotes _ => x.writes = []
  | .staleQuotes _ _ => x.writes = []
  | .updateQuote change => Opened id x.writes change
  | .recordAudit change => Changed id x.writes change
  | .findNotification y stale => Changed id x.writes (.expired y stale)
  | .commit change => Changed id x.writes change
  | .rollback _ => True
  | .done _ => True

lemma pending_write (x : Session QuoteFrame QuoteWrite) (w : QuoteWrite) (h : Pending d x) : Pending (d.write w) x := by
  unfold Pending at h ⊢
  rwa [write_id]

lemma book_quoteId {last : ℕ} (h : book c read audit last = .ok rows) : rows.load.quoteId = some read.quote.id := by
  rw [(createFromBooking_ok h).1]
  rfl

lemma Changed.quiet {id : Uuid} {vs : List QuoteWrite} (h : Changed id ws change) (hvs : AllQuiet vs) :
    Changed id (ws ++ vs) change := by
  obtain ⟨before, after, rfl, hopened, hafter⟩ := h
  exact ⟨before, after ++ vs, by simp, hopened, hafter.append hvs⟩

lemma quiet_nil : AllQuiet [] := fun _ hw => absurd hw List.not_mem_nil

lemma quiet_single {w : QuoteWrite} (h : w.Quiet) : AllQuiet [w] := by
  intro v hv
  rwa [List.mem_singleton.mp hv]

lemma Converting.quiet {id : Uuid} {vs : List QuoteWrite} (h : Converting id ws read) (hvs : AllQuiet vs) :
    Converting id (ws ++ vs) read := ⟨h.1.append hvs, h.2⟩

lemma Converting.still {id : Uuid} (h : Converting id ws read) : Converting id (ws ++ []) read := h.quiet quiet_nil

lemma pending_statement {frame : QuoteFrame} {next : QuoteFrame × List QuoteWrite} (h : Pending d ⟨frame, ws⟩)
    (hr : (quoteStatement frame).moves (quoteCode.applyAll ws d) = some next) :
    Pending d ⟨next.1, ws ++ next.2⟩ := by
  cases frame with
  | findQuote c =>
    obtain rfl := Option.some.inj hr
    obtain rfl : ws = [] := h
    dsimp only
    split
    · exact ⟨quiet_nil, rfl⟩
    · trivial
  | findCustomer c read =>
    obtain rfl := Option.some.inj hr
    dsimp only
    split
    · exact Converting.still h
    · trivial
  | checkSubscription c read audit =>
    obtain rfl := Option.some.inj hr
    dsimp only
    split
    · exact Converting.still h
    · trivial
  | upsertSequence c read audit =>
    obtain rfl := Option.some.inj hr
    refine Converting.quiet h ?_
    dsimp only
    split_ifs
    · exact quiet_single trivial
    · exact quiet_nil
  | lockSequence c read audit =>
    obtain rfl := Option.some.inj hr
    exact Converting.still h
  | updateSequence c read audit last =>
    obtain rfl := Option.some.inj hr
    exact Converting.quiet h (quiet_single trivial)
  | insertLoad c read audit last =>
    obtain rfl := Option.some.inj hr
    obtain ⟨hquiet, hid⟩ := h
    dsimp only
    split
    · rename_i rows hbook
      split_ifs
      · trivial
      · exact ⟨ws, rfl, hquiet, hid ▸ book_quoteId hbook⟩
    · trivial
  | findOpenQuote q dto =>
    obtain rfl := Option.some.inj hr
    dsimp only
    split
    · exact (List.append_nil ws).trans h
    · trivial
  | loadStaleQuotes x =>
    obtain rfl := Option.some.inj hr
    exact (List.append_nil ws).trans h
  | staleQuotes x stale => cases stale <;> cases hr
  | updateQuote change =>
    obtain rfl := Option.some.inj hr
    exact ⟨ws, [], rfl, h, quiet_nil⟩
  | recordAudit change =>
    obtain rfl := Option.some.inj hr
    have hrecorded : Changed d.quote.quote.id (ws ++ [.recordAudit change]) change :=
      Changed.quiet h (quiet_single trivial)
    cases change <;> exact hrecorded
  | findNotification x stale =>
    obtain rfl := Option.some.inj hr
    refine Changed.quiet h ?_
    dsimp only
    split_ifs
    · exact quiet_nil
    · exact quiet_single trivial
  | commit change => cases hr
  | rollback e => cases hr
  | done failure => cases hr

lemma quote_knows {I : Type*} : Knows quoteCode (fun (_ : I) => Pending) where
  stable _ _ x w h := pending_write x w h
  statement _ _ _ _ _ h hr := pending_statement h hr
  ending := by
    rintro i d f ws next h (hend | rfl)
    · cases f with
      | staleQuotes x stale =>
        cases stale with
        | some stale =>
          obtain rfl := Option.some.inj hend
          exact rfl
        | none =>
          obtain rfl := Option.some.inj hend
          trivial
      | commit change =>
        obtain rfl := Option.some.inj hend
        trivial
      | rollback e =>
        obtain rfl := Option.some.inj hend
        trivial
      | _ => cases hend
    · trivial

namespace QuoteDb

def Booked (d : QuoteDb) : Prop :=
  ∃ rows ∈ d.loads, rows.load.quoteId = some d.quote.quote.id ∧ d.quote.quote.resultingLoadId = some rows.load.id

structure Decided (d : QuoteDb) : Prop where
  won : d.quote.quote.status = .won → d.Booked
  notWon : d.quote.quote.status ≠ .won → d.quote.quote.resultingLoadId = none
  unbooked : d.quote.quote.status ≠ .won → ∀ rows ∈ d.loads, rows.load.quoteId ≠ some d.quote.quote.id

lemma Decided.won_iff (h : d.Decided) : d.quote.quote.status = .won ↔ d.Booked := by
  refine ⟨h.won, fun ⟨rows, hrows, hquote, _⟩ => ?_⟩
  by_contra hnot
  exact h.unbooked hnot rows hrows hquote

end QuoteDb

/-- The statuses on which a request may still make its change: only a conversion needs an OPEN Quote. -/
def QuoteChange.Timely (quote : Quote) : QuoteChange → Prop
  | .won _ _ _ => quote.status = .open
  | _ => quote.status ≠ .won

def committingChange : QuoteFrame → Option QuoteChange
  | .commit change => some change
  | _ => none

variable {I : Type*} [DecidableEq I]

def InTime (s : State QuoteDb QuoteRow I QuoteFrame QuoteWrite) : Event I → Prop
  | .advance i => ∀ change ∈ committingChange (s.session i).frame, change.Timely s.committed.quote.quote
  | .fail _ => True

lemma Changed.applyAll (h : Changed d.quote.quote.id ws change) :
    (quoteCode.applyAll ws d).quote.quote = change.apply d.quote.quote ∧
    ((∃ c read rows, change = .won c read rows ∧ rows.load.quoteId = some d.quote.quote.id ∧
        (quoteCode.applyAll ws d).loads = d.loads ++ [rows]) ∨
      (change.apply d.quote.quote).status = .lost ∧
        (change.apply d.quote.quote).resultingLoadId = d.quote.quote.resultingLoadId ∧
        (quoteCode.applyAll ws d).loads = d.loads) := by
  obtain ⟨before, after, rfl, hopened, hafter⟩ := h
  rw [Code.applyAll_append, Code.applyAll_cons]
  obtain ⟨hquote, hloads⟩ := hafter.applyAll ((quoteCode.applyAll before d).write (.updateQuote change))
  rw [show quoteCode.apply (.updateQuote change) _ = (quoteCode.applyAll before d).write (.updateQuote change) from rfl,
    hquote, hloads]
  cases change with
  | won c read rows =>
    obtain ⟨numbering, rfl, hquiet, hid⟩ := hopened
    obtain ⟨hsame, hnumbered⟩ := hquiet.applyAll d
    rw [Code.applyAll_append]
    refine ⟨congrArg (QuoteChange.apply (.won c read rows)) hsame, Or.inl ⟨c, read, rows, rfl, hid, ?_⟩⟩
    exact congrArg (· ++ [rows]) hnumbered
  | lost q dto =>
    obtain rfl : before = [] := hopened
    exact ⟨rfl, Or.inr ⟨rfl, rfl, rfl⟩⟩
  | expired x stale =>
    obtain rfl : before = [] := hopened
    exact ⟨rfl, Or.inr ⟨rfl, rfl, rfl⟩⟩

lemma commit_cases {frame next : QuoteFrame} (h : quoteStatement frame = .commit next) :
    (∃ change, frame = .commit change) ∨ ∃ x stale, frame = .staleQuotes x stale := by
  cases frame with
  | commit change => exact Or.inl ⟨change, rfl⟩
  | staleQuotes x stale => exact Or.inr ⟨x, stale, rfl⟩
  | _ => cases h

omit [DecidableEq I] in
lemma visible_commit {s : State QuoteDb QuoteRow I QuoteFrame QuoteWrite} {i : I} {next : QuoteFrame}
    (hact : quoteCode.action (s.session i).frame = .commit next) (hpending : Pending s.committed (s.session i)) :
    visible quoteCode s i = s.committed ∨ ∃ change, committingChange (s.session i).frame = some change ∧
      Changed s.committed.quote.quote.id (s.session i).writes change := by
  rcases commit_cases hact with ⟨change, hframe⟩ | ⟨x, stale, hframe⟩
  · rw [Pending, hframe] at hpending
    exact Or.inr ⟨change, by rw [hframe]; rfl, hpending⟩
  · rw [Pending, hframe] at hpending
    rw [visible, show (s.session i).writes = [] from hpending]
    exact Or.inl rfl

lemma Changed.decided (h : Changed d.quote.quote.id ws change) (hd : d.Decided)
    (htimely : change.Timely d.quote.quote) : (quoteCode.applyAll ws d).Decided := by
  obtain ⟨hquote, hcases⟩ := h.applyAll
  rcases hcases with ⟨c, read, rows, rfl, hid, hloads⟩ | ⟨hlost, hresult, hloads⟩
  · have hwon : (quoteCode.applyAll ws d).quote.quote.status = .won := by rw [hquote]; rfl
    refine ⟨fun _ => ?_, fun hnot => absurd hwon hnot, fun hnot => absurd hwon hnot⟩
    refine ⟨rows, by simp [hloads], ?_⟩
    rw [hquote]
    exact ⟨hid, rfl⟩
  · have hnot : d.quote.quote.status ≠ .won := by
      cases change with
      | won c read rows => cases hlost
      | lost | expired => exact htimely
    rw [← hquote] at hlost hresult
    refine ⟨fun hwon => ?_, fun _ => hresult.trans (hd.notWon hnot), fun _ => ?_⟩
    · rw [hlost] at hwon
      cases hwon
    · rw [hloads, hquote, change_id]
      exact hd.unbooked hnot

lemma Changed.settled (h : Changed d.quote.quote.id ws change) (hsettled : d.quote.quote.status ≠ .open)
    (htimely : change.Timely d.quote.quote) :
    (quoteCode.applyAll ws d).quote.quote.status = d.quote.quote.status := by
  rw [h.applyAll.1]
  cases change with
  | won c read rows => exact absurd htimely hsettled
  | lost q dto =>
    cases hstatus : d.quote.quote.status with
    | «open» => exact absurd hstatus hsettled
    | won => exact absurd hstatus htimely
    | lost => rfl
  | expired x stale =>
    cases hstatus : d.quote.quote.status with
    | «open» => exact absurd hstatus hsettled
    | won => exact absurd hstatus htimely
    | lost => rfl

lemma decided_run {ds : List (Event I)} {t s : State QuoteDb QuoteRow I QuoteFrame QuoteWrite}
    (hpending : ∀ i, Pending t.committed (t.session i)) (ht : t.committed.Decided)
    (h : Run (Guarded (Enabled (step quoteCode)) InTime) t ds s) : s.committed.Decided := by
  refine quote_knows.committed (P := QuoteDb.Decided) (fun a i next hact hguard hp ha => ?_) hpending ht h
  rcases visible_commit hact hp with hsame | ⟨change, hframe, hchanged⟩
  · rwa [hsame]
  · exact hchanged.decided ha (hguard change hframe)

lemma settled_run {ds : List (Event I)} {t s : State QuoteDb QuoteRow I QuoteFrame QuoteWrite}
    (hpending : ∀ i, Pending t.committed (t.session i)) (ht : t.committed.quote.quote.status ≠ .open)
    (h : Run (Guarded (Enabled (step quoteCode)) InTime) t ds s) :
    s.committed.quote.quote.status = t.committed.quote.quote.status := by
  refine quote_knows.committed (P := fun a => a.quote.quote.status = t.committed.quote.quote.status)
    (fun a i next hact hguard hp ha => ?_) hpending rfl h
  rcases visible_commit hact hp with hsame | ⟨change, hframe, hchanged⟩
  · rwa [hsame]
  · exact (hchanged.settled (ha ▸ ht) (hguard change hframe)).trans ha

theorem quote_decided_once {requests : I → QuoteRequest} {es ds : List (Event I)}
    {t s : State QuoteDb QuoteRow I QuoteFrame QuoteWrite} (hd : d.Decided)
    (h : Run (Guarded (Enabled (step quoteCode)) InTime) (begin d (fun i => (requests i).start)) es t)
    (h' : Run (Guarded (Enabled (step quoteCode)) InTime) t ds s) :
    (s.committed.quote.quote.status = .won ↔ ∃ rows ∈ s.committed.loads,
      rows.load.quoteId = some s.committed.quote.quote.id ∧
      s.committed.quote.quote.resultingLoadId = some rows.load.id) ∧
    (t.committed.quote.quote.status ≠ .open →
      s.committed.quote.quote.status = t.committed.quote.quote.status) := by
  have hstart (i : I) : Pending d ((begin d (fun i => (requests i).start) :
      State QuoteDb QuoteRow I QuoteFrame QuoteWrite).session i) := by
    cases hr : requests i <;> simp only [begin, hr, QuoteRequest.start, Pending]
  have hpending (i : I) : Pending t.committed (t.session i) := quote_knows.run hstart h.unguarded i
  have hdecided : s.committed.Decided := decided_run hpending (decided_run hstart hd h) h'
  exact ⟨hdecided.won_iff, fun hsettled => settled_run hpending hsettled h'⟩

section Alone

variable {d' : QuoteDb} {last : QuoteFrame} {quote' : QuoteRows}

lemma updateQuote_alone (hchange : change.recorded = .commit change) :
    Alone quoteCode d ⟨.updateQuote change, ws⟩
      (quoteCode.applyAll (ws ++ [.updateQuote change] ++ [.recordAudit change]) d) (.done none) := by
  have hcommit : Alone quoteCode d ⟨.commit change, ws ++ [.updateQuote change] ++ [.recordAudit change]⟩ _ _ :=
    .commit rfl
  have haudit : Alone quoteCode d ⟨.recordAudit change, ws ++ [.updateQuote change]⟩ _ _ :=
    .writes (congrArg (fun frame => some (frame, [QuoteWrite.recordAudit change])) hchange) hcommit
  exact .writes rfl haudit

def numberLoad (d : QuoteDb) : List QuoteWrite :=
  (if d.loadSequence = none then [.setLoadSequence 0] else []) ++ [.setLoadSequence (d.loadSequence.getD 0 + 1)]

lemma applyAll_numberLoad (d : QuoteDb) :
    quoteCode.applyAll (numberLoad d) d = { d with loadSequence := some (d.loadSequence.getD 0 + 1) } := by
  rw [numberLoad]
  split_ifs <;> rfl

lemma findQuote_alone (hopen : assertConvertible d.quote = .ok ()) (hcustomer : checkCustomer c d.quote = .ok audit)
    (hentitled : EntitlementService.assertCanCreateOperationalRecord c.reference c.request.now = .ok ())
    (h : Alone quoteCode d ⟨.insertLoad c d.quote audit (d.loadSequence.getD 0), numberLoad d⟩ d' last) :
    Alone quoteCode d ⟨.findQuote c, []⟩ d' last := by
  have hupdate : Alone quoteCode d ⟨.updateSequence c d.quote audit (d.loadSequence.getD 0),
      if d.loadSequence = none then [.setLoadSequence 0] else []⟩ d' last := .writes rfl h
  have hlock : Alone quoteCode d ⟨.lockSequence c d.quote audit,
      if d.loadSequence = none then [.setLoadSequence 0] else []⟩ d' last := by
    refine .reads ?_ hupdate
    cases hsequence : d.loadSequence with
    | none => rfl
    | some n =>
      rw [if_neg nofun, Code.applyAll_nil]
      exact congrArg (fun m => some (QuoteFrame.updateSequence c d.quote audit (m.getD 0), [])) hsequence
  have hupsert : Alone quoteCode d ⟨.upsertSequence c d.quote audit, []⟩ d' last := .writes rfl hlock
  have hsubscription : Alone quoteCode d ⟨.checkSubscription c d.quote audit, []⟩ d' last := by
    refine .reads ?_ hupsert
    simp only [quoteCode, quoteStatement, Action.moves, hentitled]
  have hfind : Alone quoteCode d ⟨.findCustomer c d.quote, []⟩ d' last := by
    refine .reads ?_ hsubscription
    simp only [quoteCode, quoteStatement, Action.moves, hcustomer]
  refine .reads ?_ hfind
  simp only [quoteCode, quoteStatement, Action.moves, Code.applyAll_nil, hopen]

theorem uninterrupted_convert (h : convert { c.reference with lastLoadNumber := d.loadSequence.getD 0 } c.request
      (some d.quote) c.dto = .ok (quote', rows)) (hnew : d.taken rows = false) :
    ∃ d', Alone quoteCode d ⟨.findQuote c, []⟩ d' (.done none) ∧ d'.quote = quote' ∧ d'.loads = d.loads ++ [rows] := by
  simp only [convert, bind_eq_ok, require_eq_ok, Option.some.injEq, exists_eq_left', pure_eq_ok, Prod.mk.injEq] at h
  obtain ⟨_, hopen, customer, hfound, audit, hallowed, load, hbook, rfl, rfl⟩ := h
  have hcustomer : checkCustomer c d.quote = .ok audit := by
    simp only [checkCustomer, bind_eq_ok, require_eq_ok]
    exact ⟨customer, hfound, hallowed⟩
  have hentitled : EntitlementService.assertCanCreateOperationalRecord c.reference c.request.now = .ok () :=
    (bind_eq_ok.mp hbook).choose_spec.1
  have hinsert : (quoteCode.action (.insertLoad c d.quote audit (d.loadSequence.getD 0))).moves
      (quoteCode.applyAll (numberLoad d) d) = some (.updateQuote (.won c d.quote load), [.insertLoad load]) := by
    have hbooked : book c d.quote audit (d.loadSequence.getD 0) = .ok load := hbook
    have hfree : (quoteCode.applyAll (numberLoad d) d).taken load = false := by
      rw [applyAll_numberLoad]
      exact hnew
    simp only [quoteCode, quoteStatement, Action.moves, hbooked] at hfree ⊢
    rw [if_neg (by simp [hfree])]
  refine ⟨_, findQuote_alone hopen hcustomer hentitled (.writes hinsert (updateQuote_alone rfl)), ?_, ?_⟩
  · rw [Code.applyAll_append, Code.applyAll_append, Code.applyAll_append, applyAll_numberLoad]
    rfl
  · rw [Code.applyAll_append, Code.applyAll_append, Code.applyAll_append, applyAll_numberLoad]
    rfl

theorem uninterrupted_markLost {q : Request} {dto : MarkQuoteLostInput}
    (h : markLost q (some d.quote) dto = .ok quote') :
    Alone quoteCode d ⟨.findOpenQuote q dto, []⟩ { d with quote := quote' } (.done none) := by
  simp only [markLost, bind_eq_ok, require_eq_ok, Option.some.injEq, exists_eq_left', pure_eq_ok] at h
  obtain ⟨_, hopen, rfl⟩ := h
  have hupdate : Alone quoteCode d ⟨.updateQuote (.lost q dto), []⟩ _ _ := updateQuote_alone rfl
  refine .reads ?_ hupdate
  simp only [quoteCode, quoteStatement, Action.moves, Code.applyAll_nil, hopen]

end Alone

instance (quote : Quote) : (change : QuoteChange) → Decidable (change.Timely quote)
  | .won _ _ _ => inferInstanceAs (Decidable (quote.status = .open))
  | .lost _ _ => inferInstanceAs (Decidable (quote.status ≠ .won))
  | .expired _ _ => inferInstanceAs (Decidable (quote.status ≠ .won))

instance (s : State QuoteDb QuoteRow I QuoteFrame QuoteWrite) : (e : Event I) → Decidable (InTime s e)
  | .advance i => inferInstanceAs (Decidable (∀ change ∈ committingChange (s.session i).frame,
      change.Timely s.committed.quote.quote))
  | .fail _ => inferInstanceAs (Decidable True)

namespace Sample

lemma first_pos : (1 : ℤ) ≤ 1 := by decide

lemma second_pos : (1 : ℤ) ≤ 2 := by decide

lemma dallas_filled : 1 ≤ "Dallas".length ∧ 2 ≤ "TX".length ∧ 1 ≤ "75201".length := by decide

lemma austin_filled : 1 ≤ "Austin".length ∧ 2 ≤ "TX".length ∧ 1 ≤ "73301".length := by decide

def quoteStops : List QuoteStopInput :=
  [⟨1, .pickup, "Dallas", "TX", "75201", none, first_pos, dallas_filled⟩,
    ⟨2, .delivery, "Austin", "TX", "73301", none, second_pos, austin_filled⟩]

lemma quoteStops_nonempty : quoteStops ≠ [] := by simp [quoteStops]

def quoteInput : CreateQuoteInput where
  customerId := 7
  stops := quoteStops
  equipmentType := .dryVan
  customerRate := ⟨"2450.00", 245000⟩
  nonempty := quoteStops_nonempty

def quoted : QuoteRows := accepted (QuoteService.create reference (request 1) quoteInput) (by decide)

def openQuote : QuoteDb := { quote := quoted, loadSequence := none, loads := [] }

lemma openQuote_decided : openQuote.Decided where
  won h := absurd h (by decide)
  notWon _ := by decide
  unbooked _ rows hrows := absurd hrows List.not_mem_nil

def convertOrLose (i : Bool) : QuoteRequest :=
  if i then .markLost (request 50) { reason := "Price" }
  else .convert ⟨reference, request 40, { confirmedCustomerRate := ⟨"2450.00", 245000⟩ }⟩

def beginQuote : State QuoteDb QuoteRow Bool QuoteFrame QuoteWrite :=
  begin openQuote (fun i => (convertOrLose i).start)

def convertedFirst : List (Event Bool) := List.replicate 10 (.advance false)

def askedLate : List (Event Bool) := [.advance true]

def bothOpened : List (Event Bool) := .advance true :: convertedFirst

def lostLate : List (Event Bool) := List.replicate 3 (.advance true)

def wonQuote : State QuoteDb QuoteRow Bool QuoteFrame QuoteWrite :=
  (bothOpened.foldlM (step quoteCode) beginQuote).get (by decide)

def lostQuote : State QuoteDb QuoteRow Bool QuoteFrame QuoteWrite :=
  (lostLate.foldlM (step quoteCode) wonQuote).get (by decide)

end Sample

open Sample

theorem quote_decided_once_sample : ∃ t s : State QuoteDb QuoteRow Bool QuoteFrame QuoteWrite,
    Run (Enabled (step quoteCode)) beginQuote convertedFirst t ∧ Run (Enabled (step quoteCode)) t askedLate s ∧
      t.committed.quote.quote.status = .won ∧ s.committed.quote.quote.status = .won ∧
      ∃ rows ∈ s.committed.loads, rows.load.quoteId = some s.committed.quote.quote.id ∧
        s.committed.quote.quote.resultingLoadId = some rows.load.id := by
  have hwon : ∃ t ∈ convertedFirst.foldlM (checked (step quoteCode) InTime) beginQuote,
      t.committed.quote.quote.status = .won ∧ (askedLate.foldlM (checked (step quoteCode) InTime) t).isSome = true := by decide
  obtain ⟨t, ht, hstatus, hlater⟩ := hwon
  obtain ⟨s, hs⟩ := Option.isSome_iff_exists.mp hlater
  have hrun := run_checked ht
  have hlate := run_checked hs
  obtain ⟨hbooked, hkept⟩ := quote_decided_once openQuote_decided hrun hlate
  have hstays : s.committed.quote.quote.status = .won := (hkept (by rw [hstatus]; decide)).trans hstatus
  exact ⟨t, s, hrun.unguarded, hlate.unguarded, hstatus, hstays, hbooked.mp hstays⟩

theorem won_quote_lost :
    openQuote.Decided ∧ Run (Enabled (step quoteCode)) beginQuote bothOpened wonQuote ∧
      Run (Enabled (step quoteCode)) wonQuote lostLate lostQuote ∧
      (∀ i, (lostQuote.session i).frame = .done none) ∧
      wonQuote.committed.quote.quote.status = .won ∧ lostQuote.committed.quote.quote.status = .lost ∧
      ∃ rows ∈ lostQuote.committed.loads, rows.load.quoteId = some lostQuote.committed.quote.quote.id ∧
        lostQuote.committed.quote.quote.resultingLoadId = some rows.load.id := by
  refine ⟨openQuote_decided, (run_enabled_iff _ _ _ _).mpr (Option.some_get _).symm,
    (run_enabled_iff _ _ _ _).mpr (Option.some_get _).symm, ?_, by decide, by decide, by decide⟩
  rintro (_ | _) <;> rfl

end Truckmaster.QuoteLoad
