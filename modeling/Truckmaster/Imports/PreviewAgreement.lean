import Truckmaster.Carriers.Creation
import Truckmaster.Imports.ImportPreview
import Truckmaster.Library.Passes

/-! How far the preview of a batch agrees with its commits: what becomes of each row that the preview found valid. -/

namespace Truckmaster.Imports

open Common Carriers Customers Fallible Tables Passes ImportCommitWorker

def customerRow (row : ImportBatchRow) : CreateCustomerInput := Adapter.customerInput row.mappedData false

def licenseNumber (row : ImportBatchRow) : Option String := row.mappedData.lookup "licenseNumber"

def Resembles (e : Engine) (row earlier : ImportBatchRow) : Prop :=
  CustomerService.matchedOn e.toLowerCase (customerRow row) (CustomerService.customerOf 0 (customerRow earlier)) ≠ []

def SharesNumber (row earlier : ImportBatchRow) : Prop :=
  Adapter.text earlier.mappedData "mcNumber" = Adapter.text row.mappedData "mcNumber" ∨
    Adapter.text earlier.mappedData "dotNumber" = Adapter.text row.mappedData "dotNumber"

def GivesLicense (e : Engine) (org : OrganizationData) (carrierId : Uuid) (license : Option String)
    (earlier : ImportBatchRow) : Prop :=
  resolveParent e org .driver earlier = .ok carrierId ∧
    ∃ number ∈ license, trim number ≠ "" ∧ licenseNumber earlier = some (trim number)

/-- The service refuses the row after the commit has imported the `earlier` ones. -/
def Refused (e : Engine) (org : OrganizationData) (entityType : ImportEntityType) (now : Instant)
    (earlier : List ImportBatchRow) (row : ImportBatchRow) : Prop :=
  match entityType with
  | .customer => row.acknowledgeDuplicate = false ∧ ∃ r ∈ earlier, Resembles e row r
  | .carrier => (∃ r ∈ earlier, SharesNumber row r) ∨
      org.organization.Closed now org.organization.maxCarriers (org.carrierCount + earlier.length)
  | .driver => (∃ carrierId, resolveParent e org .driver row = .ok carrierId ∧
        (org.LicenseHeld carrierId (licenseNumber row) ∨
          ∃ r ∈ earlier, GivesLicense e org carrierId (licenseNumber row) r)) ∨
      org.organization.Closed now org.organization.maxDrivers (org.driverCount + earlier.length)
  | _ => False

open Classical in
noncomputable def verdict (e : Engine) (org : OrganizationData) (entityType : ImportEntityType) (q : ℕ → Request)
    (earlier : List ImportBatchRow) (row : ImportBatchRow) : ImportRowStatus :=
  if row.duplicateWarning && !row.acknowledgeDuplicate then .skipped
  else if Refused e org entityType (q row.rowNumber).now earlier row then .failed
  else .imported

structure Previewed (e : Engine) (org : OrganizationData) (entityType : ImportEntityType) (row : ImportBatchRow) :
    Prop where
  parent : ∃ parentId, resolveParent e org entityType row = .ok parentId
  warned : row.duplicateWarning = true → entityType = .customer
  unwarned : entityType = .customer → row.duplicateWarning = false →
    ∀ c ∈ org.customers.rows, CustomerService.matchedOn e.toLowerCase (customerRow row) c = []
  numbers : entityType = .carrier →
    (1 ≤ (Adapter.text row.mappedData "mcNumber").length ∧ 1 ≤ (Adapter.text row.mappedData "dotNumber").length) ∧
      ∀ c ∈ org.carriers.rows, Adapter.sharesNumber row.mappedData c = false

def Known (e : Engine) (org : OrganizationData) (dto : CreateCustomerInput) : Prop :=
  ∃ c ∈ org.customers.rows, CustomerService.matchedOn e.toLowerCase dto c ≠ []

def Grown (e : Engine) (org : OrganizationData) (imported : List ImportBatchRow) (created : OrganizationData) :
    ImportEntityType → Prop
  | .customer => ∀ dto, Known e created dto ↔ Known e org dto ∨
      ∃ r ∈ imported, CustomerService.matchedOn e.toLowerCase dto (CustomerService.customerOf 0 (customerRow r)) ≠ []
  | .carrier => (∀ row : ImportBatchRow, (∃ c ∈ created.carriers.rows, Adapter.sharesNumber row.mappedData c) ↔
        (∃ c ∈ org.carriers.rows, Adapter.sharesNumber row.mappedData c) ∨ ∃ r ∈ imported, SharesNumber row r) ∧
      created.carrierCount = org.carrierCount + imported.length
  | .driver => (∀ carrierId license, created.LicenseHeld carrierId license ↔
        org.LicenseHeld carrierId license ∨ ∃ r ∈ imported, GivesLicense e org carrierId license r) ∧
      created.driverCount = org.driverCount + imported.length
  | _ => True

structure Stands (e : Engine) (org : OrganizationData) (entityType : ImportEntityType) (imported : List ImportBatchRow)
    (created : OrganizationData) (cache : ImportDuplicateCache) : Prop where
  cached : entityType = .customer → cache = none ∨ cache = some created.customers.rows
  subscription : created.organization = org.organization
  parents : ∀ row, resolveParent e created entityType row = resolveParent e org entityType row
  grown : Grown e org imported created entityType

variable {e : Engine} {org created : OrganizationData} {entityType : ImportEntityType} {batch : ImportBatch}
  {imported : List ImportBatchRow} {cache : ImportDuplicateCache} {row : ImportBatchRow} {q : Request} {parentId : Uuid}

lemma nextUuid_new (batch : ImportBatch) (q : Request) {id : Uuid} (h : id ∈ created.ids) : id ≠ (rowRequest created batch q).uuid 0 := by
  have hle : id ≤ created.ids.max?.getD 0 := List.le_max?_getD_of_mem h
  exact Nat.ne_of_lt (Nat.lt_succ_of_le hle)

section Customers

lemma matchDuplicates_eq_nil {dto : CreateCustomerInput} {candidates : List Customer} :
    CustomerService.matchDuplicates e.toLowerCase dto candidates = [] ↔
      ∀ c ∈ candidates, CustomerService.matchedOn e.toLowerCase dto c = [] := by
  rw [CustomerService.matchDuplicates, List.filterMap_eq_nil_iff]
  simp only [ite_eq_left_iff, reduceCtorEq, imp_false, not_not]

lemma not_known {dto : CreateCustomerInput} :
    ¬ Known e created dto ↔ CustomerService.matchDuplicates e.toLowerCase dto created.customers.rows = [] := by
  rw [matchDuplicates_eq_nil, Known]
  push Not
  rfl

lemma Stands.candidates (h : Stands e org .customer imported created cache) :
    Adapter.ensureCache created cache = created.customers.rows := by
  rcases h.cached rfl with rfl | rfl <;> rfl

lemma create_customer_refused (q : Request) {dto : CreateCustomerInput} (hknown : Known e created dto)
    (hack : dto.acknowledgeDuplicates = false) :
    ∃ error, CustomerService.create e.toLowerCase q created dto (some created.customers.rows) = .error error := by
  have hfound : CustomerService.matchDuplicates e.toLowerCase dto created.customers.rows ≠ [] :=
    fun h => not_known.mpr h hknown
  have hunmet : ¬ (CustomerService.matchDuplicates e.toLowerCase dto created.customers.rows = [] ∨
      dto.acknowledgeDuplicates = true) := by simp [hack, hfound]
  refine ⟨CustomerService.duplicatesFound (CustomerService.matchDuplicates e.toLowerCase dto created.customers.rows), ?_⟩
  rw [CustomerService.create, Option.getD_some, ensure_not hunmet]
  rfl

lemma create_customer_accepted (batch : ImportBatch) (q : Request) {dto : CreateCustomerInput}
    (h : ¬ Known e created dto ∨ dto.acknowledgeDuplicates = true) :
    ∃ next, CustomerService.create e.toLowerCase (rowRequest created batch q) created dto (some created.customers.rows) =
        .ok (CustomerService.customerOf ((rowRequest created batch q).uuid 0) dto, next) ∧
      next.customers.rows =
        created.customers.rows ++ [CustomerService.customerOf ((rowRequest created batch q).uuid 0) dto] ∧
      next.organization = created.organization := by
  obtain ⟨customers, hinsert, hrows⟩ := Table.insert_of_new (t := created.customers)
    (a := CustomerService.customerOf ((rowRequest created batch q).uuid 0) dto) (fun hmem =>
      nextUuid_new batch q (List.mem_append_left _ (List.mem_append_left _ hmem)) rfl)
  refine ⟨{ created with customers, audit := ?audit }, ?accepted, hrows, rfl⟩
  case accepted =>
    rw [CustomerService.create, Option.getD_some, ensure_of (h.imp_left not_known.mp), ok_bind]
    simp only [hinsert]
    rfl

lemma grown_customer (hgrown : Grown e org imported created .customer) {next : OrganizationData} {id : Uuid}
    {acknowledge : Bool} (hrows : next.customers.rows =
      created.customers.rows ++ [CustomerService.customerOf id (Adapter.customerInput row.mappedData acknowledge)]) :
    Grown e org (imported ++ [row]) next .customer := by
  intro dto
  have hnext : Known e next dto ↔ Known e created dto ∨
      CustomerService.matchedOn e.toLowerCase dto (CustomerService.customerOf 0 (customerRow row)) ≠ [] := by
    rw [Known, hrows]
    simp only [List.mem_append, List.mem_singleton, or_and_right, exists_or, exists_eq_left]
    rfl
  rw [hnext, hgrown dto]
  simp only [List.mem_append, List.mem_singleton, or_and_right, exists_or, exists_eq_left, or_assoc]

lemma commit_customer (hrow : Previewed e org .customer row) (hs : Stands e org .customer imported created cache)
    (hopen : (row.duplicateWarning && !row.acknowledgeDuplicate) = false) (now : Instant) :
    (Refused e org .customer now imported row → ∃ error cache', Adapter.commit e (rowRequest created batch q) created
        .customer row.mappedData parentId row.acknowledgeDuplicate cache = (.error error, cache') ∧
        Stands e org .customer imported created cache') ∧
      (¬ Refused e org .customer now imported row → ∃ id next cache', Adapter.commit e (rowRequest created batch q)
        created .customer row.mappedData parentId row.acknowledgeDuplicate cache = (.ok (id, next), cache') ∧
        Stands e org .customer (imported ++ [row]) next cache') := by
  have hknown := hs.grown (Adapter.customerInput row.mappedData row.acknowledgeDuplicate)
  constructor
  · rintro ⟨hack, hresembles⟩
    obtain ⟨error, herror⟩ := create_customer_refused (rowRequest created batch q)
      (hknown.mpr (Or.inr hresembles)) hack
    refine ⟨error, some created.customers.rows, ?_, fun _ => Or.inr rfl, hs.subscription, hs.parents,
      hs.grown⟩
    rw [Adapter.commit, Adapter.commitCustomer, hs.candidates]
    simp only [herror]
  · intro haccepted
    have hfree : ¬ Known e created (Adapter.customerInput row.mappedData row.acknowledgeDuplicate) ∨
        row.acknowledgeDuplicate = true := by
      cases hack : row.acknowledgeDuplicate with
      | true => exact Or.inr rfl
      | false =>
        have hquiet : row.duplicateWarning = false := by simpa [hack] using hopen
        rw [hack] at hknown
        refine Or.inl (fun h => (hknown.mp h).elim ?_ (fun hresembles => haccepted ⟨hack, hresembles⟩))
        rintro ⟨c, hc, hmatched⟩
        exact hmatched (hrow.unwarned rfl hquiet c hc)
    obtain ⟨next, hcreate, hrows, hsubscription⟩ := create_customer_accepted batch q hfree
    refine ⟨(rowRequest created batch q).uuid 0, next, some next.customers.rows, ?_, fun _ => Or.inr rfl, hsubscription.trans hs.subscription, fun _ => rfl,
      grown_customer hs.grown hrows⟩
    rw [Adapter.commit, Adapter.commitCustomer, hs.candidates]
    simp only [hcreate, hrows]
    rfl

end Customers

section Carriers

lemma shares_iff {row : ImportBatchRow} {c : Carrier} {dto : CreateCarrierInput}
    (hmc : dto.mcNumber = Adapter.text row.mappedData "mcNumber")
    (hdot : dto.dotNumber = Adapter.text row.mappedData "dotNumber") :
    dto.Shares c ↔ Adapter.sharesNumber row.mappedData c = true := by
  rw [CreateCarrierInput.Shares, Adapter.sharesNumber, hmc, hdot, Bool.or_eq_true, beq_iff_eq, beq_iff_eq]

lemma grown_carrier (hgrown : Grown e org imported created .carrier) {next : OrganizationData} {c : Carrier}
    (hmc : c.mcNumber = Adapter.text row.mappedData "mcNumber")
    (hdot : c.dotNumber = Adapter.text row.mappedData "dotNumber") (hcounts : CarrierDb.countsTowardLimit c = true)
    (hrows : next.carriers.rows = created.carriers.rows ++ [c]) :
    Grown e org (imported ++ [row]) next .carrier := by
  constructor
  · intro later
    have hnew : Adapter.sharesNumber later.mappedData c = true ↔ SharesNumber later row := by
      rw [Adapter.sharesNumber, SharesNumber, hmc, hdot, Bool.or_eq_true, beq_iff_eq, beq_iff_eq]
    have hnext : (∃ c ∈ next.carriers.rows, Adapter.sharesNumber later.mappedData c = true) ↔
        (∃ c ∈ created.carriers.rows, Adapter.sharesNumber later.mappedData c = true) ∨ SharesNumber later row := by
      rw [hrows]
      simp only [List.mem_append, List.mem_singleton, or_and_right, exists_or, exists_eq_left, hnew]
    rw [hnext, hgrown.1 later]
    simp only [List.mem_append, List.mem_singleton, or_and_right, exists_or, exists_eq_left, or_assoc]
  · have hcount := hgrown.2
    rw [CarrierDb.carrierCount] at hcount ⊢
    rw [hrows, List.countP_append, hcount, List.countP_singleton, hcounts, List.length_append, List.length_singleton,
      if_pos rfl]
    omega

lemma commit_carrier (hrow : Previewed e org .carrier row) (hs : Stands e org .carrier imported created cache) :
    (Refused e org .carrier q.now imported row → ∃ error cache', Adapter.commit e (rowRequest created batch q) created
        .carrier row.mappedData parentId row.acknowledgeDuplicate cache = (.error error, cache') ∧
        Stands e org .carrier imported created cache') ∧
      (¬ Refused e org .carrier q.now imported row → ∃ id next cache', Adapter.commit e (rowRequest created batch q)
        created .carrier row.mappedData parentId row.acknowledgeDuplicate cache = (.ok (id, next), cache') ∧
        Stands e org .carrier (imported ++ [row]) next cache') := by
  obtain ⟨hfilled, hfree⟩ := hrow.numbers rfl
  obtain ⟨dto, hdto⟩ : ∃ dto : CreateCarrierInput,
    dto = ⟨Adapter.text row.mappedData "mcNumber", Adapter.text row.mappedData "dotNumber", hfilled⟩ := ⟨_, rfl⟩
  have hmc : dto.mcNumber = Adapter.text row.mappedData "mcNumber" := by rw [hdto]
  have hdot : dto.dotNumber = Adapter.text row.mappedData "dotNumber" := by rw [hdto]
  have hshares (c : Carrier) : dto.Shares c ↔ Adapter.sharesNumber row.mappedData c = true := shares_iff hmc hdot
  have htaken : (∃ c ∈ created.carriers.rows, dto.Shares c) ↔ ∃ r ∈ imported, SharesNumber row r := by
    simp only [hshares, hs.grown.1 row]
    exact or_iff_right (fun ⟨c, hc, hsame⟩ => by simp [hfree c hc] at hsame)
  have hclosed : created.organization.Closed q.now created.organization.maxCarriers created.carrierCount ↔
      org.organization.Closed q.now org.organization.maxCarriers (org.carrierCount + imported.length) := by
    rw [hs.subscription, hs.grown.2]
  constructor
  · intro hrefused
    obtain ⟨error, herror⟩ := create_refused (rowRequest created batch q) dto
      (hrefused.imp htaken.mpr hclosed.mpr)
    refine ⟨error, cache, ?_, hs⟩
    rw [Adapter.commit, Adapter.commitCarrier, dif_pos hfilled, ← hdto, herror]
    rfl
  · intro haccepted
    obtain ⟨hapart, hopen⟩ := not_or.mp haccepted
    obtain ⟨next, hcreate, hrows, hsubscription, _⟩ := create_accepted (rowRequest created batch q) dto
      (fun c hc hshared => hapart (htaken.mp ⟨c, hc, hshared⟩))
      (fun c hc => nextUuid_new batch q (List.mem_append_left _ (List.mem_append_right _ (List.mem_map_of_mem hc))))
      (fun h => hopen (hclosed.mp h))
    refine ⟨(rowRequest created batch q).uuid 0, { created with
      toCarrierDb := next
      carrierNames := created.carrierNames ++
        [((rowRequest created batch q).uuid 0, Adapter.text row.mappedData "legalName")] }, cache, ?_, ?_⟩
    · rw [Adapter.commit, Adapter.commitCarrier, dif_pos hfilled, ← hdto, hcreate]
      rfl
    · exact ⟨nofun, hsubscription.trans hs.subscription, fun _ => rfl, grown_carrier hs.grown hmc hdot rfl hrows⟩

end Carriers

section Children

lemma resolved_mem {parentEntity : ParentEntity} {name : Option String}
    (h : ParentResolutionService.resolveByLegalName e created parentEntity name = .ok parentId) :
    ∃ name, parentId ∈ ParentResolutionService.parents e created name parentEntity := by
  rw [ParentResolutionService.resolveByLegalName] at h
  split_ifs at h
  split at h
  · cases h
  · next id hids =>
    obtain rfl := Except.ok.inj h
    exact ⟨_, hids ▸ List.mem_singleton_self id⟩
  · cases h

lemma resolved_carrier {name : Option String}
    (h : ParentResolutionService.resolveByLegalName e created .carrier name = .ok parentId) :
    ∃ c ∈ created.carriers.rows, c.id = parentId := by
  obtain ⟨_, hmem⟩ := resolved_mem h
  obtain ⟨c, hc, hid⟩ := List.mem_map.mp hmem
  exact ⟨c, (List.mem_filter.mp hc).1, hid⟩

lemma resolved_customer {name : Option String}
    (h : ParentResolutionService.resolveByLegalName e created .customer name = .ok parentId) :
    ∃ c ∈ created.customers.rows, c.id = parentId := by
  obtain ⟨_, hmem⟩ := resolved_mem h
  obtain ⟨c, hc, hid⟩ := List.mem_map.mp hmem
  exact ⟨c, (List.mem_filter.mp hc).1, hid⟩

lemma found_of_mem {α : Type} {o : RowOrder} {p : α → Bool} {rows : List α} (h : ∃ a ∈ rows, p a = true) :
    ∃ a, findFirst o p rows = some a := by
  rw [← Option.ne_none_iff_exists']
  intro hnone
  obtain ⟨a, ha, hp⟩ := h
  exact absurd (findFirst_none.mp hnone a ha) (by simp [hp])

structure Kept (created next : OrganizationData) : Prop where
  subscription : next.organization = created.organization
  carriers : next.carriers = created.carriers
  carrierNames : next.carrierNames = created.carrierNames
  customers : next.customers.rows.map (fun c => (c.id, c.legalName)) =
    created.customers.rows.map (fun c => (c.id, c.legalName))

lemma filter_names (rows : List Customer) (p : String → Bool) :
    (rows.filter (fun c => p c.legalName)).map Customer.id =
      ((rows.map (fun c => (c.id, c.legalName))).filter (fun c => p c.2)).map Prod.fst := by
  rw [List.filter_map, List.map_map]
  rfl

variable {next : OrganizationData}

lemma Kept.parents (h : Kept created next) (row : ImportBatchRow) :
    resolveParent e next entityType row = resolveParent e created entityType row := by
  have hparents (name : String) (p : ParentEntity) :
      ParentResolutionService.parents e next name p = ParentResolutionService.parents e created name p := by
    cases p with
    | customer =>
      rw [ParentResolutionService.parents, ParentResolutionService.parents,
        filter_names _ (fun legalName => e.sameName legalName name),
        filter_names _ (fun legalName => e.sameName legalName name), h.customers]
    | carrier =>
      simp only [ParentResolutionService.parents, OrganizationData.carrierName, h.carriers, h.carrierNames]
  simp only [resolveParent, ParentResolutionService.resolveByLegalName, hparents]

lemma Stands.kept (hs : Stands e org entityType imported created cache) (h : Kept created next)
    (hchild : entityType ≠ .customer) (hgrown : Grown e org (imported ++ [row]) next entityType) :
    Stands e org entityType (imported ++ [row]) next cache :=
  ⟨fun hcustomer => absurd hcustomer hchild, h.subscription.trans hs.subscription,
    fun row => (h.parents row).trans (hs.parents row), hgrown⟩

lemma addCarrierChild_accepted (kind action : String) (q : Request) (dto : Fields)
    (h : ∃ c ∈ created.carriers.rows, c.id = parentId) :
    ∃ id next, addCarrierChild kind action q created parentId dto = .ok (id, next) ∧ Kept created next := by
  obtain ⟨c, hc, hid⟩ := h
  obtain ⟨_, hfound⟩ := found_of_mem (o := q.order 0) (p := fun c : Carrier => c.id == parentId) ⟨c, hc, by simp [hid]⟩
  refine ⟨q.uuid 0, { created with children := ?children, audit := ?audit }, ?accepted, rfl, rfl, rfl, rfl⟩
  case accepted =>
    rw [addCarrierChild, CarrierDb.findCarrier, hfound]
    rfl

lemma addLocation_accepted (q : Request) (dto : Fields) (h : ∃ c ∈ created.customers.rows, c.id = parentId) :
    ∃ id next, CustomerService.addLocation q created parentId dto = .ok (id, next) ∧ Kept created next := by
  obtain ⟨c, hc, hid⟩ := h
  obtain ⟨_, hfound⟩ := found_of_mem (o := q.order 0) (p := fun c : Customer => c.id == parentId) ⟨c, hc, by simp [hid]⟩
  refine ⟨q.uuid 0, { created with children := ?children, audit := ?audit }, ?accepted, rfl, rfl, rfl, rfl⟩
  case accepted =>
    rw [CustomerService.addLocation, CustomerService.findCustomer, hfound]
    rfl

lemma contact_names (customers : Table Customer.id) (customerId : Uuid) (contact : CustomerContact) :
    (customers.update customerId (.withContact contact) (Customer.withContact_id contact)).rows.map
      (fun c => (c.id, c.legalName)) = customers.rows.map (fun c => (c.id, c.legalName)) := by
  rw [Table.update_rows, List.map_map]
  refine List.map_congr_left (fun c _ => ?_)
  simp only [Function.comp_apply]
  split_ifs <;> rfl

lemma addContact_accepted (q : Request) (dto : Fields) (h : ∃ c ∈ created.customers.rows, c.id = parentId) :
    ∃ id next, CustomerService.addContact q created parentId dto = .ok (id, next) ∧ Kept created next := by
  obtain ⟨c, hc, hid⟩ := h
  obtain ⟨_, hfound⟩ := found_of_mem (o := q.order 0) (p := fun c : Customer => c.id == parentId) ⟨c, hc, by simp [hid]⟩
  refine ⟨q.uuid 0, { created with customers := ?updated, audit := ?audit }, ?accepted, rfl, rfl, rfl, ?customers⟩
  case customers => exact contact_names created.customers parentId ⟨q.uuid 0, dto.lookup "email", dto⟩
  case accepted =>
    rw [CustomerService.addContact, CustomerService.findCustomer, hfound]
    rfl

end Children

section Drivers

lemma grown_driver (hgrown : Grown e org imported created .driver) {next : OrganizationData} {v : Driver}
    (hparent : resolveParent e org .driver row = .ok parentId) (hcarrier : v.carrierId = parentId)
    (hlicense : v.licenseNumber = licenseNumber row) (hactive : v.active = true)
    (hrows : next.drivers.rows = created.drivers.rows ++ [v]) : Grown e org (imported ++ [row]) next .driver := by
  constructor
  · intro carrierId license
    have hnew : v.carrierId = carrierId ↔ resolveParent e org .driver row = .ok carrierId := by
      rw [hparent, hcarrier, Except.ok.injEq]
    have hnext : next.LicenseHeld carrierId license ↔
        created.LicenseHeld carrierId license ∨ GivesLicense e org carrierId license row := by
      simp only [CarrierDb.LicenseHeld, GivesLicense, hrows, List.mem_append, List.mem_singleton, or_and_right, exists_or,
        exists_eq_left, and_or_left, hnew, hlicense, hactive, and_true]
      refine or_congr_right ⟨?_, ?_⟩
      · rintro ⟨number, hgiven, hfilled, hsame, heq⟩
        exact ⟨hsame, number, hgiven, hfilled, heq⟩
      · rintro ⟨hsame, number, hgiven, hfilled, heq⟩
        exact ⟨number, hgiven, hfilled, hsame, heq⟩
    rw [hnext, hgrown.1 carrierId license]
    simp only [List.mem_append, List.mem_singleton, or_and_right, exists_or, exists_eq_left, or_assoc]
  · have hcount := hgrown.2
    rw [CarrierDb.driverCount] at hcount ⊢
    rw [hrows, List.countP_append, hcount, List.countP_singleton, hactive, List.length_append, List.length_singleton,
      if_pos rfl]
    omega

lemma commit_driver (hs : Stands e org .driver imported created cache)
    (hparent : resolveParent e created .driver row = .ok parentId) :
    (Refused e org .driver q.now imported row → ∃ error cache', Adapter.commit e (rowRequest created batch q) created
        .driver row.mappedData parentId row.acknowledgeDuplicate cache = (.error error, cache') ∧
        Stands e org .driver imported created cache') ∧
      (¬ Refused e org .driver q.now imported row → ∃ id next cache', Adapter.commit e (rowRequest created batch q)
        created .driver row.mappedData parentId row.acknowledgeDuplicate cache = (.ok (id, next), cache') ∧
        Stands e org .driver (imported ++ [row]) next cache') := by
  have hfirst : resolveParent e org .driver row = .ok parentId := (hs.parents row).symm.trans hparent
  have hheld : created.LicenseHeld parentId (licenseNumber row) ↔
      ∃ carrierId, resolveParent e org .driver row = .ok carrierId ∧
        (org.LicenseHeld carrierId (licenseNumber row) ∨
          ∃ r ∈ imported, GivesLicense e org carrierId (licenseNumber row) r) := by
    rw [hs.grown.1, hfirst]
    simp only [Except.ok.injEq, exists_eq_left']
  have hclosed : created.organization.Closed q.now created.organization.maxDrivers created.driverCount ↔
      org.organization.Closed q.now org.organization.maxDrivers (org.driverCount + imported.length) := by
    rw [hs.subscription, hs.grown.2]
  constructor
  · intro hrefused
    obtain ⟨error, herror⟩ := addDriver_refused (rowRequest created batch q) ⟨licenseNumber row⟩
      (hrefused.imp hheld.mpr hclosed.mpr)
    refine ⟨error, cache, ?_, hs⟩
    rw [Adapter.commit, Adapter.commitDriver, ← licenseNumber, herror]
    rfl
  · intro haccepted
    obtain ⟨hapart, hopen⟩ := not_or.mp haccepted
    obtain ⟨next, hadd, hrows, hsubscription, hcarriers⟩ := addDriver_accepted (rowRequest created batch q)
      ⟨licenseNumber row⟩ (resolved_carrier hparent) (fun h => hapart (hheld.mp h))
      (fun v hv => nextUuid_new batch q (List.mem_append_right _ (List.mem_map_of_mem hv)))
      (fun h => hopen (hclosed.mp h))
    refine ⟨(rowRequest created batch q).uuid 0, { created with toCarrierDb := next }, cache, ?_, ?_⟩
    · rw [Adapter.commit, Adapter.commitDriver, ← licenseNumber, hadd]
      rfl
    · exact hs.kept ⟨hsubscription, hcarriers, rfl, rfl⟩ nofun (grown_driver hs.grown hfirst rfl rfl rfl hrows)

end Drivers

section Pass

lemma commit_row (hrow : Previewed e org entityType row) (hs : Stands e org entityType imported created cache)
    (hopen : (row.duplicateWarning && !row.acknowledgeDuplicate) = false)
    (hparent : resolveParent e created entityType row = .ok parentId) :
    (Refused e org entityType q.now imported row → ∃ error cache', Adapter.commit e (rowRequest created batch q) created
        entityType row.mappedData parentId row.acknowledgeDuplicate cache = (.error error, cache') ∧
        Stands e org entityType imported created cache') ∧
      (¬ Refused e org entityType q.now imported row → ∃ id next cache', Adapter.commit e (rowRequest created batch q)
        created entityType row.mappedData parentId row.acknowledgeDuplicate cache = (.ok (id, next), cache') ∧
        Stands e org entityType (imported ++ [row]) next cache') := by
  have hchild {t : ImportEntityType} {x : Except AppError (Uuid × OrganizationData)} (ht : t ≠ .customer)
      (hs : Stands e org t imported created cache) (hgrown : ∀ next, Grown e org (imported ++ [row]) next t)
      (hx : ∃ id next, x = .ok (id, next) ∧ Kept created next) :
      ∃ id next cache', (x, cache) = (.ok (id, next), cache') ∧ Stands e org t (imported ++ [row]) next cache' := by
    obtain ⟨id, next, hx, hkept⟩ := hx
    exact ⟨id, next, cache, by rw [hx], hs.kept hkept ht (hgrown next)⟩
  cases entityType with
  | customer => exact commit_customer hrow hs hopen q.now
  | carrier => exact commit_carrier hrow hs
  | driver => exact commit_driver hs hparent
  | customerContact =>
    exact ⟨False.elim, fun _ => hchild nofun hs (fun _ => trivial) (addContact_accepted _ _ (resolved_customer hparent))⟩
  | customerLocation =>
    exact ⟨False.elim, fun _ => hchild nofun hs (fun _ => trivial) (addLocation_accepted _ _ (resolved_customer hparent))⟩
  | carrierContact =>
    exact ⟨False.elim, fun _ => hchild nofun hs (fun _ => trivial)
      (addCarrierChild_accepted _ _ _ _ (resolved_carrier hparent))⟩
  | truck =>
    exact ⟨False.elim, fun _ => hchild nofun hs (fun _ => trivial)
      (addCarrierChild_accepted _ _ _ _ (resolved_carrier hparent))⟩
  | trailer =>
    exact ⟨False.elim, fun _ => hchild nofun hs (fun _ => trivial)
      (addCarrierChild_accepted _ _ _ _ (resolved_carrier hparent))⟩

def RowResult.status : RowResult → ImportRowStatus
  | .imported _ => .imported
  | .failed _ => .failed
  | .skipped _ => .skipped

lemma marked_status (result : RowResult) (now : Instant) (row : ImportBatchRow) :
    (row.marked result now).status = result.status := by
  cases result <;> rfl

lemma processRow_marks (e : Engine) (batch : ImportBatch) (q : ℕ → Request) (job : JobData) (row : ImportBatchRow) :
    ∃ result now, (processRow e batch q job row).rows =
      job.rows.update row.id (.marked result now) (ImportBatchRow.marked_id result now) := by
  unfold processRow
  split
  · exact ⟨_, _, rfl⟩
  · split
    · exact ⟨_, _, rfl⟩
    · dsimp only
      split
      · exact ⟨_, _, rfl⟩
      · exact ⟨_, _, rfl⟩

lemma processRow_verdict {q : ℕ → Request} {job : JobData} (hrow : Previewed e org batch.entityType row)
    (hs : Stands e org batch.entityType imported job.org job.cache) :
    ∃ created cache result now,
      processRow e batch q job row = JobData.markRow ⟨created, cache, job.rows⟩ row.id result now ∧
      result.status = verdict e org batch.entityType q imported row ∧
      Stands e org batch.entityType
        (if verdict e org batch.entityType q imported row = .imported then imported ++ [row] else imported)
        created cache := by
  rw [processRow, verdict]
  cases hopen : row.duplicateWarning && !row.acknowledgeDuplicate with
  | true => exact ⟨job.org, job.cache, .skipped _, _, rfl, rfl, hs⟩
  | false =>
    obtain ⟨parentId, hparent⟩ := hrow.parent
    have hparent : resolveParent e job.org batch.entityType row = .ok parentId := (hs.parents row).trans hparent
    obtain ⟨hrefused, haccepted⟩ :=
      @commit_row e org job.org batch.entityType batch imported _ row (q row.rowNumber) parentId hrow hs hopen hparent
    simp only [hparent, Bool.false_eq_true, ↓reduceIte]
    by_cases h : Refused e org batch.entityType (q row.rowNumber).now imported row
    · obtain ⟨error, cache', hcommit, hstands⟩ := hrefused h
      simp only [hcommit, if_pos h]
      exact ⟨job.org, cache', .failed _, _, rfl, rfl, hstands⟩
    · obtain ⟨id, next, cache', hcommit, hstands⟩ := haccepted h
      simp only [hcommit, if_neg h]
      exact ⟨next, cache', .imported _, _, rfl, rfl, hstands⟩

def statusOf (rows : Table ImportBatchRow.id) (rowId : Uuid) : Option ImportRowStatus :=
  (rows.get rowId).map ImportBatchRow.status

lemma processRow_step (e : Engine) (org : OrganizationData) (batch : ImportBatch) (q : ℕ → Request) (ids : List Uuid) :
    Step (processRow e batch q) ImportBatchRow.id (fun job => statusOf job.rows)
      (verdict e org batch.entityType q) (fun status => status == .imported)
      (fun imported job => Stands e org batch.entityType imported job.org job.cache ∧
        job.rows.rows.map ImportBatchRow.id = ids)
      (fun row => Previewed e org batch.entityType row ∧ row.id ∈ ids) where
  keeps imported job row hrow hs := by
    obtain ⟨created, cache, result, now, hstep, _, hstands⟩ := processRow_verdict (q := q) hrow.1 hs.1
    simp only [hstep, JobData.markRow, beq_iff_eq]
    refine ⟨hstands, ?_⟩
    rw [← hs.2, Table.update_rows, List.map_map]
    refine List.map_congr_left (fun r _ => ?_)
    simp only [Function.comp_apply]
    split_ifs
    · exact ImportBatchRow.marked_id result now r
    · rfl
  marks imported job row hrow hs := by
    obtain ⟨created, cache, result, now, hstep, hstatus, _⟩ := processRow_verdict (q := q) hrow.1 hs.1
    obtain ⟨r, hr, hid⟩ := List.mem_map.mp (hs.2 ▸ hrow.2)
    simp only [hstep, statusOf, JobData.markRow]
    rw [Table.get_update, if_pos rfl, Table.get_eq_some.mpr ⟨hr, hid⟩, Option.map_some, Option.map_some,
      marked_status, hstatus]
  frame imported job row id hrow hs hother := by
    obtain ⟨created, cache, result, now, hstep, _, _⟩ := processRow_verdict (q := q) hrow.1 hs.1
    simp only [hstep, statusOf, JobData.markRow]
    rw [Table.get_update, if_neg hother]

end Pass

section Eligible

variable {b : ImportState}

lemma mem_eligibleRows : row ∈ b.eligibleRows ↔ row ∈ b.rows.rows ∧ row.status = .valid := by
  rw [ImportState.eligibleRows, (List.perm_insertionSort _ _).mem_iff, List.mem_filter, beq_iff_eq]

lemma eligibleRows_nodup : (b.eligibleRows.map ImportBatchRow.id).Nodup :=
  ((List.perm_insertionSort _ _).map _).nodup_iff.mpr (b.rows.nodup.sublist (List.filter_sublist.map _))

instance : Std.Total ImportBatchRow.byRowNumber := ⟨fun a b => Nat.le_total a.rowNumber b.rowNumber⟩

instance : IsTrans ImportBatchRow ImportBatchRow.byRowNumber := ⟨fun _ _ _ h h' => Nat.le_trans h h'⟩

lemma eligibleRows_sorted : b.eligibleRows.Pairwise ImportBatchRow.byRowNumber := List.pairwise_insertionSort _ _

lemma eligibleRows_before (hnumbered : ∀ r ∈ b.rows.rows, r.rowNumber = r.id + 1) {front back : List ImportBatchRow}
    (hsplit : b.eligibleRows = front ++ row :: back) :
    b.eligibleRows.filter (fun r => decide (r.rowNumber < row.rowNumber)) = front := by
  have hnodup := eligibleRows_nodup (b := b)
  have hsorted := eligibleRows_sorted (b := b)
  have hnumber (r : ImportBatchRow) (hr : r ∈ b.eligibleRows) : r.rowNumber = r.id + 1 :=
    hnumbered r (mem_eligibleRows.mp hr).1
  rw [hsplit] at hnodup hsorted hnumber ⊢
  obtain ⟨_, hback, hfront⟩ := List.pairwise_append.mp hsorted
  rw [List.map_append, List.map_cons, List.nodup_append] at hnodup
  have hearlier : ∀ r ∈ front, decide (r.rowNumber < row.rowNumber) = true := by
    intro r hr
    have hle : r.rowNumber ≤ row.rowNumber := hfront r hr row List.mem_cons_self
    have hne : r.id ≠ row.id := hnodup.2.2 r.id (List.mem_map_of_mem hr) row.id List.mem_cons_self
    have hr' := hnumber r (List.mem_append_left _ hr)
    have hrow := hnumber row (List.mem_append_right _ List.mem_cons_self)
    have hlt : r.rowNumber ≠ row.rowNumber := fun h => hne (Nat.succ.inj (hr'.symm.trans (h.trans hrow)))
    exact decide_eq_true (lt_of_le_of_ne hle hlt)
  have hlater : ∀ r ∈ row :: back, ¬ decide (r.rowNumber < row.rowNumber) = true := by
    intro r hr
    rcases List.mem_cons.mp hr with rfl | hr
    · simp
    · have hle : row.rowNumber ≤ r.rowNumber := (List.pairwise_cons.mp hback).1 r hr
      simpa using hle
  rw [List.filter_append, List.filter_eq_self.mpr hearlier, List.filter_eq_nil_iff.mpr hlater, List.append_nil]

end Eligible

section Preview

lemma lookup_absent (g : ImportFieldSpec → Option String) {specs : List ImportFieldSpec} {key : String}
    (hkey : key ∉ specs.map ImportFieldSpec.key) :
    (specs.filterMap (fun f => (g f).map (fun value => (f.key, value)))).lookup key = none := by
  rw [List.lookup_eq_none_iff]
  intro entry hentry
  obtain ⟨f, hf, hvalue⟩ := List.mem_filterMap.mp hentry
  obtain ⟨value, _, rfl⟩ := Option.map_eq_some_iff.mp hvalue
  simp only [bne_iff_ne, ne_eq]
  exact fun h => hkey (h ▸ List.mem_map_of_mem hf)

lemma lookup_dto (g : ImportFieldSpec → Option String) {specs : List ImportFieldSpec} {f : ImportFieldSpec}
    (hnodup : (specs.map ImportFieldSpec.key).Nodup) (hf : f ∈ specs) :
    (specs.filterMap (fun f => (g f).map (fun value => (f.key, value)))).lookup f.key = g f := by
  induction specs with
  | nil => cases hf
  | cons s rest ih =>
    rw [List.map_cons, List.nodup_cons] at hnodup
    rcases List.mem_cons.mp hf with rfl | hf
    · cases hvalue : g f with
      | none =>
        rw [List.filterMap_cons_none (by rw [hvalue]; rfl)]
        exact lookup_absent g hnodup.1
      | some value => rw [List.filterMap_cons_some (by rw [hvalue]; rfl), List.lookup_cons_self]
    · have hother : f.key ≠ s.key := fun h => hnodup.1 (h ▸ List.mem_map_of_mem hf)
      cases hvalue : g s with
      | none =>
        rw [List.filterMap_cons_none (by rw [hvalue]; rfl)]
        exact ih hnodup.2 hf
      | some value =>
        rw [List.filterMap_cons_some (by rw [hvalue]; rfl), List.lookup_cons, beq_false_of_ne hother]
        exact ih hnodup.2 hf

lemma text_filled {entityType : ImportEntityType} {mapped : Fields} {f : ImportFieldSpec}
    (hnodup : (entityType.fields.map ImportFieldSpec.key).Nodup) (hf : f ∈ entityType.fields) (hrule : f.rule = .text)
    (herrors : (mapRow e entityType mapped).errors = []) :
    1 ≤ (Adapter.text (mapRow e entityType mapped).dto f.key).length := by
  have hvalid : f.rule.violations e f.key (f.value e mapped) = [] := List.flatMap_eq_nil_iff.mp herrors f hf
  have hlookup : (mapRow e entityType mapped).dto.lookup f.key = f.value e mapped :=
    lookup_dto (fun f => f.value e mapped) hnodup hf
  rw [Adapter.text, hlookup]
  rw [hrule] at hvalid
  cases hvalue : f.value e mapped with
  | none => simp [hvalue, FieldRule.violations] at hvalid
  | some value =>
    rw [hvalue, FieldRule.violations] at hvalid
    split_ifs at hvalid with hempty
    rw [Option.getD_some, Nat.one_le_iff_ne_zero]
    exact fun h => hempty (String.length_eq_zero_iff.mp h)

lemma parent_found {parentLegalName : Option String} {entityType : ImportEntityType}
    (hname : row.parentLegalName = parentLegalName)
    (h : ImportBatchService.parentErrors e org parentLegalName entityType.parentEntity = []) :
    ∃ parentId, resolveParent e org entityType row = .ok parentId := by
  rw [resolveParent, hname]
  cases hparent : entityType.parentEntity with
  | none => exact ⟨0, rfl⟩
  | some parentEntity =>
    rw [hparent, ImportBatchService.parentErrors] at h
    cases hresolved : ParentResolutionService.resolveByLegalName e org parentEntity parentLegalName with
    | ok parentId => exact ⟨parentId, hresolved⟩
    | error message => simp [hresolved] at h

def Unchanged (org : OrganizationData) (cache : ImportDuplicateCache) : Prop :=
  cache = none ∨ cache = some org.customers.rows

lemma checkBusinessRules_unchanged {o : RowOrder} {dto : Fields} {entityType : ImportEntityType}
    (h : Unchanged org cache) : Unchanged org (Adapter.checkBusinessRules e o org dto entityType cache).2 := by
  cases entityType with
  | customer =>
    refine Or.inr ?_
    rcases h with rfl | rfl <;> rfl
  | carrier =>
    simp only [Adapter.checkBusinessRules]
    split <;> exact h
  | _ => exact h

lemma checkBusinessRules_warned {o : RowOrder} {dto : Fields} {entityType : ImportEntityType}
    (h : (Adapter.checkBusinessRules e o org dto entityType cache).1.duplicateWarning ≠ []) :
    entityType = .customer := by
  cases entityType with
  | customer => rfl
  | carrier =>
    simp only [Adapter.checkBusinessRules] at h
    split at h <;> exact absurd rfl h
  | _ => exact absurd rfl h

lemma previewRow_previewed {o : RowOrder} {entityType : ImportEntityType} {columnMapping : ColumnMapping} {i : ℕ}
    {rawRow : Fields} (hcache : Unchanged org cache)
    (hvalid : (ImportBatchService.previewRow e o org entityType columnMapping i rawRow cache).1.status = .valid) :
    Previewed e org entityType (ImportBatchService.previewRow e o org entityType columnMapping i rawRow cache).1 := by
  simp only [ImportBatchService.previewRow] at hvalid ⊢
  obtain ⟨hfirst, hbusiness⟩ := List.append_eq_nil_iff.mp (of_not_not (fun h => by rw [if_neg h] at hvalid; cases hvalid))
  obtain ⟨hparent, hmapped⟩ := List.append_eq_nil_iff.mp hfirst
  rw [if_pos hfirst] at hbusiness
  simp only [if_pos hfirst, if_pos hmapped]
  refine ⟨parent_found rfl hparent, ?_, ?_, ?_⟩
  · exact fun hwarned => checkBusinessRules_warned (of_decide_eq_true hwarned)
  · rintro rfl hquiet
    have hcandidates : Adapter.ensureCache org cache = org.customers.rows := by
      rcases hcache with rfl | rfl <;> rfl
    simp only [Adapter.checkBusinessRules, hcandidates, ne_eq, decide_eq_false_iff_not, not_not] at hquiet
    exact matchDuplicates_eq_nil.mp hquiet
  · rintro rfl
    refine ⟨⟨?_, ?_⟩, ?_⟩
    · exact text_filled (f := ⟨"mcNumber", "MC Number", true, .text⟩) (by decide) (by decide) rfl hmapped
    · exact text_filled (f := ⟨"dotNumber", "DOT Number", true, .text⟩) (by decide) (by decide) rfl hmapped
    · simp only [Adapter.checkBusinessRules] at hbusiness
      split at hbusiness
      · simp at hbusiness
      · next hnone => exact findFirst_none.mp hnone

lemma previewRow_unchanged {o : RowOrder} {entityType : ImportEntityType} {columnMapping : ColumnMapping} {i : ℕ}
    {rawRow : Fields} (hcache : Unchanged org cache) :
    Unchanged org (ImportBatchService.previewRow e o org entityType columnMapping i rawRow cache).2 := by
  simp only [ImportBatchService.previewRow]
  split_ifs
  · exact checkBusinessRules_unchanged hcache
  · exact hcache

lemma previewRows_previewed {o : RowOrder} {entityType : ImportEntityType} {columnMapping : ColumnMapping} {i : ℕ}
    {rawRows : List Fields} (hcache : Unchanged org cache) :
    ∀ r ∈ ImportBatchService.previewRows e o org entityType columnMapping i rawRows cache,
      r.rowNumber = r.id + 1 ∧ r.status ≠ .skipped ∧ (r.status = .valid → Previewed e org entityType r) := by
  induction rawRows generalizing i cache with
  | nil => nofun
  | cons rawRow rest ih =>
    intro r hr
    have hr : r ∈ (ImportBatchService.previewRow e o org entityType columnMapping i rawRow cache).1 ::
        ImportBatchService.previewRows e o org entityType columnMapping (i + 1) rest
          (ImportBatchService.previewRow e o org entityType columnMapping i rawRow cache).2 := hr
    rcases List.mem_cons.mp hr with rfl | hr
    · refine ⟨rfl, ?_, previewRow_previewed hcache⟩
      simp only [ImportBatchService.previewRow]
      split_ifs <;> exact nofun
    · exact ih (previewRow_unchanged hcache) r hr

end Preview

namespace PreviewedImport

def importedBefore (e : Engine) (s : PreviewedImport) (q : ℕ → Request) (row : ImportBatchRow) : List ImportBatchRow :=
  (s.batch.eligibleRows.filter (fun r => decide (r.rowNumber < row.rowNumber))).filter
    (fun r => (statusOf (s.next e (.commit q)).batch.rows r.id).any (fun status => status == .imported))

structure Coherent (e : Engine) (s : PreviewedImport) : Prop where
  isOpen : s.Open
  numbered : ∀ r ∈ s.batch.rows.rows, r.rowNumber = r.id + 1
  valid : ∀ r ∈ s.batch.rows.rows, r.status = .valid → Previewed e s.org s.batch.batch.entityType r
  skipped : ∀ r ∈ s.batch.rows.rows, r.status = .skipped →
    r.duplicateWarning = true ∧ s.batch.batch.entityType = .customer

variable {s : PreviewedImport} {q : ℕ → Request}

lemma commit_rows (h : s.Open) : (s.next e (.commit q)).batch.rows = (s.processed e q).rows := by
  rw [next, if_pos h]
  rfl

lemma stands_first (e : Engine) (org : OrganizationData) (entityType : ImportEntityType) :
    Stands e org entityType [] org none where
  cached _ := Or.inl rfl
  subscription := rfl
  parents _ := rfl
  grown := by
    cases entityType with
    | customer => exact fun dto => by simp
    | carrier => exact ⟨fun row => by simp, rfl⟩
    | driver => exact ⟨fun carrierId license => by simp, rfl⟩
    | _ => trivial

theorem Coherent.commit_status (h : s.Coherent e) (hrow : row ∈ s.batch.rows.rows) (hvalid : row.status = .valid) :
    statusOf (s.next e (.commit q)).batch.rows row.id =
      some (verdict e s.org s.batch.batch.entityType q (s.importedBefore e q row) row) := by
  obtain ⟨front, back, hsplit⟩ := List.append_of_mem (mem_eligibleRows.mpr ⟨hrow, hvalid⟩)
  have hpass := processRow_step e s.org s.batch.batch q (s.batch.rows.rows.map ImportBatchRow.id)
  have hgood : ∀ r ∈ s.batch.eligibleRows, Previewed e s.org s.batch.batch.entityType r ∧
      r.id ∈ s.batch.rows.rows.map ImportBatchRow.id := by
    intro r hr
    obtain ⟨hmem, hstatus⟩ := mem_eligibleRows.mp hr
    exact ⟨h.valid r hmem hstatus, List.mem_map_of_mem hmem⟩
  have hverdict := foldl_verdict hpass [] ⟨s.org, none, s.batch.rows⟩
    ⟨stands_first e s.org s.batch.batch.entityType, rfl⟩ hgood eligibleRows_nodup hsplit
  rw [importedBefore, commit_rows h.isOpen, eligibleRows_before h.numbered hsplit]
  exact hverdict

structure SameRow (r r' : ImportBatchRow) : Prop where
  id : r'.id = r.id
  rowNumber : r'.rowNumber = r.rowNumber
  duplicateWarning : r'.duplicateWarning = r.duplicateWarning

lemma marked_same (result : RowResult) (now : Instant) (r : ImportBatchRow) : SameRow r (r.marked result now) := by
  cases result <;> exact ⟨rfl, rfl, rfl⟩

lemma foldl_same (batch : ImportBatch) (q : ℕ → Request) (rows : List ImportBatchRow) (job : JobData) :
    ∀ r' ∈ (rows.foldl (processRow e batch q) job).rows.rows, ∃ r ∈ job.rows.rows, SameRow r r' := by
  induction rows generalizing job with
  | nil => exact fun r hr => ⟨r, hr, rfl, rfl, rfl⟩
  | cons row rest ih =>
    intro r' hr'
    obtain ⟨r₁, hr₁, hsame⟩ := ih (processRow e batch q job row) r' hr'
    obtain ⟨result, now, hmarks⟩ := processRow_marks e batch q job row
    rw [hmarks] at hr₁
    rcases (Table.mem_update _ _ _ _).mp hr₁ with ⟨r, hr, _, rfl⟩ | ⟨hr, _⟩
    · have hmarked := marked_same result now r
      exact ⟨r, hr, hsame.id.trans hmarked.id, hsame.rowNumber.trans hmarked.rowNumber,
        hsame.duplicateWarning.trans hmarked.duplicateWarning⟩
    · exact ⟨r₁, hr, hsame⟩

lemma statusOf_mem {rows : Table ImportBatchRow.id} {r : ImportBatchRow} (h : r ∈ rows.rows) :
    statusOf rows r.id = some r.status := by
  rw [statusOf, Table.get_eq_some.mpr ⟨h, rfl⟩, Option.map_some]

lemma verdict_skipped {entityType : ImportEntityType} {earlier : List ImportBatchRow}
    (h : verdict e org entityType q earlier row = .skipped) : row.duplicateWarning = true := by
  rw [verdict] at h
  split_ifs at h with hskipped
  exact (Bool.and_eq_true_iff.mp hskipped).1

lemma verdict_not_valid {entityType : ImportEntityType} {earlier : List ImportBatchRow} :
    verdict e org entityType q earlier row ≠ .valid := by
  rw [verdict]
  split_ifs <;> exact nofun

lemma Coherent.commit_frame (h : s.Coherent e) (hrow : row ∈ s.batch.rows.rows) (hvalid : row.status ≠ .valid) :
    statusOf (s.next e (.commit q)).batch.rows row.id = some row.status := by
  have hpass := processRow_step e s.org s.batch.batch q (s.batch.rows.rows.map ImportBatchRow.id)
  have hgood : ∀ r ∈ s.batch.eligibleRows, Previewed e s.org s.batch.batch.entityType r ∧
      r.id ∈ s.batch.rows.rows.map ImportBatchRow.id := by
    intro r hr
    obtain ⟨hmem, hstatus⟩ := mem_eligibleRows.mp hr
    exact ⟨h.valid r hmem hstatus, List.mem_map_of_mem hmem⟩
  have hother : row.id ∉ s.batch.eligibleRows.map ImportBatchRow.id := by
    intro hid
    obtain ⟨r, hr, hsame⟩ := List.mem_map.mp hid
    obtain ⟨hmem, hstatus⟩ := mem_eligibleRows.mp hr
    rw [s.batch.rows.eq_of_key hmem hrow hsame] at hstatus
    exact hvalid hstatus
  have hframe := foldl_frame hpass [] ⟨s.org, none, s.batch.rows⟩
    ⟨stands_first e s.org s.batch.batch.entityType, rfl⟩ hgood hother
  rw [commit_rows h.isOpen, ← statusOf_mem hrow]
  exact hframe

lemma Coherent.commit (h : s.Coherent e) : (s.next e (.commit q)).Coherent e := by
  have hentity : (s.next e (.commit q)).batch.batch.entityType = s.batch.batch.entityType := by
    rw [next, if_pos h.isOpen]
    rfl
  have hrows : ∀ r' ∈ (s.next e (.commit q)).batch.rows.rows, ∃ r ∈ s.batch.rows.rows, SameRow r r' := by
    rw [commit_rows h.isOpen]
    exact foldl_same _ _ _ _
  have hstatus : ∀ r ∈ s.batch.rows.rows, ∀ r' ∈ (s.next e (.commit q)).batch.rows.rows, r'.id = r.id →
      r'.status ≠ .valid ∧ (r'.status = .skipped → r.duplicateWarning = true ∧ s.batch.batch.entityType = .customer) := by
    intro r hr r' hr' hid
    have hshown := statusOf_mem hr'
    rw [hid] at hshown
    by_cases hvalid : r.status = .valid
    · rw [h.commit_status hr hvalid, Option.some.injEq] at hshown
      refine ⟨hshown ▸ verdict_not_valid, fun hskipped => ?_⟩
      have hwarned := verdict_skipped (hshown.trans hskipped)
      exact ⟨hwarned, (h.valid r hr hvalid).warned hwarned⟩
    · rw [h.commit_frame hr hvalid, Option.some.injEq] at hshown
      exact ⟨hshown ▸ hvalid, fun hskipped => h.skipped r hr (hshown.trans hskipped)⟩
  constructor
  · rw [Open, next, if_pos h.isOpen]
    exact Or.inr rfl
  · intro r' hr'
    obtain ⟨r, hr, hsame⟩ := hrows r' hr'
    rw [hsame.rowNumber, hsame.id, h.numbered r hr]
  · intro r' hr' hvalid
    obtain ⟨r, hr, hsame⟩ := hrows r' hr'
    exact absurd hvalid (hstatus r hr r' hr' hsame.id).1
  · intro r' hr' hskipped
    obtain ⟨r, hr, hsame⟩ := hrows r' hr'
    rw [hsame.duplicateWarning, hentity]
    exact (hstatus r hr r' hr' hsame.id).2 hskipped

lemma Coherent.updateRow (h : s.Coherent e) (rowId : Uuid) (acknowledgeDuplicate : Bool) :
    (s.next e (.updateRow rowId acknowledgeDuplicate)).Coherent e := by
  rw [next, if_pos h.isOpen]
  have hrows : ∀ r' ∈ (s.batch.rows.update rowId (.acknowledged ⟨rowId, acknowledgeDuplicate⟩)
      (ImportBatchRow.acknowledged_id _)).rows, ∃ r ∈ s.batch.rows.rows, SameRow r r' ∧
        r'.mappedData = r.mappedData ∧ r'.parentLegalName = r.parentLegalName ∧
        (r'.status = r.status ∨ r.status = .skipped ∧ r'.status = .valid) := by
    intro r' hr'
    rcases (Table.mem_update _ _ _ _).mp hr' with ⟨r, hr, _, rfl⟩ | ⟨hr, _⟩
    · refine ⟨r, hr, ?_⟩
      rw [ImportBatchRow.acknowledged]
      split_ifs with hreset
      · exact ⟨⟨rfl, rfl, rfl⟩, rfl, rfl, Or.inr ⟨hreset.1, rfl⟩⟩
      · exact ⟨⟨rfl, rfl, rfl⟩, rfl, rfl, Or.inl rfl⟩
    · exact ⟨r', hr, ⟨rfl, rfl, rfl⟩, rfl, rfl, Or.inl rfl⟩
  constructor
  · exact h.isOpen
  · intro r' hr'
    obtain ⟨r, hr, hsame, _⟩ := hrows r' hr'
    rw [hsame.rowNumber, hsame.id, h.numbered r hr]
  · intro r' hr' hvalid
    obtain ⟨r, hr, hsame, hdata, hparent, hstatus | ⟨hskipped, _⟩⟩ := hrows r' hr'
    · obtain ⟨parent, warned, unwarned, numbers⟩ := h.valid r hr (hstatus ▸ hvalid)
      refine ⟨?_, ?_, ?_, ?_⟩
      · rwa [resolveParent, hparent]
      · rwa [hsame.duplicateWarning]
      · rwa [hsame.duplicateWarning, customerRow, hdata]
      · rwa [hdata]
    · obtain ⟨hwarned, hcustomer⟩ := h.skipped r hr hskipped
      refine ⟨?_, fun _ => hcustomer, fun _ hquiet => ?_, fun hcarrier => ?_⟩
      · exact ⟨0, by simp only [resolveParent, hcustomer]; rfl⟩
      · rw [hsame.duplicateWarning, hwarned] at hquiet
        cases hquiet
      · change s.batch.batch.entityType = .carrier at hcarrier
        rw [hcustomer] at hcarrier
        cases hcarrier
  · intro r' hr' hskipped
    obtain ⟨r, hr, hsame, _, _, hstatus | ⟨_, hvalid⟩⟩ := hrows r' hr'
    · rw [hsame.duplicateWarning]
      exact h.skipped r hr (hstatus ▸ hskipped)
    · rw [hskipped] at hvalid
      cases hvalid

theorem Coherent.run (h : s.Coherent e) (requests : List PreviewRequest) :
    (requests.foldl (next e) s).Coherent e := by
  induction requests generalizing s with
  | nil => exact h
  | cons request rest ih =>
    refine ih ?_
    cases request with
    | updateRow rowId acknowledgeDuplicate => exact h.updateRow rowId acknowledgeDuplicate
    | commit q => exact h.commit

/-- What becomes of the rows in the next commit: of one that the preview found valid, and of one that was skipped and
is acknowledged before. -/
def Agrees (e : Engine) (s : PreviewedImport) : Prop :=
  ∀ row ∈ s.batch.rows.rows,
    (row.status = .valid → ∀ q, statusOf (s.next e (.commit q)).batch.rows row.id =
      some (verdict e s.org s.batch.batch.entityType q (s.importedBefore e q row) row)) ∧
    (row.status = .skipped → ∀ q,
      statusOf ((s.next e (.updateRow row.id true)).next e (.commit q)).batch.rows row.id = some .imported)

lemma verdict_acknowledged {earlier : List ImportBatchRow} (h : row.acknowledgeDuplicate = true) :
    verdict e org .customer q earlier row = .imported := by
  have hopen : ¬ (row.duplicateWarning && !row.acknowledgeDuplicate) = true := by simp [h]
  have haccepted : ¬ Refused e org .customer (q row.rowNumber).now earlier row := by
    rintro ⟨hack, _⟩
    rw [h] at hack
    cases hack
  rw [verdict, if_neg hopen, if_neg haccepted]

lemma Coherent.agrees (h : s.Coherent e) : s.Agrees e := by
  refine fun row hrow => ⟨fun hvalid q => h.commit_status hrow hvalid, fun hskipped q => ?_⟩
  have hcoherent := h.updateRow row.id true
  have hacknowledged : row.acknowledged ⟨row.id, true⟩ =
      { row with acknowledgeDuplicate := true, status := .valid, errors := [], processedAt := none } :=
    if_pos ⟨hskipped, rfl⟩
  have hmem : row.acknowledged ⟨row.id, true⟩ ∈ (s.next e (.updateRow row.id true)).batch.rows.rows := by
    rw [next, if_pos h.isOpen]
    exact (Table.mem_update _ _ _ (ImportBatchRow.acknowledged_id _)).mpr (Or.inl ⟨row, hrow, rfl, rfl⟩)
  have hcustomer : (s.next e (.updateRow row.id true)).batch.batch.entityType = .customer := by
    rw [next, if_pos h.isOpen]
    exact (h.skipped row hrow hskipped).2
  have hstatus := hcoherent.commit_status (q := q) hmem (by rw [hacknowledged])
  rw [hcustomer, verdict_acknowledged (by rw [hacknowledged]), ImportBatchRow.acknowledged_id] at hstatus
  exact hstatus

end PreviewedImport

lemma submitMapping_coherent {o : RowOrder} {columnMapping : ColumnMapping} {rawRows : List Fields}
    {preview : ImportState}
    (h : ImportBatchService.submitMapping e o org batch columnMapping rawRows = .ok preview) :
    PreviewedImport.Coherent e ⟨org, preview⟩ := by
  simp only [ImportBatchService.submitMapping, bind_eq_ok, ensure_eq_ok, pure_eq_ok] at h
  obtain ⟨_, _, _, _, rfl⟩ := h
  have hrows : ∀ r ∈ ImportBatchService.previewRows e o org batch.entityType columnMapping 0 rawRows none,
      r.rowNumber = r.id + 1 ∧ r.status ≠ .skipped ∧ (r.status = .valid → Previewed e org batch.entityType r) :=
    previewRows_previewed (Or.inl rfl)
  exact ⟨Or.inl rfl, fun r hr => (hrows r hr).1, fun r hr => (hrows r hr).2.2,
    fun r hr hskipped => absurd hskipped (hrows r hr).2.1⟩

theorem preview_agrees {o : RowOrder} {columnMapping : ColumnMapping} {rawRows : List Fields} {preview : ImportState}
    (h : ImportBatchService.submitMapping e o org batch columnMapping rawRows = .ok preview)
    (requests : List PreviewRequest) :
    (requests.foldl (PreviewedImport.next e) ⟨org, preview⟩).Agrees e :=
  ((submitMapping_coherent h).run requests).agrees

namespace Sample

def asciiEngine : Engine where
  toLowerCase := String.map Char.toLower
  toUpperCase := String.map Char.toUpper
  number _ := none
  isEmail text := text.toList.contains '@'
  sameName a b := a.map Char.toLower == b.map Char.toLower

def oneCustomer : OrganizationData where
  organizationId := 1
  documents := .empty
  customers := ⟨[⟨5, "Acme Freight", "1 Main St", "Ames", "IA", "50010", "US", "Ann", "ann@acme.example", "1", []⟩],
    by decide⟩

def uploaded : ImportBatch :=
  { id := 1, entityType := .customer, status := .mapping, totalRows := 3, validRowCount := 0, invalidRowCount := 0
    createdByUserId := 9 }

def columns : ColumnMapping := ImportEntityType.customer.fields.map (fun f => (f.label, some f.key))

def customerCells (legalName line1 email : String) : Fields :=
  [("Legal Name", legalName), ("Billing Address Line 1", line1), ("Billing City", "Ames"), ("Billing State", "IA"),
    ("Billing Zip", "50010"), ("Primary Contact Name", "Bo"), ("Primary Contact Email", email),
    ("Primary Contact Phone", "2")]

def customerFile : List Fields :=
  [customerCells "ACME freight" "2 Oak Ave" "x@acme.example",
    customerCells "Northern Lines" "3 Elm St" "bo@north.example",
    customerCells "Northern-Lines" "4 Fir St" "al@north.example"]

def submitted : Except AppError ImportState :=
  ImportBatchService.submitMapping asciiEngine .stored oneCustomer uploaded columns customerFile

def previewed : ImportState := accepted submitted (by decide +kernel)

def commits : ℕ → Request := Carriers.Sample.request

end Sample

open Sample

theorem preview_agrees_sample :
    (PreviewedImport.next asciiEngine ⟨oneCustomer, previewed⟩ (.commit commits)).Agrees asciiEngine :=
  have hsubmitted : submitted = .ok previewed := eq_accepted _
  preview_agrees hsubmitted [.commit commits]

/-- The preview finds both rows of the company valid and warns of neither, and the commit refuses the second. -/
theorem twin_row_fails : submitted = .ok previewed ∧
    (previewed.rows.rows.map (fun row => (row.status, row.duplicateWarning)) =
      [(.valid, true), (.valid, false), (.valid, false)]) ∧
    ((PreviewedImport.next asciiEngine ⟨oneCustomer, previewed⟩ (.commit commits)).batch.rows.rows.map
      ImportBatchRow.status = [.skipped, .imported, .failed]) :=
  ⟨eq_accepted _, by decide +kernel, by decide +kernel⟩

end Truckmaster.Imports
