import Truckmaster.Carriers.CarrierService

namespace Truckmaster.Customers

open Common Carriers Fallible Tables

structure CreateCustomerInput where
  legalName : String
  billingAddressLine1 : String
  billingCity : String
  billingState : String
  billingZip : String
  billingCountry : Option String := none
  primaryContactName : String
  primaryContactEmail : String
  primaryContactPhone : String
  acknowledgeDuplicates : Bool := false

/-- What an import gives a child record: the columns that it has filled. -/
abbrev Fields := List (String × String)

structure CustomerContact where
  id : Uuid
  email : Option String
  fields : Fields := []
  deriving DecidableEq, Repr

structure Customer where
  id : Uuid
  legalName : String
  billingAddressLine1 : String
  billingCity : String
  billingState : String
  billingZip : String
  billingCountry : String := "US"
  primaryContactName : String := ""
  primaryContactEmail : String
  primaryContactPhone : String := ""
  contacts : List CustomerContact := []
  deriving DecidableEq, Repr

def Customer.withContact (contact : CustomerContact) (c : Customer) : Customer :=
  { c with contacts := c.contacts ++ [contact] }

lemma Customer.withContact_id (contact : CustomerContact) (c : Customer) : (c.withContact contact).id = c.id := rfl

structure ChildRecord where
  id : Uuid
  kind : String
  parentId : Uuid
  fields : Fields
  deriving DecidableEq, Repr

structure OrganizationData extends CarrierDb where
  organizationId : Uuid
  customers : Table Customer.id := .empty
  /-- The legal name of each carrier. -/
  carrierNames : List (Uuid × String) := []
  children : List ChildRecord := []

namespace OrganizationData

def ids (org : OrganizationData) : List Uuid :=
  org.customers.rows.map Customer.id ++ org.carriers.rows.map Carrier.id ++ org.drivers.rows.map Driver.id

/-- A generated id is one that no row has. -/
def nextUuid (org : OrganizationData) : Uuid := org.ids.max?.getD 0 + 1

def carrierName (org : OrganizationData) (carrierId : Uuid) : String := (org.carrierNames.lookup carrierId).getD ""

def record (org : OrganizationData) (event : AuditEvent) : OrganizationData := { org with audit := org.audit ++ [event] }

end OrganizationData

namespace CustomerService

structure DuplicateMatch where
  customerId : Uuid
  legalName : String
  matchedOn : List String
  deriving DecidableEq, Repr

section Matching

/-! `lower` is `String.prototype.toLowerCase`. -/

variable (lower : String → String)

def normalize (value : String) : List (List Char) :=
  ((lower value).toList.splitOnP (fun c => !QuoteLoad.RateAgreementMatchingService.isWordChar c)).filter
    (fun w => w ≠ [])

def address (line1 city state zip : String) : String := line1 ++ " " ++ city ++ " " ++ state ++ " " ++ zip

def emailPool (candidate : Customer) : List String :=
  lower candidate.primaryContactEmail ::
    (candidate.contacts.filterMap (fun c => c.email.map lower)).filter (fun email => email ≠ "")

def matchedOn (dto : CreateCustomerInput) (candidate : Customer) : List String :=
  (if normalize lower candidate.legalName = normalize lower dto.legalName then ["legalName"] else []) ++
  (if normalize lower (address candidate.billingAddressLine1 candidate.billingCity candidate.billingState
        candidate.billingZip) =
      normalize lower (address dto.billingAddressLine1 dto.billingCity dto.billingState dto.billingZip)
    then ["billingAddress"] else []) ++
  if lower dto.primaryContactEmail ∈ emailPool lower candidate then ["primaryContactEmail"] else []

def matchDuplicates (dto : CreateCustomerInput) (candidates : List Customer) : List DuplicateMatch :=
  candidates.filterMap fun candidate =>
    if matchedOn lower dto candidate = [] then none
    else some ⟨candidate.id, candidate.legalName, matchedOn lower dto candidate⟩

def duplicatesFound (duplicates : List DuplicateMatch) : AppError :=
  ⟨.conflict, "One or more possible duplicate customers were found.",
    "POSSIBLE_DUPLICATE_CUSTOMER" :: duplicates.map (fun m => toString m.customerId)⟩

def duplicateEvents (q : Request) (organizationId : Uuid) : List DuplicateMatch → List AuditEvent
  | [] => []
  | _ => [⟨"Duplicate Warning Shown", "Customer", organizationId, none, .system, none⟩,
      ⟨"Duplicate Warning Acknowledged", "Customer", organizationId, some q.actingUserId, .human, none⟩]

end Matching

def customerOf (id : Uuid) (dto : CreateCustomerInput) : Customer where
  id
  legalName := dto.legalName
  billingAddressLine1 := dto.billingAddressLine1
  billingCity := dto.billingCity
  billingState := dto.billingState
  billingZip := dto.billingZip
  billingCountry := dto.billingCountry.getD "US"
  primaryContactName := dto.primaryContactName
  primaryContactEmail := dto.primaryContactEmail
  primaryContactPhone := dto.primaryContactPhone

/-- The terms of payment are left out: the column of the organization's default cannot be empty. -/
def create (lower : String → String) (q : Request) (org : OrganizationData) (dto : CreateCustomerInput)
    (precomputedCandidates : Option (List Customer)) : Except AppError (Customer × OrganizationData) := do
  let duplicates := matchDuplicates lower dto (precomputedCandidates.getD org.customers.rows)
  ensure (duplicates = [] ∨ dto.acknowledgeDuplicates = true) (duplicatesFound duplicates)
  let customer := customerOf (q.uuid 0) dto
  let customers ← require (org.customers.insert customer) (CarrierService.uniqueFailed "id")
  pure (customer, { org with
    customers
    audit := org.audit ++ duplicateEvents q org.organizationId duplicates ++
      [⟨"Customer Created", "Customer", customer.id, some q.actingUserId, .human, none⟩] })

def findCustomer (q : Request) (org : OrganizationData) (customerId : Uuid) : Except AppError Customer :=
  require (findFirst (q.order 0) (fun c => c.id == customerId) org.customers.rows) (.notFound "Customer not found.")

def addContact (q : Request) (org : OrganizationData) (customerId : Uuid) (dto : Fields) :
    Except AppError (Uuid × OrganizationData) := do
  let _ ← findCustomer q org customerId
  let contact : CustomerContact := ⟨q.uuid 0, dto.lookup "email", dto⟩
  pure (contact.id, { org with
    customers := org.customers.update customerId (.withContact contact) (Customer.withContact_id contact)
    audit := org.audit ++ [⟨"Customer Contact Added", "Customer", customerId, some q.actingUserId, .human, none⟩] })

def addLocation (q : Request) (org : OrganizationData) (customerId : Uuid) (dto : Fields) :
    Except AppError (Uuid × OrganizationData) := do
  let _ ← findCustomer q org customerId
  pure (q.uuid 0, { org with
    children := org.children ++ [⟨q.uuid 0, "CustomerLocation", customerId,
      dto ++ if (dto.lookup "country").isNone then [("country", "US")] else []⟩]
    audit := org.audit ++ [⟨"Customer Location Added", "Customer", customerId, some q.actingUserId, .human, none⟩] })

end CustomerService

/-- `CarrierService.addContact`, `addTruck` and `addTrailer`. -/
def addCarrierChild (kind action : String) (q : Request) (org : OrganizationData) (carrierId : Uuid) (dto : Fields) :
    Except AppError (Uuid × OrganizationData) := do
  let _ ← require (org.findCarrier (q.order 0) carrierId) (.notFound "Carrier not found.")
  pure (q.uuid 0, { org with
    children := org.children ++ [⟨q.uuid 0, kind, carrierId, dto⟩]
    audit := org.audit ++ [⟨action, "Carrier", carrierId, some q.actingUserId, .human, none⟩] })

namespace CarrierService

def addContact (q : Request) (org : OrganizationData) (carrierId : Uuid) (dto : Fields) :
    Except AppError (Uuid × OrganizationData) :=
  addCarrierChild "CarrierContact" "Carrier Contact Added" q org carrierId dto

def addTruck (q : Request) (org : OrganizationData) (carrierId : Uuid) (dto : Fields) :
    Except AppError (Uuid × OrganizationData) :=
  addCarrierChild "Truck" "Truck Added" q org carrierId dto

def addTrailer (q : Request) (org : OrganizationData) (carrierId : Uuid) (dto : Fields) :
    Except AppError (Uuid × OrganizationData) :=
  addCarrierChild "Trailer" "Trailer Added" q org carrierId dto

end CarrierService

end Truckmaster.Customers
