import Truckmaster.Customers.CustomerService
import Truckmaster.Imports.ImportBatches

namespace Truckmaster.Imports

open Common Carriers Customers Fallible Tables

/-- The tables of Unicode, the reading of numbers, the pattern of an email address and the collation. -/
structure Engine where
  toLowerCase : String → String
  toUpperCase : String → String
  /-- The number that `Number()` makes of a text, where that is a finite one. -/
  number : String → Option ℚ
  isEmail : String → Bool
  /-- `equals` with `mode: 'insensitive'`. -/
  sameName : String → String → Bool

inductive FieldRule
  | text
  | optionalText
  | email
  | optionalEmail
  | enum (values : List String)
  | optionalYear
  deriving DecidableEq, Repr

structure ImportFieldSpec where
  key : String
  label : String
  required : Bool
  rule : FieldRule
  deriving DecidableEq, Repr

inductive ParentEntity
  | customer | carrier
  deriving DecidableEq, Repr

def oneOf (label : String) (values : List String) : String := label ++ " (" ++ String.intercalate "/" values ++ ")"

def customerContactRoles : List String := ["BOOKING", "OPERATIONS", "BILLING", "MANAGEMENT", "OTHER"]

def customerLocationTypes : List String := ["PICKUP", "DELIVERY", "OTHER"]

def carrierContactRoles : List String :=
  ["DISPATCH", "SAFETY_COMPLIANCE", "BILLING", "FACTORING", "MANAGEMENT", "OTHER"]

def equipmentTypes : List String := ["DRY_VAN", "REEFER", "FLATBED"]

namespace ImportEntityType

def fields : ImportEntityType → List ImportFieldSpec
  | .customer =>
    [⟨"legalName", "Legal Name", true, .text⟩,
      ⟨"billingAddressLine1", "Billing Address Line 1", true, .text⟩,
      ⟨"billingCity", "Billing City", true, .text⟩,
      ⟨"billingState", "Billing State", true, .text⟩,
      ⟨"billingZip", "Billing Zip", true, .text⟩,
      ⟨"billingCountry", "Billing Country", false, .optionalText⟩,
      ⟨"primaryContactName", "Primary Contact Name", true, .text⟩,
      ⟨"primaryContactEmail", "Primary Contact Email", true, .email⟩,
      ⟨"primaryContactPhone", "Primary Contact Phone", true, .text⟩]
  | .customerContact =>
    [⟨"name", "Name", true, .text⟩,
      ⟨"role", oneOf "Role" customerContactRoles, true, .enum customerContactRoles⟩,
      ⟨"email", "Email", false, .optionalEmail⟩,
      ⟨"phone", "Phone", false, .optionalText⟩]
  | .customerLocation =>
    [⟨"name", "Name", true, .text⟩,
      ⟨"addressLine1", "Address Line 1", true, .text⟩,
      ⟨"city", "City", true, .text⟩,
      ⟨"state", "State", true, .text⟩,
      ⟨"zip", "Zip", true, .text⟩,
      ⟨"country", "Country", false, .optionalText⟩,
      ⟨"locationType", oneOf "Location Type" customerLocationTypes, true, .enum customerLocationTypes⟩,
      ⟨"contactName", "Contact Name", false, .optionalText⟩,
      ⟨"contactPhone", "Contact Phone", false, .optionalText⟩,
      ⟨"contactEmail", "Contact Email", false, .optionalEmail⟩,
      ⟨"operatingHours", "Operating Hours", false, .optionalText⟩,
      ⟨"appointmentRequirements", "Appointment Requirements", false, .optionalText⟩,
      ⟨"notes", "Notes", false, .optionalText⟩]
  | .carrier =>
    [⟨"legalName", "Legal Name", true, .text⟩,
      ⟨"dba", "DBA", false, .optionalText⟩,
      ⟨"mcNumber", "MC Number", true, .text⟩,
      ⟨"dotNumber", "DOT Number", true, .text⟩,
      ⟨"addressLine1", "Address Line 1", true, .text⟩,
      ⟨"city", "City", true, .text⟩,
      ⟨"state", "State", true, .text⟩,
      ⟨"zip", "Zip", true, .text⟩,
      ⟨"primaryContactName", "Primary Contact Name", true, .text⟩,
      ⟨"primaryContactPhone", "Primary Contact Phone", true, .text⟩,
      ⟨"primaryContactEmail", "Primary Contact Email", true, .email⟩]
  | .carrierContact =>
    [⟨"name", "Name", true, .text⟩,
      ⟨"role", oneOf "Role" carrierContactRoles, true, .enum carrierContactRoles⟩,
      ⟨"email", "Email", false, .optionalEmail⟩,
      ⟨"phone", "Phone", false, .optionalText⟩]
  | .driver =>
    [⟨"firstName", "First Name", true, .text⟩,
      ⟨"lastName", "Last Name", true, .text⟩,
      ⟨"phone", "Phone", true, .text⟩,
      ⟨"email", "Email", false, .optionalEmail⟩,
      ⟨"licenseNumber", "License Number", false, .optionalText⟩,
      ⟨"notes", "Notes", false, .optionalText⟩]
  | .truck =>
    [⟨"unitNumber", "Unit Number", true, .text⟩,
      ⟨"truckType", oneOf "Truck Type" equipmentTypes, true, .enum equipmentTypes⟩,
      ⟨"make", "Make", false, .optionalText⟩,
      ⟨"model", "Model", false, .optionalText⟩,
      ⟨"year", "Year", false, .optionalYear⟩,
      ⟨"vin", "VIN", false, .optionalText⟩,
      ⟨"plate", "Plate", false, .optionalText⟩,
      ⟨"notes", "Notes", false, .optionalText⟩]
  | .trailer =>
    [⟨"unitNumber", "Unit Number", true, .text⟩,
      ⟨"trailerType", oneOf "Trailer Type" equipmentTypes, true, .enum equipmentTypes⟩,
      ⟨"vin", "VIN", false, .optionalText⟩,
      ⟨"plate", "Plate", false, .optionalText⟩,
      ⟨"notes", "Notes", false, .optionalText⟩]

def parentEntity : ImportEntityType → Option ParentEntity
  | .customer => none
  | .carrier => none
  | .customerContact => some .customer
  | .customerLocation => some .customer
  | .carrierContact => some .carrier
  | .driver => some .carrier
  | .truck => some .carrier
  | .trailer => some .carrier

end ImportEntityType

def ParentEntity.field : ParentEntity → ImportFieldSpec
  | .customer => ⟨"customerLegalName", "Customer Legal Name", true, .text⟩
  | .carrier => ⟨"carrierLegalName", "Carrier Legal Name", true, .text⟩

def blankToUndefined (value : Option String) : Option String :=
  value.bind (fun text => if trim text = "" then none else some (trim text))

namespace FieldRule

def convert (e : Engine) : FieldRule → String → String
  | .enum _, value => e.toUpperCase value
  | _, value => value

def yearErrors (key : String) (number : Option ℚ) : List String :=
  (if number.any (fun n => decide (n ≤ 2100)) then [] else [key ++ " must not be greater than 2100"]) ++
  (if number.any (fun n => decide (1900 ≤ n)) then [] else [key ++ " must not be less than 1900"]) ++
  if number.any (fun n => decide (n.den = 1)) then [] else [key ++ " must be an integer number"]

def violations (e : Engine) (key : String) : FieldRule → Option String → List String
  | .text, none => [key ++ " must be longer than or equal to 1 characters", key ++ " must be a string"]
  | .text, some value => if value = "" then [key ++ " must be longer than or equal to 1 characters"] else []
  | .optionalText, _ => []
  | .email, value => if value.any e.isEmail then [] else [key ++ " must be an email"]
  | .optionalEmail, value => if value.all e.isEmail then [] else [key ++ " must be an email"]
  | .enum values, value =>
    if value.any (fun v => values.contains v) then []
    else [key ++ " must be one of the following values: " ++ String.intercalate ", " values]
  | .optionalYear, none => []
  | .optionalYear, some value => yearErrors key (e.number value)

end FieldRule

def ImportFieldSpec.value (e : Engine) (f : ImportFieldSpec) (mapped : Fields) : Option String :=
  (blankToUndefined (mapped.lookup f.key)).map (f.rule.convert e)

structure MapRowResult where
  dto : Fields
  errors : List String

def mapRow (e : Engine) (entityType : ImportEntityType) (mapped : Fields) : MapRowResult where
  dto := entityType.fields.filterMap (fun f => (f.value e mapped).map (fun value => (f.key, value)))
  errors := entityType.fields.flatMap (fun f => f.rule.violations e f.key (f.value e mapped))

namespace ParentResolutionService

def parents (e : Engine) (org : OrganizationData) (name : String) : ParentEntity → List Uuid
  | .customer => (org.customers.rows.filter (fun c => e.sameName c.legalName name)).map Customer.id
  | .carrier => (org.carriers.rows.filter (fun c => e.sameName (org.carrierName c.id) name)).map Carrier.id

def noun : ParentEntity → String
  | .customer => "customer"
  | .carrier => "carrier"

def resolveByLegalName (e : Engine) (org : OrganizationData) (parentEntity : ParentEntity) (legalName : Option String) :
    Except String Uuid :=
  let trimmed := trim (legalName.getD "")
  if trimmed = "" then .error "Parent legal name is required."
  else match parents e org trimmed parentEntity with
    | [] => .error ("No " ++ noun parentEntity ++ " found named \"" ++ trimmed ++ "\".")
    | [id] => .ok id
    | ids => .error (toString ids.length ++ " " ++ noun parentEntity ++ "s found named \"" ++ trimmed ++
        "\" — cannot resolve uniquely.")

end ParentResolutionService

/-- The customers that one preview or one job has read, and those it has created since. -/
abbrev ImportDuplicateCache := Option (List Customer)

namespace Adapter

def text (dto : Fields) (key : String) : String := (dto.lookup key).getD ""

def customerInput (dto : Fields) (acknowledgeDuplicates : Bool) : CreateCustomerInput where
  legalName := text dto "legalName"
  billingAddressLine1 := text dto "billingAddressLine1"
  billingCity := text dto "billingCity"
  billingState := text dto "billingState"
  billingZip := text dto "billingZip"
  billingCountry := dto.lookup "billingCountry"
  primaryContactName := text dto "primaryContactName"
  primaryContactEmail := text dto "primaryContactEmail"
  primaryContactPhone := text dto "primaryContactPhone"
  acknowledgeDuplicates

def ensureCache (org : OrganizationData) (cache : ImportDuplicateCache) : List Customer := cache.getD org.customers.rows

def sharesNumber (dto : Fields) (c : Carrier) : Bool :=
  c.mcNumber == text dto "mcNumber" || c.dotNumber == text dto "dotNumber"

structure ImportBusinessRuleResult where
  errors : List String := []
  duplicateWarning : List CustomerService.DuplicateMatch := []

def checkBusinessRules (e : Engine) (o : RowOrder) (org : OrganizationData) (dto : Fields) :
    ImportEntityType → ImportDuplicateCache → ImportBusinessRuleResult × ImportDuplicateCache
  | .customer, cache =>
    let candidates := ensureCache org cache
    ({ duplicateWarning := CustomerService.matchDuplicates e.toLowerCase (customerInput dto false) candidates },
      some candidates)
  | .carrier, cache =>
    match findFirst o (sharesNumber dto) org.carriers.rows with
    | some duplicate =>
      ({ errors := ["A carrier with this MC number or DOT number already exists (" ++
          org.carrierName duplicate.id ++ ")."] }, cache)
    | none => ({}, cache)
  | _, cache => ({}, cache)

def commitCustomer (e : Engine) (q : Request) (org : OrganizationData) (dto : Fields) (acknowledgeDuplicate : Bool)
    (cache : ImportDuplicateCache) : Except AppError (Uuid × OrganizationData) × ImportDuplicateCache :=
  let candidates := ensureCache org cache
  match CustomerService.create e.toLowerCase q org (customerInput dto acknowledgeDuplicate) (some candidates) with
  | .ok (customer, created) =>
    -- later rows of the same job see this customer too
    (.ok (customer.id, created), some (candidates ++ [{ customer with contacts := [] }]))
  | .error error => (.error error, some candidates)

def commitCarrier (q : Request) (org : OrganizationData) (dto : Fields) : Except AppError (Uuid × OrganizationData) :=
  if h : 1 ≤ (text dto "mcNumber").length ∧ 1 ≤ (text dto "dotNumber").length then do
    let created ← (CarrierService.create q ⟨text dto "mcNumber", text dto "dotNumber", h⟩).exec CarrierDb.write
      org.toCarrierDb
    pure (q.uuid 0, { org with
      toCarrierDb := created
      carrierNames := org.carrierNames ++ [(q.uuid 0, text dto "legalName")] })
  else .error (.database "Argument is missing")

def commitDriver (q : Request) (org : OrganizationData) (dto : Fields) (carrierId : Uuid) :
    Except AppError (Uuid × OrganizationData) := do
  let created ← (CarrierService.addDriver q carrierId ⟨dto.lookup "licenseNumber"⟩).exec CarrierDb.write org.toCarrierDb
  pure (q.uuid 0, { org with toCarrierDb := created })

def commit (e : Engine) (q : Request) (org : OrganizationData) (entityType : ImportEntityType) (dto : Fields)
    (parentId : Uuid) (acknowledgeDuplicate : Bool) (cache : ImportDuplicateCache) :
    Except AppError (Uuid × OrganizationData) × ImportDuplicateCache :=
  match entityType with
  | .customer => commitCustomer e q org dto acknowledgeDuplicate cache
  | .customerContact => (CustomerService.addContact q org parentId dto, cache)
  | .customerLocation => (CustomerService.addLocation q org parentId dto, cache)
  | .carrier => (commitCarrier q org dto, cache)
  | .carrierContact => (CarrierService.addContact q org parentId dto, cache)
  | .driver => (commitDriver q org dto parentId, cache)
  | .truck => (CarrierService.addTruck q org parentId dto, cache)
  | .trailer => (CarrierService.addTrailer q org parentId dto, cache)

end Adapter

end Truckmaster.Imports
