import Truckmaster.Documents.DocumentFamilies
import Truckmaster.Library.Transactions

namespace Truckmaster.Carriers

open Common Documents Tables Transactions
open QuoteLoad (SubscriptionStatus)

structure OrganizationSubscription where
  subscriptionStatus : SubscriptionStatus := .active
  trialEndsAt : Option Instant := none
  maxCarriers : Option ℕ := none
  maxDrivers : Option ℕ := none
  deriving DecidableEq, Repr

inductive CarrierStatus
  | pending | active | inactive | blocked
  deriving DecidableEq, Repr

structure Carrier where
  id : Uuid
  mcNumber : String
  dotNumber : String
  status : CarrierStatus := .pending
  assignmentEligible : Bool := false
  ineligibilityReasons : Option (List String) := none
  deriving DecidableEq, Repr

inductive InsuranceCoverageType
  | autoLiability | cargo
  deriving DecidableEq, Repr

structure CarrierInsurance where
  id : Uuid
  carrierId : Uuid
  coverageType : InsuranceCoverageType
  effectiveDate : Instant
  expirationDate : Instant
  coiDocumentId : Uuid
  deriving DecidableEq, Repr

structure CarrierFmcsaVerification where
  id : Uuid
  carrierId : Uuid
  verificationDate : Instant
  resultStatus : String
  deriving DecidableEq, Repr

structure Driver where
  id : Uuid
  carrierId : Uuid
  licenseNumber : Option String := none
  active : Bool := true
  deriving DecidableEq, Repr

def Carrier.withStatus (status : CarrierStatus) (c : Carrier) : Carrier := { c with status }

def Carrier.withEligibility (eligible : Bool) (reasons : List String) (c : Carrier) : Carrier :=
  { c with assignmentEligible := eligible, ineligibilityReasons := some reasons }

def Driver.withActive (active : Bool) (v : Driver) : Driver := { v with active }

/-- A licence number that the change does not give stays as it is. -/
def Driver.withLicense (licenseNumber : Option (Option String)) (v : Driver) : Driver :=
  { v with licenseNumber := licenseNumber.getD v.licenseNumber }

structure CarrierDb extends DocumentStore where
  organization : OrganizationSubscription := {}
  documentTypes : List DocumentTypeDefinition := []
  carriers : Table Carrier.id := .empty
  insuranceRecords : List CarrierInsurance := []
  fmcsaVerifications : List CarrierFmcsaVerification := []
  drivers : Table Driver.id := .empty

/-- A row of a table, or an entry of a unique index. -/
inductive CarrierRow
  | organization
  | carrier (id : Uuid)
  | mcNumber (mcNumber : String)
  | dotNumber (dotNumber : String)
  | driver (id : Uuid)
  deriving DecidableEq

inductive CarrierWrite
  | insertCarrier (carrier : Carrier)
  | setStatus (id : Uuid) (status : CarrierStatus)
  | setEligibility (id : Uuid) (eligible : Bool) (reasons : List String)
  | insertInsurance (record : CarrierInsurance)
  | insertFmcsa (verification : CarrierFmcsaVerification)
  | insertDriver (driver : Driver)
  | setDriverActive (id : Uuid) (active : Bool)
  | setLicense (id : Uuid) (licenseNumber : Option (Option String))
  | record (event : AuditEvent)

abbrev CarrierTx := Txn CarrierDb CarrierRow CarrierWrite AppError

namespace CarrierDb

def findCarrier (o : RowOrder) (id : Uuid) (d : CarrierDb) : Option Carrier :=
  findFirst o (fun c => c.id == id) d.carriers.rows

def findDriver (o : RowOrder) (carrierId driverId : Uuid) (d : CarrierDb) : Option Driver :=
  findFirst o (fun v => v.id == driverId && v.carrierId == carrierId) d.drivers.rows

def countsTowardLimit (c : Carrier) : Bool := c.status == .pending || c.status == .active

def carrierCount (d : CarrierDb) : ℕ := d.carriers.rows.countP countsTowardLimit

def driverCount (d : CarrierDb) : ℕ := d.drivers.rows.countP (fun v => v.active)

def write : CarrierWrite → CarrierDb → CarrierDb
  | .insertCarrier carrier, d => { d with carriers := (d.carriers.insert carrier).getD d.carriers }
  | .setStatus id status, d => { d with carriers := d.carriers.update id (.withStatus status) (fun _ => rfl) }
  | .setEligibility id eligible reasons, d =>
    { d with carriers := d.carriers.update id (.withEligibility eligible reasons) (fun _ => rfl) }
  | .insertInsurance record, d => { d with insuranceRecords := d.insuranceRecords ++ [record] }
  | .insertFmcsa verification, d => { d with fmcsaVerifications := d.fmcsaVerifications ++ [verification] }
  | .insertDriver driver, d => { d with drivers := (d.drivers.insert driver).getD d.drivers }
  | .setDriverActive id active, d =>
    { d with drivers := d.drivers.update id (.withActive active) (fun _ => rfl) }
  | .setLicense id licenseNumber, d =>
    { d with drivers := d.drivers.update id (.withLicense licenseNumber) (fun _ => rfl) }
  | .record event, d => { d with audit := d.audit ++ [event] }

end CarrierDb

end Truckmaster.Carriers
