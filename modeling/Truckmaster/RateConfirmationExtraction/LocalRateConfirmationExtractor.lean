import Truckmaster.Library.Patterns
import Truckmaster.QuoteLoad.Entities
import Truckmaster.RateConfirmationExtraction.DecimalTexts

namespace Truckmaster.RateConfirmationExtraction

open Common Patterns QuoteLoad

inductive ExtractedStopType
  | pickup | delivery
  deriving DecidableEq, Repr

structure ExtractedStop where
  stopType : ExtractedStopType
  companyName : Option String
  addressLine1 : Option String
  city : Option String
  state : Option String
  zip : Option String
  contactName : Option String
  contactPhone : Option String
  appointmentDatetime : Option String
  deriving DecidableEq, Repr

structure ExtractedCustomer where
  extractedName : String
  billingAddressLine1 : Option String := none
  billingCity : Option String := none
  billingState : Option String := none
  billingZip : Option String := none
  primaryContactName : Option String := none
  primaryContactEmail : Option String := none
  primaryContactPhone : Option String := none
  deriving DecidableEq, Repr

structure UnmappedField where
  label : String
  value : String
  deriving DecidableEq, Repr

inductive StopIssue
  | companyName | address | cityStateZip | appointmentAmbiguous | appointmentNotFound
  deriving DecidableEq, Repr

inductive Warning
  | rateNotANumber (value : String)
  | noStops
  | stop (index : ℕ) (stopType : ExtractedStopType) (issue : StopIssue)
  /-- A text of another producer. -/
  | other (text : String)
  deriving DecidableEq, Repr

structure ExtractedRateConfirmationData where
  customer : Option ExtractedCustomer
  equipmentType : Option EquipmentType
  customerRate : Option String
  customerPoNumber : Option String
  bolNumber : Option String
  pickupNumber : Option String
  customerReferenceNumber : Option String
  stops : List ExtractedStop
  warnings : List Warning
  unmappedFields : List UnmappedField
  deriving DecidableEq, Repr

inductive RateConfirmationExtractionOutcome
  | multiLoadDetected
  | data (data : ExtractedRateConfirmationData)
  deriving DecidableEq, Repr

/-- Reading a property of a value that is undefined. -/
inductive TypeError
  | undefinedProperty
  deriving DecidableEq, Repr

section Labels

open Pattern

def space : Pattern := one isWhiteSpace

def spaces : Pattern := star space

def among (cs : String) : Pattern := one (fun c => cs.toList.contains c)

def separator : Pattern := all [spaces, among ":-", spaces]

/-- `(?:#|No\.?|Number)` -/
def numberWord : Pattern := any (char '#') [(word "No").seq (opt (char '.')), word "Number"]

def letter : Pattern := one Char.isAlpha

/-- `\d{1,2}` -/
def oneOrTwoDigits : Pattern := many 1 (some 1) digit

def digits (n : ℕ) : Pattern := many n (some 0) digit

def loadNumberLabel : Pattern :=
  all [start, any (word "Load") [word "Order", word "Booking", word "Confirmation"], spaces, numberWord, spaces,
    opt (among ":-"), spaces, group 1 (plus (one (fun c => !isWhiteSpace c)))]

/-- `(?:#|No\.?|Number)?\s*[:\-]\s*(.+)$` after the word of the label -/
def labeled (label : List Pattern) : Pattern :=
  all (start :: label ++ [spaces, opt numberWord, separator, group 1 (plus dot), stop])

def poNumberLabels : List Pattern := [labeled [word "P", opt (char '.'), word "O", opt (char '.')]]

def bolNumberLabels : List Pattern :=
  [labeled [any (word "BOL") [word "B/L", all [word "Bill", spaces, word "of", spaces, word "Lading"]]]]

def pickupNumberLabels : List Pattern :=
  [all [start, any (word "Pickup") [word "PU"], spaces, numberWord, separator, group 1 (plus dot), stop]]

def referenceNumberLabels : List Pattern :=
  [labeled [any (all [word "Customer", spaces, word "Ref", opt (word "erence")]) [(word "Ref").seq (opt (word "erence"))]]]

def rateLabels : Pattern :=
  all [start, any (all [word "Total", spaces, word "Rate"])
      [all [word "Linehaul", spaces, word "Rate"], all [word "Agreed", spaces, word "Rate"], word "Rate", word "Total"],
    separator, opt (char '$'), spaces,
    group 1 ((plus (one (fun c => c.isDigit || c == ','))).seq (opt ((char '.').seq oneOrTwoDigits)))]

def equipmentPatterns : List (Pattern × EquipmentType) :=
  [((all [boundary, word "REEFER", boundary]).alt (all [boundary, word "REFRIGERATED", boundary]), .reefer),
    (all [boundary, word "FLAT", spaces, word "BED", boundary], .flatbed),
    (all [boundary, word "DRY", spaces, word "VAN", boundary], .dryVan)]

def equipmentLabel : Pattern :=
  all [start, any (word "Equipment") [all [word "Trailer", spaces, word "Type"]], spaces, among ":-"]

/-- `(?:\s*[:\-]\s*(.*)|\s*)$` -/
def colonOrEnd : Pattern := ((separator.seq (group 1 (star dot))).alt spaces).seq stop

def customerLabel : Pattern := all [start, any (all [word "Bill", spaces, word "To"]) [word "Broker", word "Customer"], colonOrEnd]

def stopMarker (words : Pattern) : Pattern :=
  all [start, words, opt (all [spaces, char '#', spaces, plus digit]), colonOrEnd]

def stopMarkers : List (Pattern × ExtractedStopType) :=
  [(stopMarker (any (all [word "PICK", spaces, word "UP"])
      [word "PICKUP", word "SHIPPER", all [word "SHIP", spaces, word "FROM"], word "ORIGIN"]), .pickup),
    (stopMarker (any (word "DELIVERY") [all [word "DELIVER", spaces, word "TO"], word "CONSIGNEE",
      all [word "SHIP", spaces, word "TO"], word "DESTINATION", word "DROP"]), .delivery)]

def otherSectionLabels : Pattern :=
  all [start, any (all [word "PO", spaces, char '#']) [word "BOL", word "Equipment", word "Rate"], boundary]

def streetAddressPattern : Pattern :=
  all [start, plus digit, plus space, one Char.isAlphanum,
    star (one (fun c => isWord c || isWhiteSpace c || ".,#'-".toList.contains c)), stop]

def cityStateZipPattern : Pattern :=
  all [start, group 1 (plus (one (fun c => c.isAlpha || " .'-".toList.contains c))), char ',', spaces,
    group 2 (many 2 (some 0) (one Char.isUpper)), plus space, group 3 (digits 5), opt ((char '-').seq (digits 4)), spaces, stop]

def contactNamePattern : Pattern :=
  all [start, any (word "Contact") [word "Attn", word "Attention"], separator, group 1 (plus dot), stop]

def phoneSeparator : Pattern := one (fun c => c == '-' || c == '.' || isWhiteSpace c)

def phonePattern : Pattern :=
  group 1 (all [opt (char '('), digits 3, opt (char ')'), phoneSeparator, digits 3, phoneSeparator, digits 4])

/-- `\d{1,2}\/\d{1,2}\/\d{2,4}`, with the groups of the parts where they are read. -/
def appointmentDatetimePattern : Pattern :=
  all [group 1 (all [oneOrTwoDigits, char '/', oneOrTwoDigits, char '/', many 2 (some 2) digit]), spaces,
    opt (among "@,"), spaces, group 2 (all [oneOrTwoDigits, char ':', digits 2]), spaces,
    opt (group 3 ((word "AM").alt (word "PM")))]

def ambiguousAppointmentPattern : Pattern :=
  any (all [boundary, word "FCFS", boundary]) [all [boundary, word "ASAP", boundary],
    all [boundary, word "ANYTIME", boundary], all [boundary, word "OPEN", boundary]]

def appointmentLabel : Pattern :=
  all [start, any (word "Appt") [word "Appointment", word "Date", word "Time"], boundary]

def datePattern : Pattern :=
  all [start, group 1 oneOrTwoDigits, char '/', group 2 oneOrTwoDigits, char '/', group 3 (many 2 (some 2) digit), stop]

def timePattern : Pattern := all [start, group 1 oneOrTwoDigits, char ':', group 2 (digits 2), stop]

def genericLabelValueLine : Pattern :=
  all [start, group 1 (letter.seq (many 1 (some 39) (one (fun c => c.isAlphanum || " /#.'".toList.contains c)))),
    char ':', spaces, group 2 (plus dot), stop]

end Labels

/-! Each line that is consumed is kept with what it was consumed for. -/

inductive LabeledField
  | customerPoNumber | bolNumber | pickupNumber | customerReferenceNumber
  deriving DecidableEq, Repr

inductive PartyField
  | addressLine1 | city | contactName | contactPhone
  deriving DecidableEq, Repr

inductive StopUse
  | companyName
  | field (field : PartyField)
  | appointment (date time : String) (meridiem : Option String)
  /-- A date and time that fail the checks. -/
  | refusedAppointment
  | ambiguousAppointment
  deriving DecidableEq, Repr

inductive Use
  | customerRate
  | labeled (field : LabeledField)
  | equipmentType
  | customerLabel
  | customerName
  | customerField (field : PartyField)
  | stopMarker (stop : ℕ)
  | stopLine (stop : ℕ) (use : StopUse)
  deriving DecidableEq, Repr

abbrev Consumed := List (ℕ × Use)

def Consumed.has (consumed : Consumed) (i : ℕ) : Bool := consumed.any (fun e => e.1 == i)

def falsy (value : Option String) : Bool := value.all (fun s => s == "")

def isAnyStopOrSectionMarker (line : String) : Bool :=
  stopMarkers.any (fun marker => marker.1.test line) || otherSectionLabels.test line

def isStructuredLine (line : String) : Bool :=
  streetAddressPattern.test line || cityStateZipPattern.test line || contactNamePattern.test line ||
    phonePattern.test line || appointmentLabel.test line

def found (m : Cursor) (n : ℕ) : Option String := (m.group n).filter (fun s => s ≠ "")

section Passes

variable (lines : List String)

def detectMultiLoad (toUpperCase : String → String) : Bool :=
  2 ≤ ((lines.filterMap (fun line => (loadNumberLabel.exec line).bind (found · 1))).map toUpperCase).dedup.length

def labeledValue (labelPatterns : List Pattern) (line : String) : Option String :=
  labelPatterns.findSome? (fun pattern =>
    ((pattern.exec line).bind (found · 1)).filter (fun value => trim value ≠ ""))

def firstLine {α : Type} (consumed : Consumed) (read : String → Option α) : Option (α × ℕ) :=
  lines.zipIdx.findSome? (fun (line, i) => if consumed.has i then none else (read line).map (fun a => (a, i)))

def extractLabeledValue (consumed : Consumed) (labelPatterns : List Pattern) (field : LabeledField) : Option String × Consumed :=
  match firstLine lines consumed (labeledValue labelPatterns) with
  | some (value, i) => (some (trim value), (i, .labeled field) :: consumed)
  | none => (none, consumed)

def rateNumber (value : String) : Option Doubles.Double := toNumber (value.toList.filter (fun c => c ≠ ','))

def rateValue (line : String) : Option String := (rateLabels.exec line).bind (found · 1)

def extractCustomerRate (consumed : Consumed) : Option String × Consumed × List Warning :=
  match firstLine lines consumed rateValue with
  | some (value, i) =>
    match rateNumber value with
    | some normalized => (some (toFixed normalized), (i, .customerRate) :: consumed, [])
    | none => (none, consumed, [.rateNotANumber value])
  | none => (none, consumed, [])

def extractEquipmentType (consumed : Consumed) : Option EquipmentType × Consumed :=
  let equipmentLabelLine := lines.zipIdx.find? (fun e => !consumed.has e.2 && equipmentLabel.test e.1)
  let searchLines := match equipmentLabelLine with
    | some (line, _) => [line]
    | none => (lines.zipIdx.filter (fun e : String × ℕ => !consumed.has e.2)).map Prod.fst
  match equipmentPatterns.filter (fun e => searchLines.any e.1.test) with
  | [e] => (some e.2, match equipmentLabelLine with
      | some (_, i) => (i, .equipmentType) :: consumed
      | none => consumed)
  | _ => (none, consumed)

/-- How many lines after a marker are searched. -/
def stopBlockLineWindow : ℕ := 10

structure PartyScan where
  addressLine1 : Option String := none
  city : Option String := none
  state : Option String := none
  zip : Option String := none
  contactName : Option String := none
  contactPhone : Option String := none

def partyLine (line : String) (scan : PartyScan) : Option (PartyScan × PartyField) :=
  let address := if falsy scan.addressLine1 && streetAddressPattern.test line then
    some ({ scan with addressLine1 := some line }, .addressLine1) else none
  let city := if falsy scan.city then (cityStateZipPattern.exec line).map (fun m =>
    ({ scan with
        city := (m.group 1).map trim
        state := m.group 2
        zip := m.group 3 }, .city)) else none
  let contact := if falsy scan.contactName then (contactNamePattern.exec line).map (fun m =>
    ({ scan with contactName := (m.group 1).map trim }, .contactName)) else none
  let phone := if falsy scan.contactPhone then (phonePattern.exec line).map (fun m =>
    ({ scan with contactPhone := m.group 1 }, .contactPhone)) else none
  address <|> city <|> contact <|> phone

def scanBlock {σ : Type} (readLine : String → σ → Option (σ × Use)) : List (String × ℕ) → Consumed → σ → σ × Consumed
  | [], consumed, scan => (scan, consumed)
  | (line, i) :: rest, consumed, scan =>
    if consumed.has i || line = "" then scanBlock readLine rest consumed scan
    else if isAnyStopOrSectionMarker line then (scan, consumed)
    else match readLine line scan with
      | some (scan', use) => scanBlock readLine rest ((i, use) :: consumed) scan'
      | none => scanBlock readLine rest consumed scan

def customerLine (line : String) (scan : PartyScan) : Option (PartyScan × Use) :=
  (partyLine line scan).map (fun r => (r.1, .customerField r.2))

def customerLabelLine (consumed : Consumed) : Option (Cursor × ℕ) := firstLine lines consumed customerLabel.exec

def nameLine (labelIndex : ℕ) : Option (String × ℕ) :=
  ((lines.zipIdx.drop (labelIndex + 1)).find? (fun e => e.1 ≠ "")).filter
    (fun e => !isAnyStopOrSectionMarker e.1)

/-- The name, and the line from which the rest is searched. -/
def customerName (labelIndex : ℕ) (inlineName : String) (consumed : Consumed) : String × ℕ × Consumed :=
  if inlineName ≠ "" then (inlineName, labelIndex + 1, consumed)
  else match nameLine lines labelIndex with
    | some (line, i) => (line, i + 1, (i, .customerName) :: consumed)
    | none => ("", labelIndex + 1, consumed)

def readCustomer (labelIndex : ℕ) (inlineName : String) (consumed : Consumed) : Option ExtractedCustomer × Consumed :=
  let (extractedName, searchStart, consumed) := customerName lines labelIndex inlineName ((labelIndex, .customerLabel) :: consumed)
  if extractedName = "" then (none, consumed)
  else
    let (scan, consumed) := scanBlock customerLine ((lines.zipIdx.drop searchStart).take stopBlockLineWindow) consumed {}
    (some {
      extractedName
      billingAddressLine1 := scan.addressLine1
      billingCity := scan.city
      billingState := scan.state
      billingZip := scan.zip
      primaryContactName := scan.contactName
      primaryContactEmail := none
      primaryContactPhone := scan.contactPhone }, consumed)

/-- The inline name is trimmed also where its group is undefined. -/
def extractCustomer (consumed : Consumed) : Except TypeError (Option ExtractedCustomer × Consumed) :=
  match customerLabelLine lines consumed with
  | none => .ok (none, consumed)
  | some (m, labelIndex) => match m.group 1 with
    | some inlineName => .ok (readCustomer lines labelIndex (trim inlineName) consumed)
    | none => .error .undefinedProperty

structure StopMarkerHit where
  lineIndex : ℕ
  stopType : ExtractedStopType
  inlineText : String
  deriving DecidableEq, Repr

def StopMarkerHit.companyName (marker : StopMarkerHit) : Option String :=
  if marker.inlineText = "" then none else some marker.inlineText

def markerHit (line : String) (i : ℕ) : Option StopMarkerHit :=
  stopMarkers.findSome? (fun (pattern, stopType) =>
    (pattern.exec line).map (fun m => ⟨i, stopType, ((m.group 1).map trim).getD ""⟩))

def findStopMarkers (consumed : Consumed) : List StopMarkerHit :=
  lines.zipIdx.filterMap (fun (line, i) => if consumed.has i || line = "" then none else markerHit line i)

structure DateTimeParts where
  year : ℕ
  month : ℕ
  day : ℕ
  hour : ℕ
  minute : ℕ
  deriving DecidableEq, Repr

def dateTimeParts (datePart timePart : String) (meridiem : Option String) : Option DateTimeParts := do
  let dateMatch ← datePattern.exec datePart
  let timeMatch ← timePattern.exec timePart
  let value (m : Cursor) (n : ℕ) : ℕ := digitsValue ((m.groups n).getD [])
  let year := if ((dateMatch.groups 3).getD []).length = 2 then 2000 + value dateMatch 3 else value dateMatch 3
  let month := value dateMatch 1
  let day := value dateMatch 2
  let minute := value timeMatch 2
  let upper := meridiem.map (fun s => s.toList.map Char.toUpper)
  let hour := if upper = some ['P', 'M'] ∧ value timeMatch 1 < 12 then value timeMatch 1 + 12
    else if upper = some ['A', 'M'] ∧ value timeMatch 1 = 12 then 0 else value timeMatch 1
  if hour > 23 ∨ minute > 59 ∨ month > 12 ∨ day > 31 then none else some ⟨year, month, day, hour, minute⟩

def DateTimeParts.text (p : DateTimeParts) : String :=
  String.ofList (numeric p.year ++ '-' :: twoDigit p.month ++ '-' :: twoDigit p.day ++ 'T' :: twoDigit p.hour ++
    ':' :: twoDigit p.minute)

def toNaiveIsoDatetime (datePart timePart : String) (meridiem : Option String) : Option String :=
  (dateTimeParts datePart timePart meridiem).map DateTimeParts.text

structure StopScan extends PartyScan where
  companyName : Option String
  appointmentDatetime : Option String := none
  appointmentAmbiguous : Bool := false

def appointmentLine (line : String) (scan : StopScan) : Option (StopScan × StopUse) :=
  match appointmentDatetimePattern.exec line with
  | some m =>
    let date := (m.group 1).getD ""
    let time := (m.group 2).getD ""
    let appointmentDatetime := toNaiveIsoDatetime date time (m.group 3)
    some ({ scan with appointmentDatetime },
      if appointmentDatetime.isSome then .appointment date time (m.group 3) else .refusedAppointment)
  | none =>
    if appointmentLabel.test line && ambiguousAppointmentPattern.test line then
      some ({ scan with appointmentAmbiguous := true }, .ambiguousAppointment)
    else none

def readStopLine (line : String) (scan : StopScan) : Option (StopScan × StopUse) :=
  let company := if falsy scan.companyName && !isStructuredLine line then
    some ({ scan with companyName := some line }, .companyName) else none
  let party := (partyLine line scan.toPartyScan).map (fun r => ({ scan with toPartyScan := r.1 }, .field r.2))
  let appointment := if falsy scan.appointmentDatetime && !scan.appointmentAmbiguous then appointmentLine line scan else none
  company <|> party <|> appointment

def stopLine (index : ℕ) (line : String) (scan : StopScan) : Option (StopScan × Use) :=
  (readStopLine line scan).map (fun r => (r.1, .stopLine index r.2))

def stopIssues (scan : StopScan) : List StopIssue :=
  (if falsy scan.companyName then [.companyName] else []) ++
  (if falsy scan.addressLine1 then [.address] else []) ++
  (if falsy scan.city then [.cityStateZip] else []) ++
  if scan.appointmentAmbiguous then [.appointmentAmbiguous]
  else if falsy scan.appointmentDatetime then [.appointmentNotFound] else []

def StopScan.extracted (scan : StopScan) (stopType : ExtractedStopType) : ExtractedStop where
  stopType
  companyName := scan.companyName
  addressLine1 := scan.addressLine1
  city := scan.city
  state := scan.state
  zip := scan.zip
  contactName := scan.contactName
  contactPhone := scan.contactPhone
  appointmentDatetime := scan.appointmentDatetime

def blockLimit (rest : List StopMarkerHit) : ℕ := (rest.head?.map StopMarkerHit.lineIndex).getD lines.length

def blockOf (marker : StopMarkerHit) (rest : List StopMarkerHit) : List (String × ℕ) :=
  (lines.zipIdx.take (min (blockLimit lines rest) (marker.lineIndex + 1 + stopBlockLineWindow))).drop (marker.lineIndex + 1)

def extractStops : ℕ → List StopMarkerHit → Consumed → List ExtractedStop × Consumed × List Warning
  | _, [], consumed => ([], consumed, [])
  | index, marker :: rest, consumed =>
    let (scan, consumed) := scanBlock (stopLine index) (blockOf lines marker rest)
      ((marker.lineIndex, .stopMarker index) :: consumed) { companyName := marker.companyName }
    let (stops, consumed, warnings) := extractStops (index + 1) rest consumed
    (scan.extracted marker.stopType :: stops, consumed,
      (stopIssues scan).map (.stop index marker.stopType) ++ warnings)

def maxUnmappedFields : ℕ := 20

def unmappedField (line : String) : Option UnmappedField := do
  let m ← genericLabelValueLine.exec line
  let value := trim ((m.group 2).getD "")
  if value = "" then none else some ⟨trim ((m.group 1).getD ""), value⟩

def extractUnmappedFields (consumed : Consumed) : List UnmappedField :=
  (lines.zipIdx.filterMap (fun (line, i) => if consumed.has i then none else unmappedField line)).take maxUnmappedFields

structure Header where
  customer : Option ExtractedCustomer
  equipmentType : Option EquipmentType
  customerRate : Option String
  customerPoNumber : Option String
  bolNumber : Option String
  pickupNumber : Option String
  customerReferenceNumber : Option String
  warnings : List Warning
  consumed : Consumed

def beforeCustomer : Header :=
  let (customerRate, consumed, warnings) := extractCustomerRate lines []
  let (customerPoNumber, consumed) := extractLabeledValue lines consumed poNumberLabels .customerPoNumber
  let (bolNumber, consumed) := extractLabeledValue lines consumed bolNumberLabels .bolNumber
  let (pickupNumber, consumed) := extractLabeledValue lines consumed pickupNumberLabels .pickupNumber
  let (customerReferenceNumber, consumed) :=
    extractLabeledValue lines consumed referenceNumberLabels .customerReferenceNumber
  let (equipmentType, consumed) := extractEquipmentType lines consumed
  { customer := none, equipmentType, customerRate, customerPoNumber, bolNumber, pickupNumber, customerReferenceNumber
    warnings, consumed }

def extractHeader : Except TypeError Header := do
  let before := beforeCustomer lines
  let (customer, consumed) ← extractCustomer lines before.consumed
  .ok { before with customer, consumed }

def Header.data (header : Header) (stops : List ExtractedStop) (stopWarnings : List Warning)
    (unmappedFields : List UnmappedField) : ExtractedRateConfirmationData where
  customer := header.customer
  equipmentType := header.equipmentType
  customerRate := header.customerRate
  customerPoNumber := header.customerPoNumber
  bolNumber := header.bolNumber
  pickupNumber := header.pickupNumber
  customerReferenceNumber := header.customerReferenceNumber
  stops
  warnings := header.warnings ++ stopWarnings ++ if stops = [] then [.noStops] else []
  unmappedFields

/-- The data, and the lines that are consumed before those without a field are listed. -/
def parseLines : Except TypeError (ExtractedRateConfirmationData × Consumed) := do
  let header ← extractHeader lines
  let (stops, consumed, stopWarnings) := extractStops lines 0 (findStopMarkers lines header.consumed) header.consumed
  .ok (header.data stops stopWarnings (extractUnmappedFields lines consumed), consumed)

end Passes

def textLines (text : String) : List String := ((text.toList.splitOn '\n').map String.ofList).map trim

/-- `toUpperCase` is that of the language. -/
def parseRateConfirmationText (toUpperCase : String → String) (text : String) :
    Except TypeError RateConfirmationExtractionOutcome :=
  if detectMultiLoad (textLines text) toUpperCase then .ok .multiLoadDetected
  else (parseLines (textLines text)).map (fun parsed => .data parsed.1)

end Truckmaster.RateConfirmationExtraction
