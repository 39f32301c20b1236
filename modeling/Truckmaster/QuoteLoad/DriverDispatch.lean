import Truckmaster.Common.LocalValues
import Truckmaster.RateConfirmationExtraction.LineReadings

namespace Truckmaster.QuoteLoad.DriverDispatch

open Common Calendars Patterns Patterns.Pattern RateConfirmationExtraction

inductive ApprovedNotesLabel
  | reeferRef | mileage | commodity | pickupWeight | specialInstructions | internalOrder | invoiceEmail
  | detentionPolicy
  deriving DecidableEq, Repr

namespace ApprovedNotesLabel

def text : ApprovedNotesLabel → String
  | .reeferRef => "Reefer Ref#"
  | .mileage => "Mileage"
  | .commodity => "Commodity"
  | .pickupWeight => "Pickup Weight"
  | .specialInstructions => "Special Instructions"
  | .internalOrder => "Internal Order#"
  | .invoiceEmail => "Invoice Email"
  | .detentionPolicy => "Detention Policy"

def heading (label : ApprovedNotesLabel) : List Char := (label.text ++ ": ").toList

def pattern : ApprovedNotesLabel → Pattern
  | .reeferRef => all [word "reefer", star dot, word "ref"]
  | .mileage => word "mileage"
  | .commodity => word "commodity"
  | .pickupWeight => word "weight"
  | .specialInstructions => all [word "special", star dot, word "instruction"]
  | .internalOrder => all [word "internal", star dot, word "order"]
  | .invoiceEmail => all [word "invoice", star dot, word "email"]
  | .detentionPolicy => word "detention"

end ApprovedNotesLabel

def approvedNotesLabels : List ApprovedNotesLabel :=
  [.reeferRef, .mileage, .commodity, .pickupWeight, .specialInstructions, .internalOrder, .invoiceEmail,
    .detentionPolicy]

abbrev NotesFields := ApprovedNotesLabel → Option String

def noteLabel (line : List Char) (result : NotesFields) (label : ApprovedNotesLabel) : NotesFields :=
  if label.heading.isPrefixOf line then
    let value := trim (String.ofList (line.drop label.heading.length))
    if value = "" then result else Function.update result label (some value)
  else result

def parseApprovedNotesFields : Option String → NotesFields
  | none => fun _ => none
  | some notes =>
    if notes = "" then fun _ => none
    else (notes.toList.splitOn '\n').foldl (fun result line => approvedNotesLabels.foldl (noteLabel line) result)
      (fun _ => none)

section Form

def chosen (unmappedFields : List UnmappedField) (label : ApprovedNotesLabel) : Option String :=
  (unmappedFields.find? (fun f => label.pattern.test f.label && trim f.value != "")).map (fun f => trim f.value)

def blockLines (unmappedFields : List UnmappedField) : List (List Char) :=
  approvedNotesLabels.filterMap (fun label =>
    (chosen unmappedFields label).map (fun value => label.heading ++ value.toList))

def buildExtractedNotesBlock (unmappedFields : List UnmappedField) : String :=
  String.ofList (['\n'].intercalate (blockLines unmappedFields))

structure StopFormValue where
  stopType : StopType
  companyName : String := ""
  addressLine1 : String := ""
  city : String := ""
  state : String := ""
  zip : String := ""
  contactName : Option String := none
  contactPhone : Option String := none
  appointmentDatetime : Option String := none
  notes : Option String := none
  deriving DecidableEq, Repr

def mappedStop (s : ExtractedStop) : StopFormValue where
  stopType := match s.stopType with
    | .pickup => .pickup
    | .delivery => .delivery
  companyName := s.companyName.getD ""
  addressLine1 := s.addressLine1.getD ""
  city := s.city.getD ""
  state := s.state.getD ""
  zip := s.zip.getD ""
  contactName := s.contactName
  contactPhone := s.contactPhone
  appointmentDatetime := s.appointmentDatetime

def isPickup (s : StopFormValue) : Bool := s.stopType == .pickup

def withBlock (existingNotes : Option String) (block : String) : String :=
  match (existingNotes.map trim).filter (fun notes => notes != "") with
  | some notes => notes ++ "\n\n" ++ block
  | none => block

/-- The stop that the form puts the notes on. -/
def targetIndex (stops : List StopFormValue) : ℕ := (stops.findIdx? isPickup).getD 0

def formStops (previousStops : List StopFormValue) (extraction : ExtractedRateConfirmationData) : List StopFormValue :=
  let extractedNotesBlock := buildExtractedNotesBlock extraction.unmappedFields
  let mapped := extraction.stops.map mappedStop
  if extractedNotesBlock = "" then mapped
  else
    match mapped[targetIndex mapped]? with
    | none => mapped
    | some targetStop =>
      mapped.set (targetIndex mapped) { targetStop with
        notes := some (withBlock (previousStops[targetIndex mapped]?.bind StopFormValue.notes) extractedNotesBlock) }

/-- The stop whose notes the e-mail quotes. -/
def pickupStop (stops : List StopFormValue) : Option StopFormValue := (stops.find? isPickup).or stops.head?

end Form

structure DriverDispatchStopInput where
  stopType : StopType
  companyName : Option String
  addressLine1 : Option String
  city : Option String
  state : Option String
  zip : Option String
  appointmentDatetime : Option Instant
  contactName : Option String
  contactPhone : Option String

structure DriverDispatchMessageInput where
  loadNumber : String
  carrierLegalName : String
  customerLegalName : String
  driverName : String
  driverPhone : String
  customerPoNumber : Option String
  customerRate : Option String
  stops : List DriverDispatchStopInput
  pickupStopNotes : Option String
  pickupNumber : Option String

structure DriverDispatchMessage where
  subject : String
  body : String
  deriving DecidableEq, Repr

def truthy (s : Option String) : Option String := s.filter (fun s => s != "")

def line (before : String) (s : Option String) : List String := ((truthy s).map (fun s => before ++ s)).toList

/-- `MM/DD/YY at H:MM AM/PM`. -/
def formatAppointment (timeZone : Zone) (instant : Instant) : String :=
  let parts := wallClockPartsInZone instant timeZone
  let yearStr := ((numeric parts.year).reverse.take 2).reverse
  let meridiem := if 12 ≤ parts.hour then " PM" else " AM"
  let hour := if parts.hour % 12 = 0 then 12 else parts.hour % 12
  String.ofList (twoDigit parts.month ++ '/' :: twoDigit parts.day ++ '/' :: yearStr) ++ " at " ++
    String.ofList (numeric hour ++ ':' :: twoDigit parts.minute) ++ meridiem

def contactLine (name phone : Option String) : Option String :=
  match truthy name, truthy phone with
  | some name, some phone => some ("Contact: " ++ name ++ " — " ++ phone)
  | some name, none => some ("Contact: " ++ name)
  | none, some phone => some ("Contact: " ++ phone)
  | none, none => none

def cityStateZip (city state zip : Option String) : Option String :=
  let parts := [city, state, zip].filterMap (fun p => p.filter (fun p => trim p != ""))
  if parts = [] then none
  else match truthy city, [state, zip].filterMap truthy with
    | some city, rest@(_ :: _) => some (city ++ ", " ++ " ".intercalate rest)
    | _, _ => some (" ".intercalate parts)

def buildStopBlock (timeZone : Zone) (stop : DriverDispatchStopInput) (index : ℕ) (pickupNumber : Option String) :
    String :=
  let label := match stop.stopType with
    | .pickup => "PICKUP"
    | .delivery => "DELIVERY"
    | .other => "STOP " ++ toString (index + 1)
  "\n".intercalate ([label ++ ":"] ++ line "" stop.companyName ++ line "" stop.addressLine1 ++
    (cityStateZip stop.city stop.state stop.zip).toList ++
    (if stop.stopType = .pickup then line "Pickup #: " pickupNumber else []) ++
    (stop.appointmentDatetime.map (fun t => "📅 " ++ formatAppointment timeZone t)).toList ++
    (contactLine stop.contactName stop.contactPhone).toList)

def part (lines : List String) : List String := if lines = [] then [] else "" :: lines

def buildDriverDispatchMessage (timeZone : Zone) (input : DriverDispatchMessageInput) : DriverDispatchMessage :=
  let notes := parseApprovedNotesFields input.pickupStopNotes
  let commodityParts := [notes .commodity, notes .pickupWeight].filterMap truthy
  let head := ["🚛 Carrier: " ++ input.carrierLegalName,
      "🔗 Driver/Dispatch: " ++ input.driverName ++ " — " ++ input.driverPhone] ++
    line "🔑 Reefer Ref#: " (notes .reeferRef) ++ line "🔑 Special Instructions: " (notes .specialInstructions) ++
    (if commodityParts = [] then [] else ["📦 Commodity: " ++ " — ".intercalate commodityParts])
  let stops := input.stops.zipIdx.flatMap (fun e => [buildStopBlock timeZone e.1 e.2 input.pickupNumber, ""])
  let lines := head ++ "" :: stops
  let lines := if lines.getLast? = some "" then lines.dropLast else lines
  let trailer := line "PO: " input.customerPoNumber ++ line "💰 Rate: $" input.customerRate ++
    line "📋 Order #: " (notes .internalOrder)
  let additional := line "Mileage: " (notes .mileage) ++ line "Invoice Email: " (notes .invoiceEmail) ++
    line "Detention Policy: " (notes .detentionPolicy)
  { subject := "Dispatch Details — Load #" ++ input.loadNumber
    body := trim ("\n".intercalate (lines ++ part trailer ++ part additional ++
      ["", "Important: Call " ++ input.customerLegalName ++
        " to get dispatched before heading to pickup. Daily updates are required until delivery."])) }

section Notes

variable {label : ApprovedNotesLabel} {result : NotesFields} {cs : List Char}

def noteValue (label : ApprovedNotesLabel) (line : List Char) : Option String :=
  if label.heading.isPrefixOf line then
    (some (trim (String.ofList (line.drop label.heading.length)))).filter (fun value => value != "")
  else none

lemma noteLabel_apply (other : ApprovedNotesLabel) :
    noteLabel cs result other label =
      if label = other then (noteValue label cs).or (result label) else result label := by
  rw [noteLabel, noteValue]
  by_cases hlabel : label = other
  · subst hlabel
    rw [if_pos rfl]
    by_cases hheading : label.heading.isPrefixOf cs = true
    · rw [if_pos hheading, if_pos hheading]
      by_cases hempty : trim (String.ofList (cs.drop label.heading.length)) = ""
      · simp [hempty, Option.filter]
      · simp [hempty, Option.filter]
    · rw [if_neg hheading, if_neg hheading]
      rfl
  · rw [if_neg hlabel]
    split
    · dsimp only
      split
      · rfl
      · exact Function.update_of_ne hlabel _ _
    · rfl

lemma foldl_noteLabel (labels : List ApprovedNotesLabel) (result : NotesFields) :
    labels.foldl (noteLabel cs) result label =
      if label ∈ labels then (noteValue label cs).or (result label) else result label := by
  induction labels generalizing result with
  | nil => rfl
  | cons other labels ih =>
    rw [List.foldl_cons, ih, noteLabel_apply]
    by_cases hlabel : label = other
    · subst hlabel
      by_cases hmem : label ∈ labels <;> cases noteValue label cs <;> simp [hmem]
    · simp [hlabel]

lemma mem_approvedNotesLabels (label : ApprovedNotesLabel) : label ∈ approvedNotesLabels := by
  cases label <;> decide

lemma foldl_lines (lines : List (List Char)) (result : NotesFields) :
    lines.foldl (fun result line => approvedNotesLabels.foldl (noteLabel line) result) result label =
      ((lines.filterMap (noteValue label)).getLast?).or (result label) := by
  induction lines generalizing result with
  | nil => rfl
  | cons line lines ih =>
    rw [List.foldl_cons, ih, foldl_noteLabel, if_pos (mem_approvedNotesLabels label)]
    cases hvalue : noteValue label line with
    | none => simp [hvalue]
    | some value =>
      rw [List.filterMap_cons_some hvalue, List.getLast?_cons]
      cases (lines.filterMap (noteValue label)).getLast? <;> rfl

def notesLines (notes : Option String) : List (List Char) := (notes.getD "").toList.splitOn '\n'

lemma parse_eq (notes : Option String) (label : ApprovedNotesLabel) : parseApprovedNotesFields notes label =
    ((notesLines notes).filterMap (noteValue label)).getLast? := by
  have hnone : ([[]].filterMap (noteValue label)).getLast? = none := by cases label <;> decide
  cases notes with
  | none => exact hnone.symm
  | some notes =>
    rw [parseApprovedNotesFields, notesLines, Option.getD_some]
    by_cases hempty : notes = ""
    · rw [if_pos hempty, hempty]
      exact hnone.symm
    · rw [if_neg hempty, foldl_lines, Option.or_none]

end Notes

section Confinement

variable {notes notes' : Option String}

def isApprovedLine (line : List Char) : Bool := approvedNotesLabels.any (fun label => label.heading.isPrefixOf line)

lemma noteValue_unapproved {label : ApprovedNotesLabel} {line : List Char} (h : isApprovedLine line = false) :
    noteValue label line = none := by
  have hheading := List.any_eq_false.mp h label (mem_approvedNotesLabels label)
  rw [noteValue, if_neg hheading]

lemma filterMap_approved (label : ApprovedNotesLabel) (lines : List (List Char)) :
    (lines.filter isApprovedLine).filterMap (noteValue label) = lines.filterMap (noteValue label) := by
  induction lines with
  | nil => rfl
  | cons line lines ih =>
    cases happroved : isApprovedLine line with
    | true => simp only [List.filter_cons, happroved, if_true, List.filterMap_cons, ih]
    | false => simp [happroved, ih, noteValue_unapproved happroved]

theorem dispatch_message_confined (timeZone : Zone) (input : DriverDispatchMessageInput) (notes notes' : Option String)
    (h : (notesLines notes).filter isApprovedLine = (notesLines notes').filter isApprovedLine) :
    buildDriverDispatchMessage timeZone { input with pickupStopNotes := notes } =
      buildDriverDispatchMessage timeZone { input with pickupStopNotes := notes' } := by
  have hfields : parseApprovedNotesFields notes = parseApprovedNotesFields notes' := by
    funext label
    rw [parse_eq, parse_eq, ← filterMap_approved, h, filterMap_approved]
  unfold buildDriverDispatchMessage
  dsimp only
  rw [hfields]

end Confinement

section RoundTrip

variable {label : ApprovedNotesLabel} {value : String} {fields : List UnmappedField}

/-- No label begins as another one does. -/
lemma headings_apart {label other : ApprovedNotesLabel} (h : label ≠ other) :
    ¬ label.heading <+: other.heading := by
  revert h
  cases label <;> cases other <;> decide

lemma noteValue_other {other : ApprovedNotesLabel} (h : label ≠ other) (rest : List Char) :
    noteValue label (other.heading ++ rest) = none := by
  refine if_neg (fun hstarts => ?_)
  have hlabel : label.heading <+: other.heading ++ rest := List.isPrefixOf_iff_prefix.mp hstarts
  rcases List.prefix_or_prefix_of_prefix hlabel (List.prefix_append _ _) with hbegins | hbegins
  · exact headings_apart h hbegins
  · exact headings_apart (Ne.symm h) hbegins

lemma trim_of_trimmed {cs : List Char} (h : Trimmed cs) : trim (String.ofList cs) = String.ofList cs := by
  have hkeeps {l : List Char} (hl : ∀ c ∈ l.head?, isWhiteSpace c = false) : l.dropWhile isWhiteSpace = l := by
    cases l with
    | nil => rfl
    | cons c l => rw [List.dropWhile_cons_of_neg (by simp [hl c rfl])]
  have hlast : ∀ c ∈ cs.reverse.head?, isWhiteSpace c = false := by
    rw [List.head?_reverse]
    exact h.last
  rw [trim, String.toList_ofList, hkeeps h.first, hkeeps hlast, List.reverse_reverse]

lemma trim_trim (s : String) : trim (trim s) = trim s := by
  have htrimmed := trim_of_trimmed (trimmed_trim s)
  rwa [String.ofList_toList] at htrimmed

lemma chosen_trimmed (h : chosen fields label = some value) : trim value = value ∧ value ≠ "" := by
  obtain ⟨f, hfound, rfl⟩ := Option.map_eq_some_iff.mp h
  have hmatch := List.find?_some hfound
  simp only [Bool.and_eq_true, bne_iff_ne] at hmatch
  exact ⟨trim_trim _, hmatch.2⟩

lemma noteValue_own (htrim : trim value = value) (hne : value ≠ "") :
    noteValue label (label.heading ++ value.toList) = some value := by
  have hstarts : label.heading.isPrefixOf (label.heading ++ value.toList) = true :=
    List.isPrefixOf_iff_prefix.mpr (List.prefix_append _ _)
  rw [noteValue, if_pos hstarts, List.drop_left, String.ofList_toList, htrim]
  simp [Option.filter, hne]

lemma noteValue_chosen (other : ApprovedNotesLabel) :
    ((chosen fields other).map (fun value => other.heading ++ value.toList)).bind (noteValue label) =
      if other = label then chosen fields label else none := by
  by_cases hlabel : other = label
  · subst hlabel
    rw [if_pos rfl]
    cases hchosen : chosen fields other with
    | none => rfl
    | some value =>
      obtain ⟨htrim, hne⟩ := chosen_trimmed hchosen
      exact noteValue_own htrim hne
  · rw [if_neg hlabel]
    cases chosen fields other with
    | none => rfl
    | some value => exact noteValue_other (Ne.symm hlabel) _

lemma filterMap_blockLines (fields : List UnmappedField) (label : ApprovedNotesLabel) :
    (blockLines fields).filterMap (noteValue label) = (chosen fields label).toList := by
  rw [blockLines, List.filterMap_filterMap]
  simp only [noteValue_chosen]
  cases hchosen : chosen fields label <;> cases label <;> simp [approvedNotesLabels]

lemma heading_newline (label : ApprovedNotesLabel) : '\n' ∉ label.heading := by
  cases label <;> decide

lemma heading_ne_nil (label : ApprovedNotesLabel) : label.heading ≠ [] := by
  cases label <;> decide

def OneLine (fields : List UnmappedField) : Prop :=
  ∀ label value, chosen fields label = some value → '\n' ∉ value.toList

lemma mem_blockLines {cs : List Char} (h : cs ∈ blockLines fields) :
    ∃ label value, chosen fields label = some value ∧ cs = label.heading ++ value.toList := by
  obtain ⟨label, _, hline⟩ := List.mem_filterMap.mp h
  obtain ⟨value, hchosen, rfl⟩ := Option.map_eq_some_iff.mp hline
  exact ⟨label, value, hchosen, rfl⟩

lemma blockLines_newline (hlines : OneLine fields) {cs : List Char} (h : cs ∈ blockLines fields) : '\n' ∉ cs := by
  obtain ⟨label, value, hchosen, rfl⟩ := mem_blockLines h
  intro hmem
  rcases List.mem_append.mp hmem with hmem | hmem
  · exact heading_newline label hmem
  · exact hlines label value hchosen hmem

lemma block_lines (hlines : OneLine fields) (hne : blockLines fields ≠ []) :
    (buildExtractedNotesBlock fields).toList.splitOn '\n' = blockLines fields := by
  rw [buildExtractedNotesBlock, String.toList_ofList]
  exact List.splitOn_intercalate _ (fun cs hcs => blockLines_newline hlines hcs) hne

lemma block_eq_empty_iff (hlines : OneLine fields) : buildExtractedNotesBlock fields = "" ↔ blockLines fields = [] := by
  constructor
  · intro hblock
    by_contra hne
    have hsplit := block_lines hlines hne
    rw [hblock] at hsplit
    have hmem : [] ∈ blockLines fields := hsplit ▸ List.mem_singleton.mpr rfl
    obtain ⟨label, value, _, hline⟩ := mem_blockLines hmem
    exact heading_ne_nil label (List.append_eq_nil_iff.mp hline.symm).1
  · intro hnil
    rw [buildExtractedNotesBlock, hnil]
    rfl

lemma parse_blank (notes : Option String) (h : notes.filter (fun notes => notes != "") = none) :
    parseApprovedNotesFields notes label = none := by
  cases notes with
  | none => rfl
  | some notes =>
    have hempty : notes = "" := by simpa [Option.filter] using h
    rw [hempty]
    rfl

lemma notes_read_back (existing : Option String) (fields : List UnmappedField) (hlines : OneLine fields)
    (label : ApprovedNotesLabel) (hne : buildExtractedNotesBlock fields ≠ "") :
    parseApprovedNotesFields (some (withBlock existing (buildExtractedNotesBlock fields))) label =
      (chosen fields label).or (parseApprovedNotesFields (existing.map trim) label) := by
  have hchosen := filterMap_blockLines fields label
  have hnil := mt (block_eq_empty_iff hlines).mpr hne
  have hlast : (chosen fields label).toList.getLast? = chosen fields label := by
    cases chosen fields label <;> rfl
  rw [withBlock]
  cases hbefore : (existing.map trim).filter (fun notes => notes != "") with
  | none =>
    rw [parse_blank _ hbefore, Option.or_none, parse_eq, notesLines, Option.getD_some, block_lines hlines hnil, hchosen,
      hlast]
  | some notes =>
    have hsome : existing.map trim = some notes := (Option.filter_eq_some_iff.mp hbefore).1
    have hsplit : (notes ++ "\n\n" ++ buildExtractedNotesBlock fields).toList.splitOn '\n' =
        notes.toList.splitOn '\n' ++ ([] :: blockLines fields) := by
      have htext : (notes ++ "\n\n" ++ buildExtractedNotesBlock fields).toList =
          notes.toList ++ '\n' :: ([] ++ '\n' :: (buildExtractedNotesBlock fields).toList) := by
        simp
      rw [htext, List.splitOn_append_cons_self, List.splitOn_append_cons_self, block_lines hlines hnil]
      rfl
    have hblank : noteValue label [] = none := by cases label <;> decide
    rw [hsome, parse_eq, parse_eq, notesLines, notesLines, Option.getD_some, Option.getD_some, hsplit,
      List.filterMap_append, List.filterMap_cons_none hblank, hchosen, List.getLast?_append, hlast]

lemma chosen_of_empty (hlines : OneLine fields) (h : buildExtractedNotesBlock fields = "") : chosen fields label = none := by
  have hchosen := filterMap_blockLines fields label
  rw [(block_eq_empty_iff hlines).mp h] at hchosen
  exact Option.toList_eq_nil_iff.mp hchosen.symm

lemma find_set {stops : List StopFormValue} {i : ℕ} {stop : StopFormValue} (h : stops.findIdx? isPickup = some i)
    (hstop : isPickup stop = true) : (stops.set i stop).find? isPickup = some stop := by
  induction stops generalizing i with
  | nil => cases h
  | cons first stops ih =>
    rw [List.findIdx?_cons] at h
    split at h
    · obtain rfl := Option.some.inj h
      exact List.find?_cons_of_pos hstop
    · next hfirst =>
      obtain ⟨j, hj, rfl⟩ := Option.map_eq_some_iff.mp h
      rw [List.set_cons_succ, List.find?_cons_of_neg hfirst, ih hj]

lemma targetIndex_isSome {stops : List StopFormValue} (h : stops ≠ []) : stops[targetIndex stops]?.isSome = true := by
  rw [Option.isSome_iff_ne_none, ne_eq, List.getElem?_eq_none_iff, not_le, targetIndex]
  cases hfound : stops.findIdx? isPickup with
  | none => exact List.length_pos_of_ne_nil h
  | some i =>
    obtain ⟨hi, _⟩ := List.findIdx?_eq_some_iff_getElem.mp hfound
    exact hi

lemma pickupStop_set {stops : List StopFormValue} {target : StopFormValue}
    (htarget : stops[targetIndex stops]? = some target) (notes : Option String) :
    pickupStop (stops.set (targetIndex stops) { target with notes }) = some { target with notes } := by
  have hsame : isPickup { target with notes } = isPickup target := rfl
  rw [targetIndex] at htarget ⊢
  cases hfound : stops.findIdx? isPickup with
  | none =>
    rw [hfound] at htarget
    rw [Option.getD_none] at htarget ⊢
    have hnone := List.findIdx?_eq_none_iff.mp hfound
    cases stops with
    | nil => cases htarget
    | cons first stops =>
      obtain rfl := Option.some.inj htarget
      have hrest : stops.find? isPickup = none :=
        List.find?_eq_none.mpr (fun other hother => by simp [hnone other (List.mem_cons_of_mem _ hother)])
      have hother : ¬ isPickup { first with notes } = true := by simp [hsame, hnone first List.mem_cons_self]
      rw [pickupStop, List.set_cons_zero, List.find?_cons_of_neg hother, hrest]
      rfl
  | some i =>
    rw [hfound] at htarget
    rw [Option.getD_some] at htarget ⊢
    obtain ⟨hi, hpickup, _⟩ := List.findIdx?_eq_some_iff_getElem.mp hfound
    have hget : stops[i] = target := by
      rw [List.getElem?_eq_getElem hi] at htarget
      exact Option.some.inj htarget
    rw [pickupStop, find_set hfound (by rw [hsame, ← hget, hpickup]), Option.some_or]

lemma mapped_notes {stops : List ExtractedStop} {stop : StopFormValue} (h : pickupStop (stops.map mappedStop) = some stop) :
    stop.notes = none := by
  have hmem : stop ∈ stops.map mappedStop := by
    rw [pickupStop, Option.or_eq_some_iff] at h
    rcases h with hfound | ⟨_, hhead⟩
    · exact List.mem_of_find?_eq_some hfound
    · exact List.mem_of_mem_head? hhead
  obtain ⟨_, _, rfl⟩ := List.mem_map.mp hmem
  rfl

lemma splitOn_newline (cs : List Char) : ∀ l ∈ cs.splitOn '\n', '\n' ∉ l := by
  induction cs with
  | nil => simp
  | cons c cs ih =>
    rw [List.splitOn_cons_eq_if_modifyHead]
    split
    · exact List.forall_mem_cons.mpr ⟨List.not_mem_nil, ih⟩
    · rename_i hc
      cases hlines : cs.splitOn '\n' with
      | nil => simp
      | cons l lines =>
        rw [hlines] at ih
        obtain ⟨hl, hrest⟩ := List.forall_mem_cons.mp ih
        refine List.forall_mem_cons.mpr ⟨fun hmem => ?_, hrest⟩
        rcases List.mem_cons.mp hmem with heq | hmem
        · exact hc (beq_iff_eq.mpr heq.symm)
        · exact hl hmem

lemma textLines_newline {text line : String} (h : line ∈ textLines text) : '\n' ∉ line.toList := by
  obtain ⟨s, hs, rfl⟩ := List.mem_map.mp h
  obtain ⟨cs, hcs, rfl⟩ := List.mem_map.mp hs
  intro hmem
  have hin := (trim_sublist _).subset hmem
  rw [String.toList_ofList] at hin
  exact splitOn_newline _ cs hcs hin

lemma unmappedField_newline {line : String} {f : UnmappedField} (hline : '\n' ∉ line.toList)
    (h : unmappedField line = some f) : '\n' ∉ f.value.toList := by
  simp only [unmappedField, Option.bind_eq_bind, Option.bind_eq_some_iff] at h
  obtain ⟨m, hm, h⟩ := h
  split at h
  · cases h
  · obtain rfl := Option.some.inj h
    obtain ⟨before, taken, htext, _, hgroup⟩ := exec_last_group
      [group 1 (letter.seq (many 1 (some 39) (one (fun c => c.isAlphanum || " /#.'".toList.contains c)))), char ':',
        spaces] (n := 2) (a := plus dot) (by decide) hm
    intro hmem
    have hin := (trim_sublist _).subset hmem
    rw [Cursor.group, hgroup, Option.map_some, Option.getD_some, String.toList_ofList] at hin
    exact hline (htext ▸ List.mem_append_right before hin)

lemma extracted_oneLine {toUpperCase : String → String} {text : String} {data : ExtractedRateConfirmationData}
    (h : parseRateConfirmationText toUpperCase text = .ok (.data data)) : OneLine data.unmappedFields := by
  have hfields : ∃ consumed, data.unmappedFields = extractUnmappedFields (textLines text) consumed := by
    rw [parseRateConfirmationText] at h
    split at h
    · cases h
    · cases hparsed : parseLines (textLines text) with
      | error e =>
        rw [hparsed] at h
        cases h
      | ok parsed =>
        rw [hparsed] at h
        cases h
        rw [parseLines] at hparsed
        cases hheader : extractHeader (textLines text) with
        | error e =>
          rw [hheader] at hparsed
          cases hparsed
        | ok header =>
          rw [hheader] at hparsed
          cases hparsed
          exact ⟨_, rfl⟩
  obtain ⟨consumed, hfields⟩ := hfields
  intro label value hchosen hmem
  obtain ⟨f, hfound, rfl⟩ := Option.map_eq_some_iff.mp hchosen
  have hf := List.mem_of_find?_eq_some hfound
  rw [hfields, extractUnmappedFields] at hf
  obtain ⟨⟨line, i⟩, he, hread⟩ := List.mem_filterMap.mp (List.mem_of_mem_take hf)
  have hline : '\n' ∉ line.toList := textLines_newline (List.fst_mem_of_mem_zipIdx he)
  dsimp only at hread
  split at hread
  · cases hread
  · exact unmappedField_newline hline hread ((trim_sublist _).subset hmem)

/-- Where the extractor finds a stop, the e-mail reads under each label what the form has found for it; what the notes of
that stop said before stays under the other labels, unless the form writes no block. -/
theorem extracted_notes_read_back {toUpperCase : String → String} {text : String} {data : ExtractedRateConfirmationData}
    (h : parseRateConfirmationText toUpperCase text = .ok (.data data)) (hstops : data.stops ≠ [])
    (previousStops : List StopFormValue) (label : ApprovedNotesLabel) :
    parseApprovedNotesFields ((pickupStop (formStops previousStops data)).bind StopFormValue.notes) label =
      (chosen data.unmappedFields label).or
        (if buildExtractedNotesBlock data.unmappedFields = "" then none
        else parseApprovedNotesFields
          ((previousStops[targetIndex (data.stops.map mappedStop)]?.bind StopFormValue.notes).map trim) label) := by
  have hlines := extracted_oneLine h
  rw [formStops]
  by_cases hempty : buildExtractedNotesBlock data.unmappedFields = ""
  · rw [if_pos hempty, if_pos hempty, chosen_of_empty hlines hempty, Option.or_none]
    cases hquoted : pickupStop (data.stops.map mappedStop) with
    | none => rfl
    | some stop =>
      rw [Option.bind_some, mapped_notes hquoted]
      rfl
  · rw [if_neg hempty, if_neg hempty]
    have hmapped : data.stops.map mappedStop ≠ [] := mt List.map_eq_nil_iff.mp hstops
    obtain ⟨target, htarget⟩ := Option.isSome_iff_exists.mp (targetIndex_isSome hmapped)
    rw [htarget]
    dsimp only
    rw [pickupStop_set htarget, Option.bind_some]
    exact notes_read_back _ _ hlines label hempty

end RoundTrip

namespace Sample

lemma still_bounded : ∀ _ : ℤ, -86400 < (0 : ℤ) ∧ (0 : ℤ) < 86400 := fun _ => by decide

lemma still_earliest : ∀ t : ℤ, let w := t + 1000 * 0
    let first := w - 1000 * 0
    first + 1000 * 0 = w ∧ first ≤ t := by
  intro t
  simp

def greenwich : Zone where
  offset _ := 0
  offsetFor _ := 0
  bounded := still_bounded
  earliest := still_earliest

def readOf : RateConfirmationExtractionOutcome → Option (List UnmappedField × List ExtractedStopType)
  | .data data => some (data.unmappedFields, data.stops.map ExtractedStop.stopType)
  | .multiLoadDetected => none

def confirmation : String := "Total Mileage: 512\nGate: 4411\nCONSIGNEE: Acme Cold Storage\nSHIPPER: Shipper One Inc"

def typed : List StopFormValue := [{ stopType := .pickup }, { stopType := .other, notes := some " Commodity: Steel " }]

lemma targetIndex_of_types {stops : List ExtractedStop} (h : stops.map ExtractedStop.stopType = [.delivery, .pickup]) :
    targetIndex (stops.map mappedStop) = 1 := by
  obtain ⟨first, rest, rfl, hfirst, hrest⟩ := List.map_eq_cons_iff.mp h
  obtain ⟨second, rest, rfl, hsecond, hnil⟩ := List.map_eq_cons_iff.mp hrest
  obtain rfl := List.map_eq_nil_iff.mp hnil
  simp [targetIndex, List.findIdx?_cons, isPickup, mappedStop, hfirst, hsecond]

def message : DriverDispatchMessageInput where
  loadNumber := "L-1001"
  carrierLegalName := "Carrier"
  customerLegalName := "Customer"
  driverName := "Driver"
  driverPhone := "555"
  customerPoNumber := none
  customerRate := none
  stops := []
  pickupStopNotes := none
  pickupNumber := none

end Sample

open DriverDispatch.Sample in
theorem dispatch_message_confined_sample :
    buildDriverDispatchMessage greenwich { message with pickupStopNotes := some "Mileage: 512\nGate code 4411" } =
      buildDriverDispatchMessage greenwich { message with pickupStopNotes := some "Mileage: 512" } :=
  dispatch_message_confined greenwich message _ _ (by decide)

open DriverDispatch.Sample in
theorem extracted_notes_read_back_sample :
    ∃ data, parseRateConfirmationText String.toUpper confirmation = .ok (.data data) ∧
      parseApprovedNotesFields ((pickupStop (formStops typed data)).bind StopFormValue.notes) .mileage = some "512" ∧
      parseApprovedNotesFields ((pickupStop (formStops typed data)).bind StopFormValue.notes) .commodity = some "Steel" := by
  have hread : (parseRateConfirmationText String.toUpper confirmation).toOption.bind readOf =
      some ([⟨"Total Mileage", "512"⟩, ⟨"Gate", "4411"⟩], [.delivery, .pickup]) := by decide +kernel
  cases hparse : parseRateConfirmationText String.toUpper confirmation with
  | error e =>
    rw [hparse] at hread
    cases hread
  | ok outcome =>
    rw [hparse] at hread
    cases outcome with
    | multiLoadDetected => cases hread
    | data data =>
      obtain ⟨hfields, htypes⟩ := Prod.mk.inj (Option.some.inj hread)
      have hstops : data.stops ≠ [] := by
        rintro hnil
        rw [hnil] at htypes
        cases htypes
      have htarget : targetIndex (data.stops.map mappedStop) = 1 := targetIndex_of_types htypes
      have hback := extracted_notes_read_back hparse hstops typed
      refine ⟨data, rfl, (hback .mileage).trans ?_, (hback .commodity).trans ?_⟩
      · rw [hfields, htarget]
        decide
      · rw [hfields, htarget]
        decide

end Truckmaster.QuoteLoad.DriverDispatch
