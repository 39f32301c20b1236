import Truckmaster.RateConfirmationExtraction.HeaderLines

/-! When a text is parsed, and nothing that its labels say is dropped. -/

namespace Truckmaster.RateConfirmationExtraction

open Common Patterns

variable {line : String} {lines : List String} {before after consumed : Consumed} {i k : ℕ} {u : Use} {header : Header}
  {data : ExtractedRateConfirmationData}

def LabeledField.labels : LabeledField → List Pattern
  | .customerPoNumber => poNumberLabels
  | .bolNumber => bolNumberLabels
  | .pickupNumber => pickupNumberLabels
  | .customerReferenceNumber => referenceNumberLabels

namespace ExtractedRateConfirmationData

def labeled (data : ExtractedRateConfirmationData) : LabeledField → Option String
  | .customerPoNumber => data.customerPoNumber
  | .bolNumber => data.bolNumber
  | .pickupNumber => data.pickupNumber
  | .customerReferenceNumber => data.customerReferenceNumber

def WarnsOfAppointment (data : ExtractedRateConfirmationData) (k : ℕ) : Prop :=
  ∃ stopType, ∃ issue ∈ [StopIssue.appointmentAmbiguous, .appointmentNotFound], .stop k stopType issue ∈ data.warnings

end ExtractedRateConfirmationData

def ExtractedCustomer.party (c : ExtractedCustomer) : PartyScan where
  addressLine1 := c.billingAddressLine1
  city := c.billingCity
  state := c.billingState
  zip := c.billingZip
  contactName := c.primaryContactName
  contactPhone := c.primaryContactPhone

def ExtractedStop.party (s : ExtractedStop) : PartyScan where
  addressLine1 := s.addressLine1
  city := s.city
  state := s.state
  zip := s.zip
  contactName := s.contactName
  contactPhone := s.contactPhone

def StopUse.Shows (data : ExtractedRateConfirmationData) (k : ℕ) (line : String) : StopUse → Prop
  | .companyName => ∃ s ∈ data.stops[k]?, s.companyName = some line
  | .field f => ∃ s ∈ data.stops[k]?, f.read line = some (f.values s.party)
  | .appointment date time meridiem => ∃ s ∈ data.stops[k]?, appointmentTexts line = some (date, time, meridiem) ∧
      ∃ text, toNaiveIsoDatetime date time meridiem = some text ∧ s.appointmentDatetime = some text
  | .refusedAppointment => data.WarnsOfAppointment k
  | .ambiguousAppointment => data.WarnsOfAppointment k

def Use.Shows (data : ExtractedRateConfirmationData) (line : String) : Use → Prop
  | .customerRate => ∃ value x, rateValue line = some value ∧ rateNumber value = some x ∧ data.customerRate = some (toFixed x)
  | .labeled f => ∃ value, labeledValue f.labels line = some value ∧ data.labeled f = some (trim value)
  | .equipmentType => ∃ e ∈ equipmentPatterns, e.1.test line = true ∧ data.equipmentType = some e.2
  | .customerLabel => False
  | .customerName => ∃ c ∈ data.customer, c.extractedName = line
  | .customerField f => ∃ c ∈ data.customer, f.read line = some (f.values c.party)
  | .stopMarker _ => False
  | .stopLine k use => use.Shows data k line

def isStopMarker (line : String) : Bool := stopMarkers.any (fun marker => marker.1.test line)

/-- What becomes of a line. -/
inductive Accounted (lines : List String) (consumed : Consumed) (data : ExtractedRateConfirmationData) (i : ℕ)
    (line : String) : Prop
  | marker (hmarker : isStopMarker line = true ∨ customerLabel.test line = true)
  | shown (u : Use) (hused : (i, u) ∈ consumed) (hshows : u.Shows data line)
  | unmapped (hleft : consumed.has i = false)
      (hlisted : (∃ f, unmappedField line = some f ∧ f ∈ data.unmappedFields) ∨ data.unmappedFields.length = maxUnmappedFields)

def markerLines (lines : List String) (consumed : Consumed) : List (String × ℕ) :=
  lines.zipIdx.filter (fun e => !consumed.has e.2 && isStopMarker e.1)

structure StopAt (lines : List String) (marker : String) (low high : ℕ) (s : ExtractedStop) : Prop where
  stopType : ∃ pattern, (pattern, s.stopType) ∈ stopMarkers ∧ pattern.test marker = true
  companyName : ∀ name ∈ s.companyName,
    (∃ e ∈ stopMarkers, ∃ m, e.1.exec marker = some m ∧ (m.group 1).map trim = some name) ∨
      ∃ j, low < j ∧ j < high ∧ lines[j]? = some name
  fields : ∀ f : PartyField, f.values s.party = f.values {} ∨
    ∃ j line, low < j ∧ j < high ∧ lines[j]? = some line ∧ f.read line = some (f.values s.party)
  appointment : ∀ text ∈ s.appointmentDatetime, ∃ j line date time meridiem, low < j ∧ j < high ∧ lines[j]? = some line ∧
    appointmentTexts line = some (date, time, meridiem) ∧ toNaiveIsoDatetime date time meridiem = some text

/-- The stops are those of the markers in their order, and each labeled value is accounted for. -/
structure Faithful (lines : List String) (header : Header) (consumed : Consumed) (data : ExtractedRateConfirmationData) : Prop where
  length : data.stops.length = (markerLines lines header.consumed).length
  stops : ∀ k marker i, (markerLines lines header.consumed)[k]? = some (marker, i) → ∃ s ∈ data.stops[k]?,
    StopAt lines marker i (((markerLines lines header.consumed)[k + 1]?.map Prod.snd).getD lines.length) s
  accounted : ∀ i line, lines[i]? = some line → genericLabelValueLine.test line = true → Accounted lines consumed data i line

/-- The label of the customer has neither a colon nor a dash. -/
def BareCustomerLabel (lines : List String) : Prop :=
  ∃ m i, customerLabelLine lines (takenBeforeCustomer lines) = some (m, i) ∧ m.group 1 = none

/-- In the block of a stop a labeled appointment is refused, and the appointment of another line is taken. -/
def DroppedAppointment (lines : List String) : Prop :=
  ∃ marker rest, marker :: rest <:+ findStopMarkers lines (takenBeforeStops lines) ∧
    ∃ refused ∈ appointmentLines lines (takenBeforeStops lines) marker rest,
      isRefused refused.1 = true ∧ genericLabelValueLine.test refused.1 = true ∧ customerLabel.test refused.1 = false ∧
        ∃ taken ∈ appointmentLines lines (takenBeforeStops lines) marker rest, (appointmentParts taken.1).isSome = true

def Reported (toUpperCase : String → String) (text : String) : Prop :=
  ∃ outcome, parseRateConfirmationText toUpperCase text = .ok outcome ∧ ∀ data, outcome = .data data →
    ∃ header consumed, extractHeader (textLines text) = .ok header ∧ parseLines (textLines text) = .ok (data, consumed) ∧
      Faithful (textLines text) header consumed data

def Adds (lines : List String) (before after : Consumed) (P : String → Use → Prop) : Prop :=
  ∀ i u, (i, u) ∈ after → (i, u) ∈ before ∨ ∃ line, lines[i]? = some line ∧ P line u

lemma extractCustomerRate_adds (lines : List String) (before : Consumed) :
    Adds lines before (extractCustomerRate lines before).2.1 (fun line u => u = .customerRate ∧
      ∃ value x, rateValue line = some value ∧ rateNumber value = some x ∧
        (extractCustomerRate lines before).1 = some (toFixed x)) := by
  intro i u hmem
  cases hfirst : firstLine lines before rateValue with
  | none =>
    rw [extractCustomerRate, hfirst] at hmem
    exact .inl hmem
  | some r =>
    obtain ⟨value, j⟩ := r
    obtain ⟨line, hat, _, hread⟩ := firstLine_eq_some hfirst
    cases hnumber : rateNumber value with
    | none =>
      simp only [extractCustomerRate, hfirst, hnumber] at hmem
      exact .inl hmem
    | some x =>
      simp only [extractCustomerRate, hfirst, hnumber] at hmem ⊢
      rcases List.mem_cons.mp hmem with heq | hmem
      · obtain ⟨rfl, rfl⟩ := Prod.mk.inj heq
        exact .inr ⟨line, hat, rfl, value, x, hread, hnumber, rfl⟩
      · exact .inl hmem

lemma extractLabeledValue_adds (lines : List String) (before : Consumed) (f : LabeledField) :
    Adds lines before (extractLabeledValue lines before f.labels f).2 (fun line u => u = .labeled f ∧
      ∃ value, labeledValue f.labels line = some value ∧ (extractLabeledValue lines before f.labels f).1 = some (trim value)) := by
  intro i u hmem
  cases hfirst : firstLine lines before (labeledValue f.labels) with
  | none =>
    rw [extractLabeledValue, hfirst] at hmem
    exact .inl hmem
  | some r =>
    obtain ⟨value, j⟩ := r
    obtain ⟨line, hat, _, hread⟩ := firstLine_eq_some hfirst
    simp only [extractLabeledValue, hfirst] at hmem ⊢
    rcases List.mem_cons.mp hmem with heq | hmem
    · obtain ⟨rfl, rfl⟩ := Prod.mk.inj heq
      exact .inr ⟨line, hat, rfl, value, hread, rfl⟩
    · exact .inl hmem

lemma extractEquipmentType_adds (lines : List String) (before : Consumed) :
    Adds lines before (extractEquipmentType lines before).2 (fun line u => u = .equipmentType ∧
      ∃ e ∈ equipmentPatterns, e.1.test line = true ∧ (extractEquipmentType lines before).1 = some e.2) := by
  intro i u hmem
  rw [extractEquipmentType] at hmem ⊢
  cases hlabel : lines.zipIdx.find? (fun e => !before.has e.2 && equipmentLabel.test e.1) with
  | none =>
    rw [hlabel] at hmem
    split at hmem
    · exact .inl hmem
    · exact .inl hmem
  | some r =>
    obtain ⟨line, j⟩ := r
    rw [hlabel] at hmem
    dsimp only at hmem ⊢
    split at hmem
    case h_1 e he =>
      rcases List.mem_cons.mp hmem with heq | hmem
      · obtain ⟨rfl, rfl⟩ := Prod.mk.inj heq
        have hmatch : e ∈ equipmentPatterns.filter (fun e => [line].any e.1.test) := he ▸ List.mem_singleton_self e
        obtain ⟨hpattern, htest⟩ := List.mem_filter.mp hmatch
        rw [List.any_cons, List.any_nil, Bool.or_false] at htest
        exact .inr ⟨line, List.mem_zipIdx_iff_getElem?.mp (List.mem_of_find?_eq_some hlabel), rfl, e, hpattern, htest, rfl⟩
      · exact .inl hmem
    · exact .inl hmem

def CustomerUse (customer : Option ExtractedCustomer) (line : String) (u : Use) : Prop :=
  u = .customerLabel ∧ customerLabel.test line = true ∨
    (u = .customerName ∧ ∃ c ∈ customer, c.extractedName = line) ∨
    ∃ f, u = .customerField f ∧ ∃ c ∈ customer, f.read line = some (f.values c.party)

lemma customerName_adds (lines : List String) (labelIndex : ℕ) (inlineName : String) (before : Consumed) :
    Adds lines before (customerName lines labelIndex inlineName before).2.2 (fun line u => u = .customerName ∧
      (customerName lines labelIndex inlineName before).1 = line ∧ line ≠ "") := by
  intro i u hmem
  rw [customerName] at hmem ⊢
  split_ifs at hmem ⊢ with hinline
  · exact .inl hmem
  · cases hname : nameLine lines labelIndex with
    | none =>
      rw [hname] at hmem
      exact .inl hmem
    | some r =>
      obtain ⟨line, j⟩ := r
      rw [hname] at hmem
      rcases List.mem_cons.mp hmem with heq | hmem
      · obtain ⟨rfl, rfl⟩ := Prod.mk.inj heq
        obtain ⟨hfind, _⟩ := Option.filter_eq_some_iff.mp hname
        have hne := List.find?_some hfind
        exact .inr ⟨line, List.mem_zipIdx_iff_getElem?.mp (List.mem_of_mem_drop (List.mem_of_find?_eq_some hfind)), rfl, rfl,
          by simpa using hne⟩
      · exact .inl hmem

lemma scanCustomer_adds (before : Consumed) (htrimmed : ∀ line ∈ lines, Trimmed line.toList) {block : List (String × ℕ)}
    (hblock : ∀ line i, (line, i) ∈ block → lines[i]? = some line) :
    Adds lines before (scanBlock customerLine block before {}).2 (fun line u => line ≠ "" ∧
      ∃ f, u = .customerField f ∧ f.read line = some (f.values (scanBlock customerLine block before {}).1)) := by
  refine scanBlock_keeps (I := fun scan after => Adds lines before after (fun line u => line ≠ "" ∧
    ∃ f, u = .customerField f ∧ f.read line = some (f.values scan))) _ _ _ (fun i u hmem => .inl hmem) ?_
  intro line i after scan scan' use hmem hoffered hkept hread j u hu
  obtain ⟨⟨party, f⟩, hparty, heq⟩ := Option.map_eq_some_iff.mp hread
  obtain ⟨rfl, rfl⟩ := Prod.mk.inj heq
  have hfills := partyLine_fills hparty
  rcases List.mem_cons.mp hu with heq | hu
  · obtain ⟨rfl, rfl⟩ := Prod.mk.inj heq
    exact .inr ⟨line, hblock _ _ hmem, hoffered.ne_empty, f, rfl, hfills.read⟩
  · refine (hkept j u hu).imp_right ?_
    rintro ⟨earlier, hat, hne, g, rfl, hg⟩
    refine ⟨earlier, hat, hne, g, rfl, ?_⟩
    by_cases hgf : g = f
    · subst hgf
      exact absurd hfills.lacking
        (by rw [PartyField.lacking, PartyField.read_head (htrimmed _ (List.mem_of_getElem? hat)) hne hg]; decide)
    · exact hg.trans (congrArg some (hfills.others g hgf).symm)

lemma readCustomer_adds (before : Consumed) (inlineName : String) (htrimmed : ∀ line ∈ lines, Trimmed line.toList) {labelLine : String}
    (hat : lines[i]? = some labelLine) (hlabel : customerLabel.test labelLine = true) :
    Adds lines before (readCustomer lines i inlineName before).2
      (CustomerUse (readCustomer lines i inlineName before).1) := by
  intro j u hmem
  have hname := customerName_adds lines i inlineName ((i, .customerLabel) :: before)
  set r := customerName lines i inlineName ((i, .customerLabel) :: before) with hr
  have hblock : ∀ line i, (line, i) ∈ (lines.zipIdx.drop r.2.1).take stopBlockLineWindow → lines[i]? = some line :=
    fun line i h => List.mem_zipIdx_iff_getElem?.mp (List.mem_of_mem_drop (List.mem_of_mem_take h))
  have hscan := scanCustomer_adds r.2.2 htrimmed hblock
  have hfirst : ∀ {customer : Option ExtractedCustomer}, (r.1 ≠ "" → ∃ c ∈ customer, c.extractedName = r.1) → (j, u) ∈ r.2.2 →
      (j, u) ∈ before ∨ ∃ line, lines[j]? = some line ∧ CustomerUse customer line u := by
    intro customer hcustomer hmem
    rcases hname j u hmem with hmem | ⟨line, hline, rfl, rfl, hne⟩
    · rcases List.mem_cons.mp hmem with heq | hmem
      · obtain ⟨rfl, rfl⟩ := Prod.mk.inj heq
        exact .inr ⟨labelLine, hat, .inl ⟨rfl, hlabel⟩⟩
      · exact .inl hmem
    · exact .inr ⟨r.1, hline, .inr (.inl ⟨rfl, hcustomer hne⟩)⟩
  have hread : readCustomer lines i inlineName before = if r.1 = "" then (none, r.2.2) else _ := rfl
  rw [hread] at hmem ⊢
  split_ifs at hmem ⊢ with hempty
  · exact hfirst (fun hne => absurd hempty hne) hmem
  · rcases hscan j u hmem with hmem | ⟨line, hline, _, f, rfl, hf⟩
    · exact hfirst (fun _ => ⟨_, rfl, rfl⟩) hmem
    · exact .inr ⟨line, hline, .inr (.inr ⟨f, rfl, _, rfl, hf⟩)⟩

lemma extractCustomer_adds (htrimmed : ∀ line ∈ lines, Trimmed line.toList) {customer : Option ExtractedCustomer}
    (h : extractCustomer lines before = .ok (customer, after)) : Adds lines before after (CustomerUse customer) := by
  rw [extractCustomer] at h
  cases hlabel : customerLabelLine lines before with
  | none =>
    rw [hlabel] at h
    obtain ⟨_, rfl⟩ := Prod.mk.inj (Except.ok.inj h)
    exact fun i u hmem => .inl hmem
  | some r =>
    obtain ⟨m, i⟩ := r
    obtain ⟨labelLine, hat, _, hread⟩ := firstLine_eq_some hlabel
    simp only [hlabel] at h
    cases hgroup : m.group 1 with
    | none =>
      rw [hgroup] at h
      cases h
    | some inlineName =>
      rw [hgroup] at h
      have hadds := readCustomer_adds before (trim inlineName) htrimmed hat
        (by rw [Pattern.test, hread]; rfl)
      rw [Except.ok.inj h] at hadds
      exact hadds

lemma extractCustomer_ok_iff : (∃ r, extractCustomer lines before = .ok r) ↔
    ¬∃ m i, customerLabelLine lines before = some (m, i) ∧ m.group 1 = none := by
  rw [extractCustomer]
  cases hlabel : customerLabelLine lines before with
  | none =>
    refine iff_of_true ⟨_, rfl⟩ ?_
    rintro ⟨m, i, h, _⟩
    cases h
  | some r =>
    obtain ⟨m, i⟩ := r
    cases hgroup : m.group 1 with
    | none =>
      refine iff_of_false ?_ (not_not.mpr ⟨m, i, rfl, hgroup⟩)
      rintro ⟨r, h⟩
      simp [hgroup] at h
    | some inlineName =>
      refine iff_of_true ⟨readCustomer lines i (trim inlineName) before, by simp only [hgroup]⟩ ?_
      rintro ⟨m', i', heq, hnone⟩
      obtain ⟨rfl, rfl⟩ := Prod.mk.inj (Option.some.inj heq)
      rw [hgroup] at hnone
      cases hnone

structure HeaderUse (data : ExtractedRateConfirmationData) (line : String) (u : Use) : Prop where
  header : ∀ k use, u ≠ .stopLine k use
  shows : u.Shows data line ∨ customerLabel.test line = true

lemma extractHeader_adds (htrimmed : ∀ line ∈ lines, Trimmed line.toList) (h : extractHeader lines = .ok header)
    (stops : List ExtractedStop) (stopWarnings : List Warning) (unmappedFields : List UnmappedField) :
    Adds lines [] header.consumed (HeaderUse (header.data stops stopWarnings unmappedFields)) := by
  obtain ⟨customer, consumed, hcustomer, rfl⟩ := extractHeader_eq_ok h
  intro i u hmem
  rcases extractCustomer_adds htrimmed hcustomer i u hmem with hmem |
    ⟨line, hat, ⟨rfl, htest⟩ | ⟨rfl, c, hc, hname⟩ | ⟨f, rfl, c, hc, hf⟩⟩
  rotate_left
  · exact .inr ⟨line, hat, nofun, .inr htest⟩
  · exact .inr ⟨line, hat, nofun, .inl ⟨c, hc, hname⟩⟩
  · exact .inr ⟨line, hat, nofun, .inl ⟨c, hc, hf⟩⟩
  rcases extractEquipmentType_adds lines _ i u hmem with hmem | ⟨line, hat, rfl, hvalue⟩
  rotate_left
  · exact .inr ⟨line, hat, nofun, .inl hvalue⟩
  rcases extractLabeledValue_adds lines _ .customerReferenceNumber i u hmem with hmem | ⟨line, hat, rfl, hvalue⟩
  rotate_left
  · exact .inr ⟨line, hat, nofun, .inl hvalue⟩
  rcases extractLabeledValue_adds lines _ .pickupNumber i u hmem with hmem | ⟨line, hat, rfl, hvalue⟩
  rotate_left
  · exact .inr ⟨line, hat, nofun, .inl hvalue⟩
  rcases extractLabeledValue_adds lines _ .bolNumber i u hmem with hmem | ⟨line, hat, rfl, hvalue⟩
  rotate_left
  · exact .inr ⟨line, hat, nofun, .inl hvalue⟩
  rcases extractLabeledValue_adds lines _ .customerPoNumber i u hmem with hmem | ⟨line, hat, rfl, hvalue⟩
  rotate_left
  · exact .inr ⟨line, hat, nofun, .inl hvalue⟩
  rcases extractCustomerRate_adds lines [] i u hmem with hmem | ⟨line, hat, rfl, hvalue⟩
  · exact .inl hmem
  · exact .inr ⟨line, hat, nofun, .inl hvalue⟩

lemma forall₂_filter_filterMap {α β : Type} {P : α → Bool} {f : α → Option β} {xs : List α}
    (h : ∀ x ∈ xs, P x = (f x).isSome) : List.Forall₂ (fun x y => x ∈ xs ∧ f x = some y) (xs.filter P) (xs.filterMap f) := by
  induction xs with
  | nil => exact .nil
  | cons x xs ih =>
    have hrest := (ih (fun y hy => h y (List.mem_cons_of_mem _ hy))).imp
      (fun y z (hyz : y ∈ xs ∧ f y = some z) => And.intro (List.mem_cons_of_mem x hyz.1) hyz.2)
    have hx := h x List.mem_cons_self
    cases hf : f x with
    | none =>
      rw [hf] at hx
      rw [List.filter_cons_of_neg (by simp [hx]), List.filterMap_cons_none hf]
      exact hrest
    | some y =>
      rw [hf] at hx
      rw [List.filter_cons_of_pos hx, List.filterMap_cons_some hf]
      exact .cons ⟨List.mem_cons_self, hf⟩ hrest

lemma markerHit_isSome (line : String) (i : ℕ) : (markerHit line i).isSome = isStopMarker line := by
  rw [Bool.eq_iff_iff, markerHit, List.findSome?_isSome_iff, isStopMarker, List.any_eq_true]
  exact exists_congr (fun e => and_congr_right (fun _ => by rw [Option.isSome_map, Pattern.test]))

lemma markers_found (lines : List String) (consumed : Consumed) :
    List.Forall₂ (fun e marker => e.2 = marker.lineIndex ∧ FoundAt lines marker e.1) (markerLines lines consumed)
      (findStopMarkers lines consumed) := by
  refine (forall₂_filter_filterMap ?_).imp ?_
  · rintro ⟨line, i⟩ _
    have hempty : isStopMarker "" = false := by decide
    dsimp only
    split_ifs with hskip
    · rcases Bool.or_eq_true_iff.mp hskip with hhas | hline
      · rw [hhas]
        rfl
      · rw [of_decide_eq_true hline, hempty, Bool.and_false]
        rfl
    · obtain ⟨hhas, _⟩ := Bool.or_eq_false_iff.mp (Bool.eq_false_iff.mpr hskip)
      rw [hhas, Bool.not_false, Bool.true_and, markerHit_isSome]
  · rintro ⟨line, i⟩ marker ⟨hmem, hread⟩
    exact foundAt_of_read hmem hread

lemma FoundAt.stopType {marker : StopMarkerHit} (h : FoundAt lines marker line) :
    ∃ pattern, (pattern, marker.stopType) ∈ stopMarkers ∧ pattern.test line = true := by
  obtain ⟨⟨pattern, stopType⟩, hmem, hread⟩ := List.exists_of_findSome?_eq_some h.hit
  obtain ⟨m, hm, heq⟩ := Option.map_eq_some_iff.mp hread
  rw [← heq]
  exact ⟨pattern, hmem, by rw [Pattern.test, hm]; rfl⟩

lemma FoundAt.companyName {marker : StopMarkerHit} {name : String} (h : FoundAt lines marker line)
    (hname : marker.companyName = some name) :
    ∃ e ∈ stopMarkers, ∃ m, e.1.exec line = some m ∧ (m.group 1).map trim = some name := by
  obtain ⟨⟨pattern, stopType⟩, hmem, hread⟩ := List.exists_of_findSome?_eq_some h.hit
  obtain ⟨m, hm, heq⟩ := Option.map_eq_some_iff.mp hread
  obtain ⟨hne, hinline⟩ := Option.ite_none_left_eq_some.mp hname
  rw [← heq] at hne hinline
  refine ⟨(pattern, stopType), hmem, m, hm, ?_⟩
  cases hgroup : m.group 1 with
  | none =>
    rw [hgroup] at hne
    exact absurd rfl hne
  | some inlineText =>
    rw [hgroup] at hinline
    exact hinline

lemma Filled.stopAt {marker : StopMarkerHit} {high : ℕ} {scan : StopScan} {entries : List (ℕ × StopUse)}
    (hmarker : FoundAt lines marker line)
    (h : Filled lines marker.lineIndex high marker.companyName scan entries) :
    StopAt lines line marker.lineIndex high (scan.extracted marker.stopType) where
  stopType := hmarker.stopType
  companyName := fun name hname => by
    rcases h.companyName with hinline | ⟨i, hmem⟩
    · exact .inl (hmarker.companyName (hinline.symm.trans hname))
    · obtain ⟨l, hl, hfits⟩ := h.fits i _ hmem
      obtain rfl := Option.some.inj (hfits.symm.trans hname)
      exact .inr ⟨i, hl.after, hl.before, hl.at_line⟩
  fields := fun f => (h.fields f).imp_right (fun ⟨i, hmem⟩ => by
    obtain ⟨l, hl, hfits⟩ := h.fits i _ hmem
    exact ⟨i, l, hl.after, hl.before, hl.at_line, hfits⟩)
  appointment := fun text htext => by
    obtain ⟨_, i, date, time, meridiem, hmem⟩ := h.appointment text htext
    obtain ⟨l, hl, htexts, s, hs, hscan⟩ := h.fits i _ hmem
    obtain rfl := Option.some.inj (hscan.symm.trans htext)
    exact ⟨i, l, date, time, meridiem, hl.after, hl.before, hl.at_line, htexts, hs⟩

lemma blockLimit_eq {es : List (String × ℕ)} {rest : List StopMarkerHit}
    (h : List.Forall₂ (fun e marker => e.2 = marker.lineIndex ∧ FoundAt lines marker e.1) es rest) :
    blockLimit lines rest = (es.head?.map Prod.snd).getD lines.length := by
  cases h with
  | nil => rfl
  | cons hfirst _ => exact hfirst.1.symm

section Parsed

variable (lines header)

def stopsOf : List ExtractedStop × Consumed × List Warning :=
  extractStops lines 0 (findStopMarkers lines header.consumed) header.consumed

def dataOf : ExtractedRateConfirmationData :=
  header.data (stopsOf lines header).1 (stopsOf lines header).2.2 (extractUnmappedFields lines (stopsOf lines header).2.1)

variable {lines header}

lemma header_warning {w : Warning} (h : extractHeader lines = .ok header) (hw : w ∈ header.warnings) :
    ∃ value, w = .rateNotANumber value := by
  obtain ⟨customer, consumed, _, rfl⟩ := extractHeader_eq_ok h
  have hrate : w ∈ (extractCustomerRate lines []).2.2 := hw
  rw [extractCustomerRate] at hrate
  split at hrate
  case h_1 value _ _ =>
    split at hrate
    · cases hrate
    · exact ⟨value, List.mem_singleton.mp hrate⟩
  case h_2 => cases hrate

lemma parseLines_of_header (h : extractHeader lines = .ok header) :
    parseLines lines = .ok (dataOf lines header, (stopsOf lines header).2.1) := by
  rw [parseLines, h]
  rfl

lemma header_without_stops (htrimmed : ∀ line ∈ lines, Trimmed line.toList) (h : extractHeader lines = .ok header) (i k : ℕ)
    (use : StopUse) : (i, .stopLine k use) ∉ header.consumed := by
  intro hmem
  rcases extractHeader_adds htrimmed h [] [] [] i _ hmem with hmem | ⟨_, _, huse⟩
  · cases hmem
  · exact huse.header k use rfl

lemma header_ofStop (htrimmed : ∀ line ∈ lines, Trimmed line.toList) (h : extractHeader lines = .ok header) (k : ℕ) :
    header.consumed.ofStop k = [] :=
  List.eq_nil_iff_forall_not_mem.mpr (fun e he => header_without_stops htrimmed h e.1 k e.2 (Consumed.mem_ofStop.mp he))

lemma stopsOf_reads (htrimmed : ∀ line ∈ lines, Trimmed line.toList) (h : extractHeader lines = .ok header) :
    StopsRead lines 0 (findStopMarkers lines header.consumed) header.consumed (stopsOf lines header).1
      (stopsOf lines header).2.1 (stopsOf lines header).2.2 :=
  extractStops_reads htrimmed (fun _ hmarker => foundAt_of_mem hmarker) (fun k _ => header_ofStop htrimmed h k)
    (fun i k use hmem => absurd hmem (header_without_stops htrimmed h i k use))

lemma markers_of_entry {use : StopUse} (htrimmed : ∀ line ∈ lines, Trimmed line.toList) (h : extractHeader lines = .ok header)
    (hmem : (i, .stopLine k use) ∈ (stopsOf lines header).2.1) : k < (findStopMarkers lines header.consumed).length := by
  rcases (stopsOf_reads htrimmed h).added i _ hmem with hmem | ⟨n, hn, use', heq⟩ | ⟨n, _, _, _, heq⟩
  · exact absurd hmem (header_without_stops htrimmed h i k use)
  · have hindex := (Use.stopLine.inj heq).1
    omega
  · cases heq

lemma appointment_entry_iff {use : StopUse} (htrimmed : ∀ line ∈ lines, Trimmed line.toList)
    (h : extractHeader lines = .ok header) (huse : use.isAppointment = true) {marker : StopMarkerHit} {rest : List StopMarkerHit}
    (hdrop : (findStopMarkers lines header.consumed).drop k = marker :: rest) :
    (i, .stopLine k use) ∈ (stopsOf lines header).2.1 ↔
      ∃ line, (line, i) ∈ appointmentLines lines header.consumed marker rest ∧ appointmentUse line = some use := by
  have hstops := extractStops_appointments (i := i) (k := 0) htrimmed (fun marker hmarker => foundAt_of_mem hmarker)
    (findStopMarkers_sorted lines header.consumed) (fun k _ => header_ofStop htrimmed h k)
    (fun i k use hmem => absurd hmem (header_without_stops htrimmed h i k use)) (fun _ _ _ _ => rfl) huse hdrop
  rw [Nat.zero_add] at hstops
  exact hstops

lemma dropped_iff (htrimmed : ∀ line ∈ lines, Trimmed line.toList) (h : extractHeader lines = .ok header) :
    DroppedAppointment lines ↔ ∃ i k line, (i, .stopLine k .refusedAppointment) ∈ (stopsOf lines header).2.1 ∧
      (∃ j date time meridiem, (j, .stopLine k (.appointment date time meridiem)) ∈ (stopsOf lines header).2.1) ∧
      lines[i]? = some line ∧ genericLabelValueLine.test line = true ∧ customerLabel.test line = false := by
  rw [DroppedAppointment, ← extractHeader_takes htrimmed h]
  constructor
  · rintro ⟨marker, rest, hsuffix, ⟨line, i⟩, hrefused, hrefuses, hgeneric, hlabel, ⟨line', j⟩, htaken, hparts⟩
    have hdrop := (List.suffix_iff_eq_drop.mp hsuffix).symm
    obtain ⟨p, hp⟩ := Option.isSome_iff_exists.mp hparts
    obtain ⟨date, time, meridiem, htexts, hread⟩ := appointmentParts_eq_some.mp hp
    exact ⟨i, _, line, (appointment_entry_iff htrimmed h rfl hdrop).mpr ⟨line, hrefused, appointmentUse_eq_refused.mpr hrefuses⟩,
      ⟨j, date, time, meridiem, (appointment_entry_iff htrimmed h rfl hdrop).mpr
        ⟨line', htaken, appointmentUse_eq_appointment.mpr ⟨htexts, by rw [hread]; rfl⟩⟩⟩,
      at_of_mem_appointmentLines hrefused, hgeneric, hlabel⟩
  · rintro ⟨i, k, line, hrefused, ⟨j, date, time, meridiem, htaken⟩, hat, hgeneric, hlabel⟩
    have hdrop := List.drop_eq_getElem_cons (markers_of_entry htrimmed h hrefused)
    obtain ⟨line', hmem, huse⟩ := (appointment_entry_iff htrimmed h rfl hdrop).mp hrefused
    obtain rfl := Option.some.inj (hat.symm.trans (at_of_mem_appointmentLines hmem))
    obtain ⟨line', hmem', huse'⟩ := (appointment_entry_iff htrimmed h rfl hdrop).mp htaken
    obtain ⟨htexts, hparts⟩ := appointmentUse_eq_appointment.mp huse'
    obtain ⟨p, hp⟩ := Option.isSome_iff_exists.mp hparts
    refine ⟨_, _, hdrop ▸ List.drop_suffix k _, (line, i), hmem, appointmentUse_eq_refused.mp huse, hgeneric, hlabel,
      (line', j), hmem', ?_⟩
    rw [appointmentParts_eq_some.mpr ⟨date, time, meridiem, htexts, hp⟩]
    rfl

lemma stops_length (htrimmed : ∀ line ∈ lines, Trimmed line.toList) (h : extractHeader lines = .ok header) :
    (dataOf lines header).stops.length = (markerLines lines header.consumed).length :=
  (stopsOf_reads htrimmed h).length.trans (markers_found lines header.consumed).length_eq.symm

lemma stops_at (htrimmed : ∀ line ∈ lines, Trimmed line.toList) (h : extractHeader lines = .ok header) {marker : String}
    (hmarker : (markerLines lines header.consumed)[k]? = some (marker, i)) : ∃ s ∈ (dataOf lines header).stops[k]?,
      StopAt lines marker i (((markerLines lines header.consumed)[k + 1]?.map Prod.snd).getD lines.length) s := by
  obtain ⟨hlt, heq⟩ := List.getElem?_eq_some_iff.mp hmarker
  have hdrop := List.forall₂_drop k (markers_found lines header.consumed)
  rw [List.drop_eq_getElem_cons hlt, heq] at hdrop
  obtain ⟨hit, rest, ⟨rfl, hfound⟩, hrest, hmarkers⟩ := List.forall₂_cons_left_iff.mp hdrop
  obtain ⟨scan, hstop, hfilled, _⟩ := (stopsOf_reads htrimmed h).each k hit rest hmarkers
  rw [blockLimit_eq hrest, List.head?_drop] at hfilled
  exact ⟨_, hstop, hfilled.stopAt hfound⟩

lemma stop_of_lt (htrimmed : ∀ line ∈ lines, Trimmed line.toList) (h : extractHeader lines = .ok header)
    (hk : k < (findStopMarkers lines header.consumed).length) : ∃ scan stopType low high inline,
      (dataOf lines header).stops[k]? = some (scan.extracted stopType) ∧
        Filled lines low high inline scan ((stopsOf lines header).2.1.ofStop k) ∧
        ∀ stopType' issue, .stop k stopType' issue ∈ (dataOf lines header).warnings ↔
          stopType' = stopType ∧ issue ∈ stopIssues scan := by
  obtain ⟨scan, hstop, hfilled, hissues⟩ := (stopsOf_reads htrimmed h).each k _ _ (List.drop_eq_getElem_cons hk)
  rw [Nat.zero_add] at hfilled hissues
  refine ⟨scan, _, _, _, _, hstop, hfilled, fun stopType issue => ?_⟩
  rw [← hissues, ExtractedRateConfirmationData.warnings, dataOf, Header.data, List.mem_append, List.mem_append]
  constructor
  · rintro ((hheader | hstops) | hnone)
    · obtain ⟨value, heq⟩ := header_warning h hheader
      cases heq
    · exact hstops
    · split_ifs at hnone
      · cases List.mem_singleton.mp hnone
      · cases hnone
  · exact fun hstops => .inl (.inr hstops)

lemma StopIssue.mem_of_ambiguous {scan : StopScan} (h : scan.appointmentAmbiguous = true) :
    StopIssue.appointmentAmbiguous ∈ stopIssues scan := by
  rw [stopIssues, if_pos h]
  exact List.mem_append_right _ List.mem_cons_self

lemma warns_of_lacking {scan : StopScan} {stopType : ExtractedStopType} (hnone : scan.appointmentDatetime = none)
    (hissues : ∀ stopType' issue, .stop k stopType' issue ∈ data.warnings ↔ stopType' = stopType ∧ issue ∈ stopIssues scan) :
    data.WarnsOfAppointment k := by
  by_cases hambiguous : scan.appointmentAmbiguous = true
  · exact ⟨stopType, .appointmentAmbiguous, List.mem_cons_self,
      (hissues _ _).mpr ⟨rfl, StopIssue.mem_of_ambiguous hambiguous⟩⟩
  · refine ⟨stopType, .appointmentNotFound, List.mem_cons_of_mem _ List.mem_cons_self, (hissues _ _).mpr ⟨rfl, ?_⟩⟩
    have hlacking : falsy scan.appointmentDatetime = true := by
      rw [hnone]
      rfl
    rw [stopIssues, if_neg hambiguous, hlacking]
    exact List.mem_append_right _ List.mem_cons_self

lemma not_warns_of_present {scan : StopScan} {stopType : ExtractedStopType} {low high : ℕ} {inline : Option String}
    {entries : List (ℕ × StopUse)} (hfilled : Filled lines low high inline scan entries) (hsome : scan.appointmentDatetime ≠ none)
    (hissues : ∀ stopType' issue, .stop k stopType' issue ∈ data.warnings ↔ stopType' = stopType ∧ issue ∈ stopIssues scan) :
    ¬data.WarnsOfAppointment k := by
  rintro ⟨stopType', issue, hissue, hwarning⟩
  have hmem := ((hissues _ _).mp hwarning).2
  have hpresent : falsy scan.appointmentDatetime = false := by
    obtain ⟨text, htext⟩ := Option.ne_none_iff_exists'.mp hsome
    rw [htext, falsy_some (hfilled.appointment text htext).1]
  have hplain : ¬scan.appointmentAmbiguous = true := fun hambiguous => hsome (hfilled.plain hambiguous)
  rw [stopIssues, if_neg hplain, hpresent] at hmem
  simp only [List.mem_cons, List.not_mem_nil, or_false] at hissue
  rcases hissue with rfl | rfl <;> simp at hmem

lemma entry_accounted (htrimmed : ∀ line ∈ lines, Trimmed line.toList) (h : extractHeader lines = .ok header)
    (hmem : (i, u) ∈ (stopsOf lines header).2.1) : ∃ line, lines[i]? = some line ∧
      (u.Shows (dataOf lines header) line ∨ (isStopMarker line = true ∨ customerLabel.test line = true) ∨
        ∃ k, u = .stopLine k .refusedAppointment ∧ ∃ j date time meridiem,
          (j, .stopLine k (.appointment date time meridiem)) ∈ (stopsOf lines header).2.1) := by
  rcases (stopsOf_reads htrimmed h).added i u hmem with hmem' | ⟨k, hk, use, rfl⟩ | ⟨k, marker, hmarker, rfl, rfl⟩
  · rcases extractHeader_adds htrimmed h _ _ _ i u hmem' with hnone | ⟨line, hat, huse⟩
    · cases hnone
    · exact ⟨line, hat, huse.shows.imp_right (fun hlabel => .inl (.inr hlabel))⟩
  · rw [Nat.zero_add] at hmem ⊢
    obtain ⟨scan, stopType, low, high, inline, hstop, hfilled, hissues⟩ := stop_of_lt htrimmed h hk
    obtain ⟨line, hline, hfits⟩ := hfilled.fits i use (Consumed.mem_ofStop.mpr hmem)
    refine ⟨line, hline.at_line, ?_⟩
    cases use with
    | companyName => exact .inl ⟨_, hstop, hfits⟩
    | field f => exact .inl ⟨_, hstop, hfits⟩
    | appointment date time meridiem => exact .inl ⟨_, hstop, hfits⟩
    | ambiguousAppointment => exact .inl (warns_of_lacking (hfilled.plain hfits) hissues)
    | refusedAppointment =>
      cases hscan : scan.appointmentDatetime with
      | none => exact .inl (warns_of_lacking hscan hissues)
      | some text =>
        obtain ⟨_, j, date, time, meridiem, htaken⟩ := hfilled.appointment text hscan
        exact .inr (.inr ⟨k, rfl, j, date, time, meridiem, Consumed.mem_ofStop.mp htaken⟩)
  · obtain ⟨line, hfound⟩ := foundAt_of_mem hmarker
    refine ⟨line, hfound.at_line, .inr (.inl (.inl ?_))⟩
    rw [← markerHit_isSome line marker.lineIndex, hfound.hit]
    rfl

lemma left_listed (htrimmed : ∀ line ∈ lines, Trimmed line.toList) (hat : lines[i]? = some line)
    (hgeneric : genericLabelValueLine.test line = true) (hleft : consumed.has i = false) :
    (∃ f, unmappedField line = some f ∧ f ∈ extractUnmappedFields lines consumed) ∨
      (extractUnmappedFields lines consumed).length = maxUnmappedFields := by
  obtain ⟨m, hm⟩ := Option.isSome_iff_exists.mp hgeneric
  have hvalue : trim ((m.group 2).getD "") ≠ "" := by
    obtain ⟨before, taken, htext, htaken, hgroup⟩ := exec_last_group [Pattern.group 1 (letter.seq (Pattern.many 1 (some 39)
      (Pattern.one (fun c => c.isAlphanum || " /#.'".toList.contains c)))), Pattern.char ':', spaces] (by decide) hm
    rw [Cursor.group, hgroup]
    exact (htext ▸ htrimmed line (List.mem_of_getElem? hat)).end_ne_empty htaken
  have hread : unmappedField line = some ⟨trim ((m.group 1).getD ""), trim ((m.group 2).getD "")⟩ := by
    rw [unmappedField, hm]
    exact if_neg hvalue
  rw [extractUnmappedFields]
  generalize hfields : List.filterMap _ lines.zipIdx = fields
  have hmem : (⟨trim ((m.group 1).getD ""), trim ((m.group 2).getD "")⟩ : UnmappedField) ∈ fields := by
    rw [← hfields]
    refine List.mem_filterMap.mpr ⟨(line, i), List.mem_zipIdx_iff_getElem?.mpr hat, ?_⟩
    dsimp only
    rw [hleft, hread]
    rfl
  rcases Nat.le_total fields.length maxUnmappedFields with hle | hle
  · exact .inl ⟨_, hread, by rwa [List.take_of_length_le hle]⟩
  · exact .inr (List.length_take_of_le hle)

lemma dropped_not_accounted (htrimmed : ∀ line ∈ lines, Trimmed line.toList) (h : extractHeader lines = .ok header) {j : ℕ}
    {date time : String} {meridiem : Option String} (hrefused : (i, .stopLine k .refusedAppointment) ∈ (stopsOf lines header).2.1)
    (htaken : (j, .stopLine k (.appointment date time meridiem)) ∈ (stopsOf lines header).2.1) (hat : lines[i]? = some line)
    (hlabel : customerLabel.test line = false) :
    ¬Accounted lines (stopsOf lines header).2.1 (dataOf lines header) i line := by
  have hreads := stopsOf_reads htrimmed h
  obtain ⟨hsole, line', hat', hunmarked⟩ := hreads.single i k _ hrefused
  obtain rfl := Option.some.inj (hat.symm.trans hat')
  intro haccounted
  cases haccounted with
  | marker hmarker =>
    rw [isAnyStopOrSectionMarker] at hunmarked
    rcases hmarker with hmarker | hmarker
    · rw [show stopMarkers.any (fun marker => marker.1.test line) = true from hmarker] at hunmarked
      cases hunmarked
    · rw [hlabel] at hmarker
      cases hmarker
  | shown u hused hshows =>
    obtain rfl := hsole u hused
    have hk := markers_of_entry htrimmed h hrefused
    obtain ⟨scan, stopType, low, high, inline, _, hfilled, hissues⟩ := stop_of_lt htrimmed h hk
    obtain ⟨_, _, _, text, _, hscan⟩ := hfilled.fits j _ (Consumed.mem_ofStop.mpr htaken)
    exact not_warns_of_present hfilled (by rw [hscan]; rintro ⟨⟩) hissues hshows
  | unmapped hleft _ =>
    rw [Consumed.has_iff.mpr ⟨_, hrefused⟩] at hleft
    cases hleft

end Parsed

lemma extractHeader_ok_iff : (∃ header, extractHeader lines = .ok header) ↔ ¬BareCustomerLabel lines := by
  rw [BareCustomerLabel, ← beforeCustomer_takes, ← extractCustomer_ok_iff]
  constructor
  · rintro ⟨header, h⟩
    obtain ⟨customer, consumed, hcustomer, _⟩ := extractHeader_eq_ok h
    exact ⟨_, hcustomer⟩
  · rintro ⟨r, hr⟩
    exact ⟨_, by rw [extractHeader]; simp only [hr]; rfl⟩

lemma header_of_reported {toUpperCase : String → String} {text : String}
    (hsingle : detectMultiLoad (textLines text) toUpperCase = false) (h : Reported toUpperCase text) :
    ∃ header, extractHeader (textLines text) = .ok header := by
  obtain ⟨outcome, hparse, _⟩ := h
  rw [parseRateConfirmationText, if_neg (by rw [hsingle]; decide), parseLines] at hparse
  cases hheader : extractHeader (textLines text) with
  | error e =>
    rw [hheader] at hparse
    cases hparse
  | ok header => exact ⟨header, rfl⟩

lemma not_reported_of_dropped {toUpperCase : String → String} {text : String}
    (hsingle : detectMultiLoad (textLines text) toUpperCase = false) (hdropped : DroppedAppointment (textLines text)) :
    ¬Reported toUpperCase text := by
  have htrimmed : ∀ line ∈ textLines text, Trimmed line.toList := fun line => trimmed_of_mem
  intro hreported
  obtain ⟨header, hheader⟩ := header_of_reported hsingle hreported
  obtain ⟨outcome, hparse, hdata⟩ := hreported
  obtain ⟨i, k, line, hrefused, ⟨j, date, time, meridiem, htaken⟩, hat, hgeneric, hlabel⟩ :=
    (dropped_iff htrimmed hheader).mp hdropped
  rw [parseRateConfirmationText, if_neg (by rw [hsingle]; decide), parseLines_of_header hheader] at hparse
  obtain ⟨header', consumed, hheader', hparsed, hfaithful⟩ := hdata _ (Except.ok.inj hparse).symm
  obtain ⟨_, rfl⟩ := Prod.mk.inj (Except.ok.inj ((parseLines_of_header hheader).symm.trans hparsed))
  exact dropped_not_accounted htrimmed hheader hrefused htaken hat hlabel (hfaithful.accounted i line hat hgeneric)

namespace Sample

def bareLabel : String := "Broker\nAcme Freight LLC\nRate: 2500.00"

def twoAppointments : String := "PICKUP: Shipper One Inc\nAppt: 13/45/2026 10:00\nAppt: 03/15/2026 08:00"

def shipperOne : StopMarkerHit := ⟨0, .pickup, "Shipper One Inc"⟩

end Sample

end Truckmaster.RateConfirmationExtraction
