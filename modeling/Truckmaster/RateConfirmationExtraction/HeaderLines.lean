import Truckmaster.RateConfirmationExtraction.AppointmentLines

/-! The lines that are taken before the stops are read, by the patterns of the lines alone. -/

namespace Truckmaster.RateConfirmationExtraction

open Common Patterns

variable {line : String} {lines : List String} {taken : Consumed} {given : List PartyField} {block : List (String × ℕ)}
  {header : Header}

def takeFirst (lines : List String) (use : Use) (kind kept : String → Bool) (taken : Consumed) : Consumed :=
  match lines.zipIdx.find? (fun e => !taken.has e.2 && kind e.1) with
  | some (line, i) => if kept line then (i, use) :: taken else taken
  | none => taken

def takeLabeled (lines : List String) (labelPatterns : List Pattern) (field : LabeledField) (taken : Consumed) : Consumed :=
  takeFirst lines (.labeled field) (fun line => (labeledValue labelPatterns line).isSome) (fun _ => true) taken

def takenBeforeCustomer (lines : List String) : Consumed :=
  let taken := takeFirst lines .customerRate (fun line => (rateValue line).isSome)
    (fun line => ((rateValue line).bind rateNumber).isSome) []
  let taken := takeLabeled lines poNumberLabels .customerPoNumber taken
  let taken := takeLabeled lines bolNumberLabels .bolNumber taken
  let taken := takeLabeled lines pickupNumberLabels .pickupNumber taken
  let taken := takeLabeled lines referenceNumberLabels .customerReferenceNumber taken
  takeFirst lines .equipmentType equipmentLabel.test
    (fun line => (equipmentPatterns.filter (fun e => e.1.test line)).length == 1) taken

def takeFields : List PartyField → List (String × ℕ) → Consumed → Consumed
  | _, [], taken => taken
  | given, e :: rest, taken => match partyFieldOf given e.1 with
    | some f => takeFields (f :: given) rest ((e.2, .customerField f) :: taken)
    | none => takeFields given rest taken

def takeCustomerBlock (lines : List String) (searchStart : ℕ) (taken : Consumed) : Consumed :=
  takeFields [] (readLines taken ((lines.zipIdx.drop searchStart).take stopBlockLineWindow)) taken

def takeCustomer (lines : List String) (labelIndex : ℕ) (inlineName : String) (taken : Consumed) : Consumed :=
  if inlineName ≠ "" then takeCustomerBlock lines (labelIndex + 1) ((labelIndex, .customerLabel) :: taken)
  else match nameLine lines labelIndex with
    | some (_, i) => takeCustomerBlock lines (i + 1) ((i, .customerName) :: (labelIndex, .customerLabel) :: taken)
    | none => (labelIndex, .customerLabel) :: taken

def takenBeforeStops (lines : List String) : Consumed :=
  match customerLabelLine lines (takenBeforeCustomer lines) with
  | some (m, i) => takeCustomer lines i (((m.group 1).map trim).getD "") (takenBeforeCustomer lines)
  | none => takenBeforeCustomer lines

inductive First {α : Type} (lines : List String) (taken : Consumed) (read : String → Option α) : Prop
  | found {line : String} {i : ℕ} {a : α} (hread : read line = some a) (hline : firstLine lines taken read = some (a, i))
      (hfind : lines.zipIdx.find? (fun e => !taken.has e.2 && (read e.1).isSome) = some (line, i))
  | none (hline : firstLine lines taken read = none)
      (hfind : lines.zipIdx.find? (fun e => !taken.has e.2 && (read e.1).isSome) = none)

lemma first_line {α : Type} (lines : List String) (taken : Consumed) (read : String → Option α) : First lines taken read := by
  have hfirst : ∀ entries : List (String × ℕ),
      entries.findSome? (fun e => if taken.has e.2 then none else (read e.1).map (fun a => (a, e.2))) =
        (entries.find? (fun e => !taken.has e.2 && (read e.1).isSome)).bind (fun e => (read e.1).map (fun a => (a, e.2))) := by
    intro entries
    induction entries with
    | nil => rfl
    | cons e rest ih =>
      rw [List.findSome?_cons, List.find?_cons]
      cases hleft : taken.has e.2 with
      | true => exact ih
      | false =>
        cases hread : read e.1 with
        | none => exact ih
        | some a => simp [hread]
  have hline : firstLine lines taken read = (lines.zipIdx.find? (fun e => !taken.has e.2 && (read e.1).isSome)).bind
      (fun e => (read e.1).map (fun a => (a, e.2))) := hfirst lines.zipIdx
  cases hfind : lines.zipIdx.find? (fun e => !taken.has e.2 && (read e.1).isSome) with
  | none => exact .none (by rw [hline, hfind, Option.bind_none]) hfind
  | some e =>
    obtain ⟨line, i⟩ := e
    have hkind := List.find?_some hfind
    obtain ⟨a, ha⟩ := Option.isSome_iff_exists.mp (Bool.and_eq_true_iff.mp hkind).2
    exact .found ha (by rw [hline, hfind, Option.bind_some, ha, Option.map_some]) hfind

lemma extractCustomerRate_takes : (extractCustomerRate lines taken).2.1 = takeFirst lines .customerRate
    (fun line => (rateValue line).isSome) (fun line => ((rateValue line).bind rateNumber).isSome) taken := by
  rw [extractCustomerRate, takeFirst]
  cases first_line lines taken rateValue with
  | none hline hfind => rw [hline, hfind]
  | @found line i value hread hline hfind =>
    rw [hline, hfind]
    simp only [hread, Option.bind_some]
    cases rateNumber value with
    | none => rfl
    | some x => rfl

lemma extractLabeledValue_takes {labelPatterns : List Pattern} {field : LabeledField} :
    (extractLabeledValue lines taken labelPatterns field).2 = takeLabeled lines labelPatterns field taken := by
  rw [extractLabeledValue, takeLabeled, takeFirst]
  cases first_line lines taken (labeledValue labelPatterns) with
  | none hline hfind => rw [hline, hfind]
  | found hread hline hfind =>
    rw [hline, hfind]
    rfl

lemma extractEquipmentType_takes : (extractEquipmentType lines taken).2 = takeFirst lines .equipmentType equipmentLabel.test
    (fun line => (equipmentPatterns.filter (fun e => e.1.test line)).length == 1) taken := by
  unfold extractEquipmentType takeFirst
  cases lines.zipIdx.find? (fun e => !taken.has e.2 && equipmentLabel.test e.1) with
  | none =>
    dsimp only
    split <;> rfl
  | some e =>
    dsimp only
    simp only [List.any_cons, List.any_nil, Bool.or_false]
    split
    next p hkinds => exact (if_pos (by rw [hkinds]; rfl)).symm
    next hkinds =>
      refine (if_neg (fun hlength => ?_)).symm
      obtain ⟨p, hp⟩ := List.length_eq_one_iff.mp (beq_iff_eq.mp hlength)
      exact hkinds p hp

lemma beforeCustomer_takes : (beforeCustomer lines).consumed = takenBeforeCustomer lines := by
  simp only [beforeCustomer, takenBeforeCustomer, extractCustomerRate_takes, extractLabeledValue_takes, extractEquipmentType_takes]

lemma scanBlock_takes {scan : PartyScan} (htrimmed : ∀ e ∈ block, Trimmed e.1.toList) (hindex : (block.map Prod.snd).Nodup)
    (hgiven : ∀ f : PartyField, f.lacking scan = !given.contains f) :
    (scanBlock customerLine block taken scan).2 = takeFields given (readLines taken block) taken := by
  induction block generalizing taken scan given with
  | nil => rfl
  | cons e rest ih =>
    obtain ⟨text, j⟩ := e
    have hnext {taken : Consumed} {scan : PartyScan} {given : List PartyField}
        (hgiven : ∀ f : PartyField, f.lacking scan = !given.contains f) :
        (scanBlock customerLine rest taken scan).2 = takeFields given (readLines taken rest) taken :=
      ih (fun e he => htrimmed e (List.mem_cons_of_mem _ he)) (List.nodup_cons.mp hindex).2 hgiven
    have hrest : ∀ u, readLines ((j, u) :: taken) rest = readLines taken rest := fun u => readLines_later hindex
    rw [scanBlock]
    cases hskip : (taken.has j || decide (text = "")) with
    | true =>
      rw [if_pos rfl, readLines_skip hskip]
      exact hnext hgiven
    | false =>
      rw [if_neg Bool.false_ne_true, readLines_cons hskip]
      cases hmarker : isAnyStopOrSectionMarker text with
      | true => rfl
      | false =>
        rw [if_neg Bool.false_ne_true, if_neg Bool.false_ne_true, takeFields, customerLine]
        have hfield := partyFieldOf_eq hgiven text
        cases hparty : partyLine text scan with
        | none =>
          rw [hparty] at hfield
          rw [hfield]
          exact hnext hgiven
        | some r =>
          obtain ⟨scan', f⟩ := r
          rw [hparty] at hfield
          rw [hfield]
          refine (hnext (partyLine_given (htrimmed _ List.mem_cons_self) ?_ hgiven hparty)).trans ?_
          · simpa using (Bool.or_eq_false_iff.mp hskip).2
          · rw [hrest]
            rfl

lemma zipIdx_index (lines : List String) (searchStart : ℕ) :
    (((lines.zipIdx.drop searchStart).take stopBlockLineWindow).map Prod.snd).Nodup := by
  have hsublist := ((List.take_sublist stopBlockLineWindow _).trans (List.drop_sublist searchStart lines.zipIdx)).map Prod.snd
  refine hsublist.nodup ?_
  rw [List.zipIdx_map_snd]
  exact List.nodup_range'

lemma scanCustomer_takes (htrimmed : ∀ line ∈ lines, Trimmed line.toList) (searchStart : ℕ) (taken : Consumed) :
    (scanBlock customerLine ((lines.zipIdx.drop searchStart).take stopBlockLineWindow) taken {}).2 =
      takeCustomerBlock lines searchStart taken := by
  refine scanBlock_takes (fun e he => ?_) (zipIdx_index lines searchStart) (fun f => by cases f <;> rfl)
  exact htrimmed e.1 (List.fst_mem_of_mem_zipIdx (List.mem_of_mem_drop (List.mem_of_mem_take he)))

lemma readCustomer_takes (htrimmed : ∀ line ∈ lines, Trimmed line.toList) (labelIndex : ℕ) (inlineName : String)
    (taken : Consumed) : (readCustomer lines labelIndex inlineName taken).2 = takeCustomer lines labelIndex inlineName taken := by
  unfold readCustomer customerName takeCustomer
  by_cases hinline : inlineName ≠ ""
  · rw [if_pos hinline, if_pos hinline]
    dsimp only
    rw [if_neg hinline]
    exact scanCustomer_takes htrimmed _ _
  · rw [if_neg hinline, if_neg hinline]
    cases hname : nameLine lines labelIndex with
    | none => rfl
    | some e =>
      obtain ⟨line, i⟩ := e
      have hne : line ≠ "" := by
        have hfind := List.find?_some (Option.filter_eq_some_iff.mp hname).1
        simpa using hfind
      dsimp only
      rw [if_neg hne]
      exact scanCustomer_takes htrimmed _ _

lemma extractHeader_eq_ok (h : extractHeader lines = .ok header) : ∃ customer consumed,
    extractCustomer lines (beforeCustomer lines).consumed = .ok (customer, consumed) ∧
      header = { beforeCustomer lines with customer, consumed } := by
  rw [extractHeader] at h
  cases hcustomer : extractCustomer lines (beforeCustomer lines).consumed with
  | error e =>
    simp only [hcustomer] at h
    cases h
  | ok r =>
    simp only [hcustomer] at h
    exact ⟨r.1, r.2, rfl, (Except.ok.inj h).symm⟩

/-- The header takes its lines by their patterns. -/
lemma extractHeader_takes (htrimmed : ∀ line ∈ lines, Trimmed line.toList) (h : extractHeader lines = .ok header) :
    header.consumed = takenBeforeStops lines := by
  obtain ⟨customer, consumed, hcustomer, rfl⟩ := extractHeader_eq_ok h
  rw [beforeCustomer_takes, extractCustomer] at hcustomer
  rw [takenBeforeStops]
  cases hlabel : customerLabelLine lines (takenBeforeCustomer lines) with
  | none =>
    rw [hlabel] at hcustomer
    exact (Prod.mk.inj (Except.ok.inj hcustomer)).2.symm
  | some r =>
    obtain ⟨m, i⟩ := r
    rw [hlabel] at hcustomer
    dsimp only at hcustomer ⊢
    cases hgroup : m.group 1 with
    | none =>
      rw [hgroup] at hcustomer
      cases hcustomer
    | some inlineName =>
      rw [hgroup] at hcustomer
      have hread := readCustomer_takes htrimmed i (trim inlineName) (takenBeforeCustomer lines)
      rw [Except.ok.inj hcustomer] at hread
      exact hread

end Truckmaster.RateConfirmationExtraction
