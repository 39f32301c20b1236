import Truckmaster.RateConfirmationExtraction.StopReadings

namespace Truckmaster.RateConfirmationExtraction

open Common Patterns

variable {line : String} {lines : List String} {scan : StopScan} {consumed base : Consumed} {i k : ℕ} {use : StopUse}
  {block : List (String × ℕ)} {named : Bool} {given : List PartyField}

def appointmentParts (line : String) : Option DateTimeParts :=
  (appointmentTexts line).bind (fun (date, time, meridiem) => dateTimeParts date time meridiem)

def isRefused (line : String) : Bool := (appointmentTexts line).isSome && (appointmentParts line).isNone

def isAmbiguous (line : String) : Bool :=
  (appointmentTexts line).isNone && appointmentLabel.test line && ambiguousAppointmentPattern.test line

/-- After such a line the appointment is no longer looked for. -/
def settles (line : String) : Bool := (appointmentParts line).isSome || isAmbiguous line

def partyFieldOf (given : List PartyField) (line : String) : Option PartyField :=
  [PartyField.addressLine1, .city, .contactName, .contactPhone].find? (fun f => !given.contains f && (f.read line).isSome)

def readLines (consumed : Consumed) (block : List (String × ℕ)) : List (String × ℕ) :=
  (block.filter (fun e => !(consumed.has e.2 || e.1 = ""))).takeWhile (fun e => !isAnyStopOrSectionMarker e.1)

/-- The lines that give neither the name of the company nor a field that is still lacking. -/
def otherLines : Bool → List PartyField → List (String × ℕ) → List (String × ℕ)
  | _, _, [] => []
  | named, given, e :: rest =>
    if !named && !isStructuredLine e.1 then otherLines true given rest
    else match partyFieldOf given e.1 with
      | some f => otherLines named (f :: given) rest
      | none => e :: otherLines named given rest

def untilSettled : List (String × ℕ) → List (String × ℕ)
  | [] => []
  | e :: rest => e :: if settles e.1 then [] else untilSettled rest

def appointmentLines (lines : List String) (consumed : Consumed) (marker : StopMarkerHit) (rest : List StopMarkerHit) :
    List (String × ℕ) :=
  untilSettled (otherLines marker.companyName.isSome [] (readLines consumed (blockOf lines marker rest)))

/-- What a line on which the appointment is looked for is consumed for. -/
def appointmentUse (line : String) : Option StopUse :=
  match appointmentTexts line with
  | some (date, time, meridiem) =>
    some (if (toNaiveIsoDatetime date time meridiem).isSome then .appointment date time meridiem else .refusedAppointment)
  | none => if appointmentLabel.test line && ambiguousAppointmentPattern.test line then some .ambiguousAppointment else none

def StopUse.isAppointment : StopUse → Bool
  | .companyName => false
  | .field _ => false
  | _ => true

def StopScan.searching (scan : StopScan) : Bool := falsy scan.appointmentDatetime && !scan.appointmentAmbiguous

structure Has (scan : StopScan) (named : Bool) (given : List PartyField) : Prop where
  named : falsy scan.companyName = !named
  given : ∀ f : PartyField, f.lacking scan.toPartyScan = !given.contains f

section Line

lemma appointmentParts_eq_some {p : DateTimeParts} : appointmentParts line = some p ↔ ∃ date time meridiem,
    appointmentTexts line = some (date, time, meridiem) ∧ dateTimeParts date time meridiem = some p := by
  rw [appointmentParts, Option.bind_eq_some_iff]
  constructor
  · rintro ⟨⟨date, time, meridiem⟩, htexts, hparts⟩
    exact ⟨date, time, meridiem, htexts, hparts⟩
  · rintro ⟨date, time, meridiem, htexts, hparts⟩
    exact ⟨(date, time, meridiem), htexts, hparts⟩

lemma appointmentUse_eq_refused : appointmentUse line = some .refusedAppointment ↔ isRefused line = true := by
  rw [appointmentUse, isRefused, appointmentParts]
  cases appointmentTexts line with
  | none => simp
  | some texts =>
    obtain ⟨date, time, meridiem⟩ := texts
    cases hparts : dateTimeParts date time meridiem with
    | none => simp [toNaiveIsoDatetime, hparts]
    | some p => simp [toNaiveIsoDatetime, hparts]

lemma appointmentUse_eq_appointment {date time : String} {meridiem : Option String} :
    appointmentUse line = some (.appointment date time meridiem) ↔ appointmentTexts line = some (date, time, meridiem) ∧
      (dateTimeParts date time meridiem).isSome = true := by
  rw [appointmentUse]
  cases appointmentTexts line with
  | none => simp
  | some texts =>
    obtain ⟨date', time', meridiem'⟩ := texts
    simp only [toNaiveIsoDatetime, Option.isSome_map]
    split_ifs with hparts
    · simp only [Option.some.injEq, StopUse.appointment.injEq, Prod.mk.injEq]
      constructor
      · rintro ⟨rfl, rfl, rfl⟩
        exact ⟨⟨rfl, rfl, rfl⟩, hparts⟩
      · exact fun h => h.1
    · refine iff_of_false (by simp) ?_
      rintro ⟨heq, hsome⟩
      obtain ⟨rfl, rfl, rfl⟩ : date' = date ∧ time' = time ∧ meridiem' = meridiem := by simpa using heq
      exact hparts hsome

lemma partyLine_field (line : String) (scan : PartyScan) : (partyLine line scan).map Prod.snd =
    [PartyField.addressLine1, .city, .contactName, .contactPhone].find? (fun f => f.lacking scan && (f.read line).isSome) := by
  simp only [partyLine, PartyField.lacking, PartyField.values, PartyField.read, List.headD_cons, List.find?_cons,
    List.find?_nil]
  cases falsy scan.addressLine1 <;> cases streetAddressPattern.test line <;> cases falsy scan.city <;>
    cases cityStateZipPattern.exec line <;> cases falsy scan.contactName <;> cases contactNamePattern.exec line <;>
    cases falsy scan.contactPhone <;> cases phonePattern.exec line <;> rfl

lemma partyFieldOf_eq {party : PartyScan} (hgiven : ∀ f : PartyField, f.lacking party = !given.contains f) (line : String) :
    partyFieldOf given line = (partyLine line party).map Prod.snd := by
  rw [partyLine_field, partyFieldOf]
  simp only [hgiven]

lemma partyLine_given {party party' : PartyScan} {f : PartyField} (htrimmed : Trimmed line.toList) (hne : line ≠ "")
    (hgiven : ∀ f : PartyField, f.lacking party = !given.contains f) (h : partyLine line party = some (party', f))
    (g : PartyField) : g.lacking party' = !(f :: given).contains g := by
  have hfills := partyLine_fills h
  rw [List.contains_cons]
  by_cases hg : g = f
  · subst hg
    rw [beq_self_eq_true, Bool.true_or]
    exact PartyField.read_head htrimmed hne hfills.read
  · rw [beq_false_of_ne hg, Bool.false_or, ← hgiven g]
    exact congrArg (fun values => falsy (values.headD none)) (hfills.others g hg)

inductive Searched (line : String) (scan : StopScan) : Option (StopScan × StopUse) → Prop
  | nothing (huse : appointmentUse line = none) (hopen : settles line = false) : Searched line scan none
  | found {scan' : StopScan} {use : StopUse} (huse : appointmentUse line = some use)
      (hhas : ∀ named given, Has scan named given → Has scan' named given) (hopen : scan'.searching = !settles line) :
      Searched line scan (some (scan', use))

lemma appointmentLine_searched (h : scan.searching = true) : Searched line scan (appointmentLine line scan) := by
  obtain ⟨hlacking, hplain⟩ := Bool.and_eq_true_iff.mp h
  rw [appointmentLine]
  cases hexec : appointmentDatetimePattern.exec line with
  | some m =>
    have htexts : appointmentTexts line = some ((m.group 1).getD "", (m.group 2).getD "", m.group 3) := by
      rw [appointmentTexts, hexec, Option.map_some]
    refine .found (by rw [appointmentUse, htexts]) (fun named given hhas => ⟨hhas.named, hhas.given⟩) ?_
    have hunambiguous : isAmbiguous line = false := by rw [isAmbiguous, htexts]; rfl
    rw [settles, hunambiguous, Bool.or_false, appointmentParts, htexts, Option.bind_some, StopScan.searching, hplain,
      Bool.and_true, toNaiveIsoDatetime]
    dsimp only
    cases dateTimeParts ((m.group 1).getD "") ((m.group 2).getD "") (m.group 3) with
    | none => rfl
    | some p => exact falsy_some p.text_ne_empty
  | none =>
    have htexts : appointmentTexts line = none := by rw [appointmentTexts, hexec, Option.map_none]
    have hsettles : settles line = (appointmentLabel.test line && ambiguousAppointmentPattern.test line) := by
      rw [settles, appointmentParts, isAmbiguous, htexts]
      rfl
    dsimp only
    split_ifs with hambiguous
    · refine .found (by rw [appointmentUse, htexts]; exact if_pos hambiguous) (fun named given hhas => ⟨hhas.named, hhas.given⟩) ?_
      rw [hsettles, hambiguous, StopScan.searching, Bool.not_true, Bool.and_false]
    · exact .nothing (by rw [appointmentUse, htexts]; exact if_neg hambiguous) (hsettles.trans (Bool.eq_false_iff.mpr hambiguous))

inductive Taken (line : String) (scan : StopScan) (named : Bool) (given : List PartyField) : Option (StopScan × StopUse) → Prop
  | company {scan' : StopScan} (hline : (!named && !isStructuredLine line) = true) (hhas : Has scan' true given)
      (hopen : scan'.searching = scan.searching) : Taken line scan named given (some (scan', .companyName))
  | field {scan' : StopScan} {f : PartyField} (hline : (!named && !isStructuredLine line) = false)
      (hfield : partyFieldOf given line = some f) (hhas : Has scan' named (f :: given))
      (hopen : scan'.searching = scan.searching) : Taken line scan named given (some (scan', .field f))
  | other (hline : (!named && !isStructuredLine line) = false) (hfield : partyFieldOf given line = none) :
      Taken line scan named given (if scan.searching then appointmentLine line scan else none)

lemma readStopLine_taken (htrimmed : Trimmed line.toList) (hne : line ≠ "") (hhas : Has scan named given) :
    Taken line scan named given (readStopLine line scan) := by
  rw [readStopLine, hhas.named]
  cases hline : !named && !isStructuredLine line with
  | true => exact .company hline ⟨falsy_some hne, hhas.given⟩ rfl
  | false =>
    have hfield := partyFieldOf_eq hhas.given line
    cases hparty : partyLine line scan.toPartyScan with
    | none =>
      rw [hparty] at hfield
      exact .other hline hfield
    | some r =>
      obtain ⟨party, f⟩ := r
      rw [hparty] at hfield
      exact .field hline hfield ⟨hhas.named, partyLine_given htrimmed hne hhas.given hparty⟩ rfl

end Line

section Block

lemma readLines_congr {before after : Consumed} (h : ∀ e ∈ block, before.has e.2 = after.has e.2) :
    readLines before block = readLines after block := by
  rw [readLines, readLines, List.filter_congr (fun e he => by rw [h e he])]

lemma readLines_later {u : Use} {e : String × ℕ} (h : ((e :: block).map Prod.snd).Nodup) :
    readLines ((e.2, u) :: consumed) block = readLines consumed block := by
  refine readLines_congr (fun e' he' => ?_)
  have hne : (e.2 == e'.2) = false := by
    refine beq_false_of_ne (fun heq => (List.nodup_cons.mp h).1 ?_)
    exact List.mem_map.mpr ⟨e', he', heq.symm⟩
  rw [Consumed.has, List.any_cons, hne, Bool.false_or]
  rfl

lemma readLines_skip {e : String × ℕ} (h : (consumed.has e.2 || e.1 = "") = true) :
    readLines consumed (e :: block) = readLines consumed block := by
  rw [readLines, List.filter_cons_of_neg (by simp [h]), readLines]

lemma readLines_cons {e : String × ℕ} (h : (consumed.has e.2 || e.1 = "") = false) : readLines consumed (e :: block) =
    if isAnyStopOrSectionMarker e.1 then [] else e :: readLines consumed block := by
  rw [readLines, List.filter_cons_of_pos (by simp [h]), List.takeWhile_cons]
  cases isAnyStopOrSectionMarker e.1 <;> rfl

lemma untilSettled_cons (e : String × ℕ) (rest : List (String × ℕ)) :
    (∃ line, (line, i) ∈ untilSettled (e :: rest) ∧ appointmentUse line = some use) ↔ (i = e.2 ∧ appointmentUse e.1 = some use) ∨
      (!settles e.1) = true ∧ ∃ line, (line, i) ∈ untilSettled rest ∧ appointmentUse line = some use := by
  obtain ⟨text, j⟩ := e
  rw [untilSettled]
  constructor
  · rintro ⟨line, hmem, hline⟩
    rcases List.mem_cons.mp hmem with heq | hmem
    · obtain ⟨rfl, rfl⟩ := Prod.mk.inj heq
      exact .inl ⟨rfl, hline⟩
    · split_ifs at hmem with hsettles
      · cases hmem
      · exact .inr ⟨by simp [hsettles], line, hmem, hline⟩
  · rintro (⟨rfl, hline⟩ | ⟨hopen, line, hmem, hline⟩)
    · exact ⟨text, List.mem_cons_self, hline⟩
    · refine ⟨line, List.mem_cons_of_mem _ ?_, hline⟩
      rwa [if_neg (by simpa using hopen)]

lemma scanBlock_appointments (htrimmed : ∀ e ∈ block, Trimmed e.1.toList) (hindex : (block.map Prod.snd).Nodup)
    (hhas : Has scan named given) (huse : use.isAppointment = true) :
    (i, .stopLine k use) ∈ (scanBlock (stopLine k) block consumed scan).2 ↔ (i, .stopLine k use) ∈ consumed ∨
      scan.searching = true ∧ ∃ line, (line, i) ∈ untilSettled (otherLines named given (readLines consumed block)) ∧
        appointmentUse line = some use := by
  induction block generalizing consumed scan named given with
  | nil => simp [scanBlock, readLines, otherLines, untilSettled]
  | cons e rest ih =>
    obtain ⟨text, j⟩ := e
    have hnext {consumed scan named given} (hhas : Has scan named given) :
        (i, .stopLine k use) ∈ (scanBlock (stopLine k) rest consumed scan).2 ↔ (i, .stopLine k use) ∈ consumed ∨
          scan.searching = true ∧ ∃ line, (line, i) ∈ untilSettled (otherLines named given (readLines consumed rest)) ∧
            appointmentUse line = some use :=
      ih (fun e he => htrimmed e (List.mem_cons_of_mem _ he)) (List.nodup_cons.mp hindex).2 hhas
    have hrest : ∀ u, readLines ((j, u) :: consumed) rest = readLines consumed rest := fun u => readLines_later hindex
    rw [scanBlock]
    cases hskip : (consumed.has j || decide (text = "")) with
    | true =>
      rw [if_pos rfl, readLines_skip hskip]
      exact hnext hhas
    | false =>
      rw [if_neg Bool.false_ne_true, readLines_cons hskip]
      cases hmarker : isAnyStopOrSectionMarker text with
      | true => simp [otherLines, untilSettled]
      | false =>
        rw [if_neg Bool.false_ne_true, if_neg Bool.false_ne_true, stopLine]
        have htaken := readStopLine_taken (htrimmed _ List.mem_cons_self) (by simpa using (Bool.or_eq_false_iff.mp hskip).2) hhas
        have hadd : ∀ {use' : StopUse} {P : Prop}, ((i, Use.stopLine k use) ∈ (j, .stopLine k use') :: consumed ∨ P) ↔
            (i, Use.stopLine k use) ∈ consumed ∨ (i = j ∧ use = use') ∨ P := by
          intro use' P
          rw [List.mem_cons, Prod.mk.injEq, Use.stopLine.injEq, or_comm (a := i = j ∧ _), or_assoc]
          simp only [true_and]
        have hskipped : ∀ {use' : StopUse}, use'.isAppointment = false → ¬(i = j ∧ use = use') := by
          rintro use' hother ⟨_, rfl⟩
          exact Bool.false_ne_true (hother.symm.trans huse)
        generalize readStopLine text scan = r at htaken
        cases htaken with
        | company hline hhas' hopen =>
          rw [otherLines, if_pos hline, ← hopen]
          refine (hnext hhas').trans ?_
          rw [hrest, hadd, or_iff_right (hskipped rfl)]
        | field hline hfield hhas' hopen =>
          rw [otherLines, if_neg (Bool.eq_false_iff.mp hline), hfield, ← hopen]
          refine (hnext hhas').trans ?_
          rw [hrest, hadd, or_iff_right (hskipped rfl)]
        | other hline hfield =>
          rw [otherLines, if_neg (Bool.eq_false_iff.mp hline), hfield]
          cases hsearching : scan.searching with
          | false =>
            rw [if_neg Bool.false_ne_true]
            refine (hnext hhas).trans (or_congr_right ?_)
            rw [hsearching]
            exact iff_of_false (fun h => Bool.false_ne_true h.1) (fun h => Bool.false_ne_true h.1)
          | true =>
            rw [if_pos rfl, and_iff_right rfl, untilSettled_cons]
            have hsearched : Searched text scan (appointmentLine text scan) := appointmentLine_searched hsearching
            generalize appointmentLine text scan = r at hsearched
            cases hsearched with
            | nothing hnone hopen =>
              refine (hnext hhas).trans (or_congr_right ?_)
              rw [hsearching, hnone, hopen]
              simp
            | @found scan' use' hsome hhas' hopen =>
              refine (hnext (hhas' _ _ hhas)).trans ?_
              rw [hrest, hadd, hopen, hsome, Option.some_inj, eq_comm (a := use)]

lemma mem_of_mem_otherLines {e : String × ℕ} (h : e ∈ otherLines named given block) : e ∈ block := by
  induction block generalizing named given with
  | nil => cases h
  | cons first rest ih =>
    rw [otherLines] at h
    split_ifs at h
    · exact List.mem_cons_of_mem _ (ih h)
    · split at h
      · exact List.mem_cons_of_mem _ (ih h)
      · rcases List.mem_cons.mp h with rfl | h
        · exact List.mem_cons_self
        · exact List.mem_cons_of_mem _ (ih h)

lemma mem_of_mem_untilSettled {e : String × ℕ} (h : e ∈ untilSettled block) : e ∈ block := by
  induction block with
  | nil => cases h
  | cons first rest ih =>
    rcases List.mem_cons.mp h with rfl | h
    · exact List.mem_cons_self
    · split_ifs at h
      · cases h
      · exact List.mem_cons_of_mem _ (ih h)

lemma at_of_mem_appointmentLines {marker : StopMarkerHit} {rest : List StopMarkerHit}
    (h : (line, i) ∈ appointmentLines lines consumed marker rest) : lines[i]? = some line := by
  have hread := mem_of_mem_otherLines (mem_of_mem_untilSettled h)
  exact (mem_blockOf (List.mem_of_mem_filter ((List.takeWhile_prefix _).subset hread))).1

end Block

section Stops

lemma findStopMarkers_sorted (lines : List String) (consumed : Consumed) :
    (findStopMarkers lines consumed).Pairwise (fun m m' => m.lineIndex < m'.lineIndex) := by
  have hsorted : lines.zipIdx.Pairwise (fun e e' => e.2 < e'.2) := by
    rw [← List.pairwise_map, List.zipIdx_map_snd]
    exact List.pairwise_lt_range'
  refine (List.Pairwise.and_mem.mp hsorted).filterMap _ ?_
  rintro ⟨line, i⟩ ⟨line', i'⟩ ⟨hmem, hmem', hlt⟩ m hm m' hm'
  obtain ⟨hi, _⟩ := foundAt_of_read hmem hm
  obtain ⟨hi', _⟩ := foundAt_of_read hmem' hm'
  exact hi ▸ hi' ▸ hlt

lemma blockLimit_le {m : StopMarkerHit} {rest : List StopMarkerHit}
    (hsorted : rest.Pairwise (fun m m' => m.lineIndex < m'.lineIndex)) (hm : m ∈ rest) :
    blockLimit lines rest ≤ m.lineIndex := by
  cases rest with
  | nil => cases hm
  | cons first rest =>
    rcases List.mem_cons.mp hm with rfl | hm
    · exact le_rfl
    · exact (List.rel_of_pairwise_cons hsorted hm).le

lemma blockOf_index (lines : List String) (marker : StopMarkerHit) (rest : List StopMarkerHit) :
    ((blockOf lines marker rest).map Prod.snd).Nodup := by
  have hsublist := (((List.drop_sublist (marker.lineIndex + 1) _).trans (List.take_sublist (min (blockLimit lines rest)
    (marker.lineIndex + 1 + stopBlockLineWindow)) lines.zipIdx)).map Prod.snd)
  refine hsublist.nodup ?_
  rw [List.zipIdx_map_snd]
  exact List.nodup_range'

lemma extractStops_appointments (htrimmed : ∀ line ∈ lines, Trimmed line.toList) {markers : List StopMarkerHit}
    {before : Consumed} (hmarkers : ∀ marker ∈ markers, ∃ line, FoundAt lines marker line)
    (hsorted : markers.Pairwise (fun m m' => m.lineIndex < m'.lineIndex)) (hlater : ∀ j ≥ k, before.ofStop j = [])
    (hsingle : Single lines before) (hbase : ∀ marker ∈ markers, ∀ i > marker.lineIndex, before.has i = base.has i)
    (huse : use.isAppointment = true) {n : ℕ} {marker : StopMarkerHit} {rest : List StopMarkerHit}
    (hdrop : markers.drop n = marker :: rest) :
    (i, .stopLine (k + n) use) ∈ (extractStops lines k markers before).2.1 ↔
      ∃ line, (line, i) ∈ appointmentLines lines base marker rest ∧ appointmentUse line = some use := by
  induction markers generalizing k before n with
  | nil =>
    rw [List.drop_nil] at hdrop
    cases hdrop
  | cons first markers ih =>
    obtain ⟨text, hmarker⟩ := hmarkers first List.mem_cons_self
    have hblock := scanStop htrimmed markers hmarker (hlater k le_rfl) hsingle
    set middle := (scanBlock (stopLine k) (blockOf lines first markers) ((first.lineIndex, .stopMarker k) :: before)
      { companyName := first.companyName }).2 with hmiddle
    have hothers : ∀ j ≥ k + 1, middle.ofStop j = [] := by
      intro j hj
      rw [hblock.others j (by omega), Consumed.ofStop_skip rfl]
      exact hlater j (by omega)
    have hmarkers' : ∀ marker ∈ markers, ∃ line, FoundAt lines marker line := fun m hm => hmarkers m (List.mem_cons_of_mem _ hm)
    cases n with
    | zero =>
      obtain ⟨rfl, rfl⟩ := List.cons.inj hdrop
      have hafter := (extractStops_reads htrimmed hmarkers' hothers hblock.single).others k (Nat.lt_succ_self k)
      have hnone : (i, .stopLine k use) ∉ (first.lineIndex, .stopMarker k) :: before := by
        intro hmem
        have hentry := Consumed.mem_ofStop.mpr hmem
        rw [Consumed.ofStop_skip rfl, hlater k le_rfl] at hentry
        cases hentry
      have hread : readLines ((first.lineIndex, .stopMarker k) :: before) (blockOf lines first markers) =
          readLines base (blockOf lines first markers) := by
        refine readLines_congr (fun e he => ?_)
        obtain ⟨_, hlow, _⟩ := mem_blockOf he
        rw [← hbase first List.mem_cons_self e.2 hlow, Consumed.has, List.any_cons, beq_false_of_ne hlow.ne, Bool.false_or]
        rfl
      have hhas : Has { companyName := first.companyName } first.companyName.isSome [] := by
        refine ⟨?_, fun f => by cases f <;> rfl⟩
        rw [StopMarkerHit.companyName]
        split_ifs with hinline
        · rfl
        · exact falsy_some hinline
      have htexts : ∀ e ∈ blockOf lines first markers, Trimmed e.1.toList :=
        fun e he => htrimmed e.1 (List.mem_of_getElem? (mem_blockOf he).1)
      rw [Nat.add_zero, ← Consumed.mem_ofStop, extractStops, hafter, Consumed.mem_ofStop, hmiddle,
        scanBlock_appointments htexts (blockOf_index lines first markers) hhas huse, or_iff_right hnone, hread, appointmentLines]
      exact and_iff_right rfl
    | succ n =>
      have hbase' : ∀ marker ∈ markers, ∀ i > marker.lineIndex, middle.has i = base.has i := by
        intro m hm i hi
        have hfirst := List.rel_of_pairwise_cons hsorted hm
        have hlimit : blockLimit lines markers ≤ m.lineIndex := blockLimit_le (List.pairwise_cons.mp hsorted).2 hm
        rw [← hbase first List.mem_cons_self i (hfirst.trans hi), Bool.eq_iff_iff, Consumed.has_iff, Consumed.has_iff]
        constructor
        · rintro ⟨u, hu⟩
          rcases hblock.added i u hu with hu | ⟨use', rfl⟩
          · rcases List.mem_cons.mp hu with heq | hu
            · obtain ⟨rfl, _⟩ := Prod.mk.inj heq
              omega
            · exact ⟨u, hu⟩
          · obtain ⟨_, hline, _⟩ := hblock.filled.fits i use' (Consumed.mem_ofStop.mpr hu)
            have hhigh := hline.before
            omega
        · rintro ⟨u, hu⟩
          exact ⟨u, hblock.grows _ (List.mem_cons_of_mem _ hu)⟩
      rw [show k + (n + 1) = k + 1 + n by omega]
      exact ih hmarkers' (List.pairwise_cons.mp hsorted).2 hothers hblock.single hbase' hdrop

end Stops

end Truckmaster.RateConfirmationExtraction
