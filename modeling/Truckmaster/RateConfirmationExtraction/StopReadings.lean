import Truckmaster.RateConfirmationExtraction.LineReadings

namespace Truckmaster.RateConfirmationExtraction

open Common Patterns

def appointmentTexts (line : String) : Option (String × String × Option String) :=
  (appointmentDatetimePattern.exec line).map (fun m => ((m.group 1).getD "", (m.group 2).getD "", m.group 3))

variable {line : String} {lines : List String} {scan scan' : StopScan} {consumed : Consumed} {i j k low high : ℕ}
  {use : StopUse} {inline : Option String} {entries : List (ℕ × StopUse)}

inductive Takes (line : String) (scan : StopScan) : StopScan → StopUse → Prop
  | companyName (hlacking : falsy scan.companyName = true) : Takes line scan { scan with companyName := some line } .companyName
  | field {f : PartyField} {party : PartyScan} (hfills : f.Fills line scan.toPartyScan party) :
      Takes line scan { scan with toPartyScan := party } (.field f)
  | appointment {date time : String} {meridiem : Option String} {s : String} (hlacking : falsy scan.appointmentDatetime = true)
      (hplain : scan.appointmentAmbiguous = false) (htexts : appointmentTexts line = some (date, time, meridiem))
      (hs : toNaiveIsoDatetime date time meridiem = some s) :
      Takes line scan { scan with appointmentDatetime := some s } (.appointment date time meridiem)
  | refused {date time : String} {meridiem : Option String} (hlacking : falsy scan.appointmentDatetime = true)
      (hplain : scan.appointmentAmbiguous = false) (htexts : appointmentTexts line = some (date, time, meridiem))
      (hs : toNaiveIsoDatetime date time meridiem = none) :
      Takes line scan { scan with appointmentDatetime := none } .refusedAppointment
  | ambiguous (hlacking : falsy scan.appointmentDatetime = true) (hplain : scan.appointmentAmbiguous = false) :
      Takes line scan { scan with appointmentAmbiguous := true } .ambiguousAppointment

lemma appointmentLine_takes (hlacking : falsy scan.appointmentDatetime = true) (hplain : scan.appointmentAmbiguous = false)
    (h : appointmentLine line scan = some (scan', use)) : Takes line scan scan' use := by
  rw [appointmentLine] at h
  split at h
  case h_1 m hm =>
    have htexts : appointmentTexts line = some ((m.group 1).getD "", (m.group 2).getD "", m.group 3) := by
      rw [appointmentTexts, hm, Option.map_some]
    obtain ⟨rfl, rfl⟩ := Prod.mk.inj (Option.some.inj h)
    cases hs : toNaiveIsoDatetime ((m.group 1).getD "") ((m.group 2).getD "") (m.group 3) with
    | none => exact .refused hlacking hplain htexts hs
    | some s => exact .appointment hlacking hplain htexts hs
  case h_2 =>
    obtain ⟨_, h⟩ := Option.ite_none_right_eq_some.mp h
    obtain ⟨rfl, rfl⟩ := Prod.mk.inj (Option.some.inj h)
    exact .ambiguous hlacking hplain

lemma readStopLine_takes (h : readStopLine line scan = some (scan', use)) : Takes line scan scan' use := by
  simp only [readStopLine, Option.orElse_eq_some, Option.ite_none_right_eq_some, Option.map_eq_some_iff, Option.some.injEq,
    Prod.mk.injEq, Bool.and_eq_true, Bool.not_eq_true'] at h
  rcases h with ⟨⟨hlacking, _⟩, rfl, rfl⟩ | ⟨_, ⟨⟨party, f⟩, hparty, rfl, rfl⟩ | ⟨_, ⟨hlacking, hplain⟩, h⟩⟩
  · exact .companyName hlacking
  · exact .field (partyLine_fills hparty)
  · exact appointmentLine_takes hlacking hplain h

structure BlockLine (lines : List String) (low high i : ℕ) (line : String) : Prop where
  at_line : lines[i]? = some line
  after : low < i
  before : i < high
  ne_empty : line ≠ ""
  unmarked : isAnyStopOrSectionMarker line = false

def StopUse.Fits (line : String) (scan : StopScan) : StopUse → Prop
  | .companyName => scan.companyName = some line
  | .field f => f.read line = some (f.values scan.toPartyScan)
  | .appointment date time meridiem => appointmentTexts line = some (date, time, meridiem) ∧
      ∃ s, toNaiveIsoDatetime date time meridiem = some s ∧ scan.appointmentDatetime = some s
  | .refusedAppointment => ∃ date time meridiem, appointmentTexts line = some (date, time, meridiem) ∧
      toNaiveIsoDatetime date time meridiem = none
  | .ambiguousAppointment => scan.appointmentAmbiguous = true

/-- A stop has nothing but what it has read in its block and what stands beside the marker. -/
structure Filled (lines : List String) (low high : ℕ) (inline : Option String) (scan : StopScan)
    (entries : List (ℕ × StopUse)) : Prop where
  fits : ∀ i use, (i, use) ∈ entries → ∃ line, BlockLine lines low high i line ∧ use.Fits line scan
  companyName : scan.companyName = inline ∨ ∃ i, (i, .companyName) ∈ entries
  fields : ∀ f : PartyField, f.values scan.toPartyScan = f.values {} ∨ ∃ i, (i, .field f) ∈ entries
  appointment : ∀ s ∈ scan.appointmentDatetime, s ≠ "" ∧ ∃ i date time meridiem, (i, .appointment date time meridiem) ∈ entries
  plain : scan.appointmentAmbiguous = true → scan.appointmentDatetime = none

lemma DateTimeParts.text_ne_empty (p : DateTimeParts) : p.text ≠ "" := by
  intro hempty
  have htext := (String.ofList_eq_empty_iff).mp hempty
  simp at htext

lemma Filled.start (lines : List String) (low high : ℕ) (inline : Option String) :
    Filled lines low high inline { companyName := inline } [] :=
  ⟨nofun, .inl rfl, fun _ => .inl rfl, nofun, nofun⟩

lemma Filled.lacks (h : Filled lines low high inline scan entries) (hlacking : falsy scan.appointmentDatetime = true) :
    scan.appointmentDatetime = none := by
  cases hs : scan.appointmentDatetime with
  | none => rfl
  | some s =>
    rw [hs, falsy_some (h.appointment s hs).1] at hlacking
    cases hlacking

lemma StopUse.Fits.kept {earlier : String} {use' : StopUse} (htrimmed : Trimmed earlier.toList) (hne : earlier ≠ "")
    (h : use.Fits earlier scan) (htakes : Takes line scan scan' use') : use.Fits earlier scan' := by
  have habsent : ∀ {o : Option String} {s : String}, o = some s → s ≠ "" → falsy o = true → False := by
    rintro o s rfl hs hlacking
    rw [falsy_some hs] at hlacking
    cases hlacking
  cases use with
  | companyName =>
    cases htakes with
    | companyName hlacking => exact (habsent h hne hlacking).elim
    | _ => exact h
  | field f =>
    cases htakes with
    | @field g party hfills =>
      by_cases hfg : f = g
      · subst hfg
        exact absurd hfills.lacking (by rw [PartyField.lacking, PartyField.read_head htrimmed hne h]; decide)
      · exact h.trans (congrArg some (hfills.others f hfg).symm)
    | _ => exact h
  | appointment date time meridiem =>
    obtain ⟨htexts, s, hs, hscan⟩ := h
    have hfilled : s ≠ "" := by
      obtain ⟨p, _, rfl⟩ := Option.map_eq_some_iff.mp hs
      exact p.text_ne_empty
    cases htakes with
    | companyName => exact ⟨htexts, s, hs, hscan⟩
    | field => exact ⟨htexts, s, hs, hscan⟩
    | appointment hlacking => exact (habsent hscan hfilled hlacking).elim
    | refused hlacking => exact (habsent hscan hfilled hlacking).elim
    | ambiguous hlacking => exact (habsent hscan hfilled hlacking).elim
  | refusedAppointment => exact h
  | ambiguousAppointment =>
    cases htakes with
    | ambiguous => rfl
    | _ => exact h

lemma Takes.fits (h : Takes line scan scan' use) : use.Fits line scan' := by
  cases h with
  | companyName => rfl
  | field hfills => exact hfills.read
  | appointment _ _ htexts hs => exact ⟨htexts, _, hs, rfl⟩
  | refused _ _ htexts hs => exact ⟨_, _, _, htexts, hs⟩
  | ambiguous => rfl

lemma Filled.takes (htrimmed : ∀ line ∈ lines, Trimmed line.toList) (h : Filled lines low high inline scan entries)
    (hline : BlockLine lines low high i line) (htakes : Takes line scan scan' use) :
    Filled lines low high inline scan' ((i, use) :: entries) := by
  have hfits : ∀ j use', (j, use') ∈ (i, use) :: entries → ∃ l, BlockLine lines low high j l ∧ use'.Fits l scan' := by
    intro j use' hmem
    rcases List.mem_cons.mp hmem with heq | hmem
    · obtain ⟨rfl, rfl⟩ := Prod.mk.inj heq
      exact ⟨line, hline, htakes.fits⟩
    · obtain ⟨l, hl, hold⟩ := h.fits j use' hmem
      exact ⟨l, hl, hold.kept (htrimmed l (List.mem_of_getElem? hl.at_line)) hl.ne_empty htakes⟩
  have hlater : ∀ {use' : StopUse}, (∃ j, (j, use') ∈ entries) → ∃ j, (j, use') ∈ (i, use) :: entries :=
    fun ⟨j, hj⟩ => ⟨j, List.mem_cons_of_mem _ hj⟩
  have hfields : ∀ f : PartyField, f.values scan.toPartyScan = f.values {} ∨ ∃ j, (j, StopUse.field f) ∈ (i, use) :: entries :=
    fun f => (h.fields f).imp_right hlater
  have happointment : ∀ s ∈ scan.appointmentDatetime, s ≠ "" ∧ ∃ j date time meridiem,
      (j, StopUse.appointment date time meridiem) ∈ (i, use) :: entries := by
    intro s hs
    obtain ⟨hne, j, date, time, meridiem, hj⟩ := h.appointment s hs
    exact ⟨hne, j, date, time, meridiem, List.mem_cons_of_mem _ hj⟩
  cases htakes with
  | companyName => exact ⟨hfits, .inr ⟨i, List.mem_cons_self⟩, hfields, happointment, h.plain⟩
  | @field f party hfills =>
    refine ⟨hfits, h.companyName.imp_right hlater, fun g => ?_, happointment, h.plain⟩
    by_cases hg : g = f
    · exact .inr ⟨i, hg ▸ List.mem_cons_self⟩
    · exact (hfields g).imp_left (fun hnone => (hfills.others g hg).trans hnone)
  | @appointment date time meridiem s _ hplain _ hs =>
    refine ⟨hfits, h.companyName.imp_right hlater, hfields, fun s' hs' => ?_, fun hambiguous => ?_⟩
    · obtain ⟨p, _, rfl⟩ := Option.map_eq_some_iff.mp hs
      obtain rfl := Option.some.inj hs'
      exact ⟨p.text_ne_empty, i, date, time, meridiem, List.mem_cons_self⟩
    · exact absurd hambiguous (by simp [hplain])
  | refused => exact ⟨hfits, h.companyName.imp_right hlater, hfields, nofun, fun _ => rfl⟩
  | ambiguous hlacking => exact ⟨hfits, h.companyName.imp_right hlater, hfields, happointment, fun _ => h.lacks hlacking⟩

def Use.ofStop (k : ℕ) : Use → Option StopUse
  | .stopLine j use => if j = k then some use else none
  | _ => none

def Consumed.ofStop (consumed : Consumed) (k : ℕ) : List (ℕ × StopUse) :=
  consumed.filterMap (fun e => (e.2.ofStop k).map (fun use => (e.1, use)))

lemma Use.ofStop_eq_some {u : Use} : u.ofStop k = some use ↔ u = .stopLine k use := by
  cases u with
  | stopLine j use' =>
    rw [Use.ofStop]
    split_ifs with hj
    · simp [hj]
    · simp [hj]
  | _ => simp [Use.ofStop]

lemma Consumed.mem_ofStop : (i, use) ∈ consumed.ofStop k ↔ (i, .stopLine k use) ∈ consumed := by
  rw [Consumed.ofStop, List.mem_filterMap]
  constructor
  · rintro ⟨⟨j, u⟩, hmem, h⟩
    obtain ⟨use', huse, heq⟩ := Option.map_eq_some_iff.mp h
    obtain ⟨rfl, rfl⟩ := Prod.mk.inj heq
    exact Use.ofStop_eq_some.mp huse ▸ hmem
  · intro hmem
    exact ⟨(i, .stopLine k use), hmem, Option.map_eq_some_iff.mpr ⟨use, Use.ofStop_eq_some.mpr rfl, rfl⟩⟩

lemma Consumed.ofStop_line : Consumed.ofStop ((i, .stopLine k use) :: consumed) k = (i, use) :: consumed.ofStop k := by
  rw [Consumed.ofStop, List.filterMap_cons_some (by rw [Use.ofStop_eq_some.mpr rfl]; rfl)]
  rfl

lemma Consumed.ofStop_skip {u : Use} (hu : u.ofStop k = none) :
    Consumed.ofStop ((i, u) :: consumed) k = consumed.ofStop k := by
  rw [Consumed.ofStop, List.filterMap_cons_none (by rw [hu]; rfl)]
  rfl

lemma Consumed.has_iff : consumed.has i = true ↔ ∃ u, (i, u) ∈ consumed := by
  rw [Consumed.has, List.any_eq_true]
  constructor
  · rintro ⟨⟨j, u⟩, hmem, hj⟩
    exact ⟨u, beq_iff_eq.mp hj ▸ hmem⟩
  · rintro ⟨u, hmem⟩
    exact ⟨(i, u), hmem, beq_self_eq_true i⟩

def Single (lines : List String) (consumed : Consumed) : Prop :=
  ∀ i k use, (i, .stopLine k use) ∈ consumed → (∀ u, (i, u) ∈ consumed → u = .stopLine k use) ∧
    ∃ line, lines[i]? = some line ∧ isAnyStopOrSectionMarker line = false

lemma Single.cons_line (h : Single lines consumed) (hat : lines[i]? = some line) (hoffered : Offered consumed line i) :
    Single lines ((i, .stopLine k use) :: consumed) := by
  have hnew : ∀ u, (i, u) ∉ consumed := by
    intro u hmem
    exact Bool.eq_false_iff.mp hoffered.left (Consumed.has_iff.mpr ⟨u, hmem⟩)
  intro j l use' hmem
  rcases List.mem_cons.mp hmem with heq | hmem
  · obtain ⟨rfl, hu⟩ := Prod.mk.inj heq
    refine ⟨fun u hu' => ?_, line, hat, hoffered.unmarked⟩
    rcases List.mem_cons.mp hu' with heq | hu'
    · exact (Prod.mk.inj heq).2.trans hu.symm
    · exact absurd hu' (hnew u)
  · obtain ⟨hall, hline⟩ := h j l use' hmem
    refine ⟨fun u hu' => ?_, hline⟩
    rcases List.mem_cons.mp hu' with heq | hu'
    · exact absurd ((Prod.mk.inj heq).1 ▸ hmem) (hnew _)
    · exact hall u hu'

lemma Single.cons_marker {marker : String} (h : Single lines consumed) (hat : lines[i]? = some marker)
    (hmarker : isAnyStopOrSectionMarker marker = true) : Single lines ((i, .stopMarker k) :: consumed) := by
  intro j l use' hmem
  rcases List.mem_cons.mp hmem with heq | hmem
  · exact Use.noConfusion (Prod.mk.inj heq).2
  · obtain ⟨hall, line, hline, hunmarked⟩ := h j l use' hmem
    refine ⟨fun u hu' => ?_, line, hline, hunmarked⟩
    rcases List.mem_cons.mp hu' with heq | hu'
    · obtain rfl := (Prod.mk.inj heq).1
      obtain rfl := Option.some.inj (hat.symm.trans hline)
      exact absurd hmarker (by simp [hunmarked])
    · exact hall u hu'

structure BlockRead (lines : List String) (low high k : ℕ) (inline : Option String) (before : Consumed) (scan : StopScan)
    (after : Consumed) : Prop where
  filled : Filled lines low high inline scan (after.ofStop k)
  others : ∀ j ≠ k, after.ofStop j = before.ofStop j
  added : ∀ i u, (i, u) ∈ after → (i, u) ∈ before ∨ ∃ use, u = .stopLine k use
  grows : ∀ e ∈ before, e ∈ after
  single : Single lines after

lemma BlockRead.cons_line {before after : Consumed} (htrimmed : ∀ line ∈ lines, Trimmed line.toList)
    (h : BlockRead lines low high k inline before scan after) (hat : lines[i]? = some line) (hlow : low < i) (hhigh : i < high)
    (hoffered : Offered after line i) (htakes : Takes line scan scan' use) :
    BlockRead lines low high k inline before scan' ((i, .stopLine k use) :: after) where
  filled := by
    rw [Consumed.ofStop_line]
    exact h.filled.takes htrimmed ⟨hat, hlow, hhigh, hoffered.ne_empty, hoffered.unmarked⟩ htakes
  others := fun j hj => by
    rw [Consumed.ofStop_skip (u := .stopLine k use) (if_neg (Ne.symm hj))]
    exact h.others j hj
  added := fun j u hmem => by
    rcases List.mem_cons.mp hmem with heq | hmem
    · exact .inr ⟨use, (Prod.mk.inj heq).2⟩
    · exact h.added j u hmem
  grows := fun e he => List.mem_cons_of_mem _ (h.grows e he)
  single := h.single.cons_line hat hoffered

lemma mem_blockOf {marker : StopMarkerHit} {rest : List StopMarkerHit} (h : (line, i) ∈ blockOf lines marker rest) :
    lines[i]? = some line ∧ marker.lineIndex < i ∧ i < blockLimit lines rest := by
  obtain ⟨n, hn⟩ := List.mem_iff_getElem?.mp h
  rw [blockOf, List.getElem?_drop, List.getElem?_take] at hn
  obtain ⟨hlimit, hn⟩ := Option.ite_none_right_eq_some.mp hn
  rw [List.getElem?_zipIdx] at hn
  obtain ⟨line', hline, heq⟩ := Option.map_eq_some_iff.mp hn
  obtain ⟨rfl, rfl⟩ := Prod.mk.inj heq
  have hbounds := lt_min_iff.mp hlimit
  exact ⟨by rwa [Nat.zero_add], by omega, by omega⟩

structure FoundAt (lines : List String) (marker : StopMarkerHit) (line : String) : Prop where
  at_line : lines[marker.lineIndex]? = some line
  hit : markerHit line marker.lineIndex = some marker

lemma FoundAt.is_marker {marker : StopMarkerHit} (h : FoundAt lines marker line) : isAnyStopOrSectionMarker line = true := by
  obtain ⟨⟨pattern, stopType⟩, hmem, hread⟩ := List.exists_of_findSome?_eq_some h.hit
  obtain ⟨m, hm, _⟩ := Option.map_eq_some_iff.mp hread
  rw [isAnyStopOrSectionMarker, List.any_eq_true.mpr ⟨(pattern, stopType), hmem, by rw [Pattern.test, hm]; rfl⟩]
  rfl

lemma foundAt_of_read {marker : StopMarkerHit} (hmem : (line, i) ∈ lines.zipIdx)
    (hread : (if consumed.has i || line = "" then none else markerHit line i) = some marker) :
    i = marker.lineIndex ∧ FoundAt lines marker line := by
  obtain ⟨_, hhit⟩ := Option.ite_none_left_eq_some.mp hread
  have hindex : i = marker.lineIndex := by
    obtain ⟨⟨pattern, stopType⟩, _, hread⟩ := List.exists_of_findSome?_eq_some hhit
    obtain ⟨m, _, rfl⟩ := Option.map_eq_some_iff.mp hread
    rfl
  subst hindex
  exact ⟨rfl, List.mem_zipIdx_iff_getElem?.mp hmem, hhit⟩

lemma foundAt_of_mem {marker : StopMarkerHit} (h : marker ∈ findStopMarkers lines consumed) :
    ∃ line, FoundAt lines marker line := by
  obtain ⟨⟨line, i⟩, hmem, hread⟩ := List.mem_filterMap.mp h
  exact ⟨line, (foundAt_of_read hmem hread).2⟩

structure StopsRead (lines : List String) (k : ℕ) (markers : List StopMarkerHit) (before : Consumed)
    (stops : List ExtractedStop) (after : Consumed) (warnings : List Warning) : Prop where
  length : stops.length = markers.length
  each : ∀ n marker rest, markers.drop n = marker :: rest → ∃ scan, stops[n]? = some (scan.extracted marker.stopType) ∧
    Filled lines marker.lineIndex (blockLimit lines rest) marker.companyName scan (after.ofStop (k + n)) ∧
    ∀ stopType issue, .stop (k + n) stopType issue ∈ warnings ↔ stopType = marker.stopType ∧ issue ∈ stopIssues scan
  warned : ∀ w ∈ warnings, ∃ n stopType issue, w = .stop (k + n) stopType issue
  others : ∀ j < k, after.ofStop j = before.ofStop j
  added : ∀ i u, (i, u) ∈ after → (i, u) ∈ before ∨ (∃ n < markers.length, ∃ use, u = .stopLine (k + n) use) ∨
    ∃ n, ∃ marker ∈ markers, i = marker.lineIndex ∧ u = .stopMarker n
  grows : ∀ e ∈ before, e ∈ after
  single : Single lines after

lemma scanStop (htrimmed : ∀ line ∈ lines, Trimmed line.toList) {marker : StopMarkerHit} (rest : List StopMarkerHit)
    {before : Consumed} {text : String} (hmarker : FoundAt lines marker text) (hlater : before.ofStop k = [])
    (hsingle : Single lines before) :
    let r := scanBlock (stopLine k) (blockOf lines marker rest) ((marker.lineIndex, .stopMarker k) :: before)
      { companyName := marker.companyName }
    BlockRead lines marker.lineIndex (blockLimit lines rest) k marker.companyName ((marker.lineIndex, .stopMarker k) :: before)
      r.1 r.2 := by
  refine scanBlock_keeps (I := BlockRead lines marker.lineIndex (blockLimit lines rest) k marker.companyName
    ((marker.lineIndex, .stopMarker k) :: before)) _ _ _ ?_ ?_
  · refine ⟨?_, fun _ _ => rfl, fun i u h => .inl h, fun _ he => he, hsingle.cons_marker hmarker.at_line hmarker.is_marker⟩
    rw [Consumed.ofStop_skip rfl, hlater]
    exact .start _ _ _ _
  · intro line i consumed scan scan' use hmem hoffered hkept hread
    obtain ⟨⟨scan'', use'⟩, htaken, heq⟩ := Option.map_eq_some_iff.mp hread
    obtain ⟨rfl, rfl⟩ := Prod.mk.inj heq
    obtain ⟨hat, hlow, hhigh⟩ := mem_blockOf hmem
    exact hkept.cons_line htrimmed hat hlow hhigh hoffered (readStopLine_takes htaken)

lemma StopsRead.cons {marker : StopMarkerHit} {rest : List StopMarkerHit} {before middle after : Consumed}
    {stops : List ExtractedStop} {warnings : List Warning}
    (hblock : BlockRead lines marker.lineIndex (blockLimit lines rest) k marker.companyName
      ((marker.lineIndex, .stopMarker k) :: before) scan middle)
    (hrest : StopsRead lines (k + 1) rest middle stops after warnings) :
    StopsRead lines k (marker :: rest) before (scan.extracted marker.stopType :: stops) after
      ((stopIssues scan).map (.stop k marker.stopType) ++ warnings) where
  length := congrArg (· + 1) hrest.length
  each := fun n m rest' hdrop => by
    cases n with
    | zero =>
      obtain ⟨rfl, rfl⟩ := List.cons.inj hdrop
      refine ⟨scan, rfl, ?_, fun stopType issue => ?_⟩
      · rw [Nat.add_zero, hrest.others k (Nat.lt_succ_self k)]
        exact hblock.filled
      · rw [List.mem_append, List.mem_map]
        constructor
        · rintro (⟨issue', hissue, heq⟩ | hlater)
          · obtain ⟨_, rfl, rfl⟩ := Warning.stop.inj heq
            exact ⟨rfl, hissue⟩
          · obtain ⟨n, _, _, heq⟩ := hrest.warned _ hlater
            have hindex := (Warning.stop.inj heq).1
            omega
        · rintro ⟨rfl, hissue⟩
          exact .inl ⟨issue, hissue, rfl⟩
    | succ n =>
      obtain ⟨scan', hstop, hfilled, hissues⟩ := hrest.each n m rest' hdrop
      rw [Nat.add_right_comm, Nat.add_assoc] at hfilled
      refine ⟨scan', hstop, hfilled, fun stopType issue => ?_⟩
      have hissue := hissues stopType issue
      rw [Nat.add_right_comm, Nat.add_assoc] at hissue
      rw [← hissue, List.mem_append, List.mem_map]
      refine or_iff_right ?_
      rintro ⟨issue', _, heq⟩
      have hindex := (Warning.stop.inj heq).1
      omega
  warned := fun w hw => by
    rcases List.mem_append.mp hw with hw | hw
    · obtain ⟨issue, _, rfl⟩ := List.mem_map.mp hw
      exact ⟨0, _, _, rfl⟩
    · obtain ⟨n, stopType, issue, rfl⟩ := hrest.warned w hw
      exact ⟨n + 1, stopType, issue, by rw [Nat.add_right_comm, Nat.add_assoc]⟩
  others := fun j hj => by
    rw [hrest.others j (by omega), hblock.others j (by omega), Consumed.ofStop_skip rfl]
  added := fun i u hmem => by
    rcases hrest.added i u hmem with hmem | ⟨n, hn, use, rfl⟩ | ⟨n, m, hm, hi, hu⟩
    · rcases hblock.added i u hmem with hmem | ⟨use, rfl⟩
      · rcases List.mem_cons.mp hmem with heq | hmem
        · obtain ⟨rfl, rfl⟩ := Prod.mk.inj heq
          exact .inr (.inr ⟨k, marker, List.mem_cons_self, rfl, rfl⟩)
        · exact .inl hmem
      · exact .inr (.inl ⟨0, Nat.succ_pos _, use, rfl⟩)
    · exact .inr (.inl ⟨n + 1, Nat.succ_lt_succ hn, use, by rw [Nat.add_right_comm, Nat.add_assoc]⟩)
    · exact .inr (.inr ⟨n, m, List.mem_cons_of_mem _ hm, hi, hu⟩)
  grows := fun e he => hrest.grows e (hblock.grows e (List.mem_cons_of_mem _ he))
  single := hrest.single

lemma extractStops_reads (htrimmed : ∀ line ∈ lines, Trimmed line.toList) {markers : List StopMarkerHit} {before : Consumed}
    (hmarkers : ∀ marker ∈ markers, ∃ line, FoundAt lines marker line) (hlater : ∀ j ≥ k, before.ofStop j = [])
    (hsingle : Single lines before) :
    StopsRead lines k markers before (extractStops lines k markers before).1 (extractStops lines k markers before).2.1
      (extractStops lines k markers before).2.2 := by
  induction markers generalizing k before with
  | nil =>
    refine ⟨rfl, fun n marker rest h => ?_, nofun, fun _ _ => rfl, fun i u h => .inl h, fun _ he => he, hsingle⟩
    rw [List.drop_nil] at h
    cases h
  | cons marker rest ih =>
    obtain ⟨text, hmarker⟩ := hmarkers marker List.mem_cons_self
    have hblock := scanStop htrimmed rest hmarker (hlater k le_rfl) hsingle
    refine StopsRead.cons hblock (ih (fun m hm => hmarkers m (List.mem_cons_of_mem _ hm)) (fun j hj => ?_) hblock.single)
    rw [hblock.others j (by omega), Consumed.ofStop_skip rfl]
    exact hlater j (by omega)

end Truckmaster.RateConfirmationExtraction
