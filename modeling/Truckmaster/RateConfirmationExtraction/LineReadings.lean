import Truckmaster.RateConfirmationExtraction.LocalRateConfirmationExtractor

namespace Truckmaster.RateConfirmationExtraction

open Common Patterns

variable {line : String} {lines : List String} {consumed : Consumed} {i : ℕ}

structure Trimmed (cs : List Char) : Prop where
  first : ∀ c ∈ cs.head?, isWhiteSpace c = false
  last : ∀ c ∈ cs.getLast?, isWhiteSpace c = false

lemma head_dropWhile {q : Char → Bool} {cs : List Char} {c : Char} (hc : c ∈ (cs.dropWhile q).head?) : q c = false := by
  have hhead := List.head?_dropWhile_not q cs
  rw [Option.mem_def.mp hc] at hhead
  exact hhead

lemma trimmed_trim (s : String) : Trimmed (trim s).toList := by
  rw [trim, String.toList_ofList]
  constructor
  · intro c hc
    -- what is left after the second pass is a prefix of what the first one left
    obtain ⟨cut, hcut⟩ := List.dropWhile_suffix (l := (s.toList.dropWhile isWhiteSpace).reverse) isWhiteSpace
    have hparts := congrArg List.reverse hcut
    rw [List.reverse_append, List.reverse_reverse] at hparts
    obtain ⟨rest, hrest⟩ := List.head?_eq_some_iff.mp hc
    have hhead : c ∈ (s.toList.dropWhile isWhiteSpace).head? := by
      rw [← hparts, hrest, List.cons_append, List.head?_cons]
      rfl
    exact head_dropWhile hhead
  · intro c hc
    rw [List.getLast?_reverse] at hc
    exact head_dropWhile hc

lemma mem_dropWhile {q : Char → Bool} {cs : List Char} {c : Char} (hc : c ∈ cs) (hq : q c = false) : c ∈ cs.dropWhile q := by
  rw [← List.takeWhile_append_dropWhile (p := q) (l := cs)] at hc
  rcases List.mem_append.mp hc with hc | hc
  · exact absurd (List.mem_takeWhile_imp hc) (by simp [hq])
  · exact hc

lemma trim_ne_empty {cs : List Char} {c : Char} (hc : c ∈ cs) (hspace : isWhiteSpace c = false) :
    trim (String.ofList cs) ≠ "" := by
  intro hempty
  have hmem : c ∈ (trim (String.ofList cs)).toList := by
    rw [trim, String.toList_ofList, String.toList_ofList, List.mem_reverse]
    exact mem_dropWhile (List.mem_reverse.mpr (mem_dropWhile hc hspace)) hspace
  rw [hempty] at hmem
  cases hmem

lemma Trimmed.end_ne_empty {before taken : List Char} (h : Trimmed (before ++ taken)) (htaken : taken ≠ []) :
    trim (String.ofList taken) ≠ "" := by
  refine trim_ne_empty (List.getLast_mem htaken) (h.last _ ?_)
  rw [List.getLast?_append_of_ne_nil _ htaken]
  exact List.getLast?_eq_some_getLast htaken

lemma Trimmed.start_ne_empty {taken after : List Char} (h : Trimmed (taken ++ after)) (htaken : taken ≠ []) :
    trim (String.ofList taken) ≠ "" := by
  obtain ⟨c, rest, rfl⟩ := List.exists_cons_of_ne_nil htaken
  exact trim_ne_empty List.mem_cons_self (h.first c rfl)

lemma trimmed_of_mem {text : String} (h : line ∈ textLines text) : Trimmed line.toList := by
  obtain ⟨s, _, rfl⟩ := List.mem_map.mp h
  exact trimmed_trim s

lemma falsy_some {s : String} (h : s ≠ "") : falsy (some s) = false := by simpa [falsy] using h

namespace PartyField

def values (scan : PartyScan) : PartyField → List (Option String)
  | addressLine1 => [scan.addressLine1]
  | city => [scan.city, scan.state, scan.zip]
  | contactName => [scan.contactName]
  | contactPhone => [scan.contactPhone]

def read (line : String) : PartyField → Option (List (Option String))
  | addressLine1 => if streetAddressPattern.test line then some [some line] else none
  | city => (cityStateZipPattern.exec line).map (fun m => [(m.group 1).map trim, m.group 2, m.group 3])
  | contactName => (contactNamePattern.exec line).map (fun m => [(m.group 1).map trim])
  | contactPhone => (phonePattern.exec line).map (fun m => [m.group 1])

def lacking (scan : PartyScan) (f : PartyField) : Bool := falsy ((f.values scan).headD none)

variable {f g : PartyField} {scan scan' : PartyScan}

lemma read_head (hline : Trimmed line.toList) (hne : line ≠ "") {values : List (Option String)} (h : f.read line = some values) :
    falsy (values.headD none) = false := by
  cases f with
  | addressLine1 =>
    obtain ⟨_, h⟩ := Option.ite_none_right_eq_some.mp h
    rw [← Option.some.inj h]
    exact falsy_some hne
  | city =>
    obtain ⟨m, hm, rfl⟩ := Option.map_eq_some_iff.mp h
    obtain ⟨taken, after, htext, htaken, hgroup⟩ := exec_first_group (by decide) (by decide) hm
    rw [List.headD_cons, Cursor.group, hgroup]
    exact falsy_some ((htext ▸ hline).start_ne_empty htaken)
  | contactName =>
    obtain ⟨m, hm, rfl⟩ := Option.map_eq_some_iff.mp h
    obtain ⟨before, taken, htext, htaken, hgroup⟩ := exec_last_group
      [Pattern.any (Pattern.word "Contact") [Pattern.word "Attn", Pattern.word "Attention"], separator] (by decide) hm
    rw [List.headD_cons, Cursor.group, hgroup]
    exact falsy_some ((htext ▸ hline).end_ne_empty htaken)
  | contactPhone =>
    obtain ⟨m, hm, rfl⟩ := Option.map_eq_some_iff.mp h
    obtain ⟨_, _, _, hm⟩ := mem_of_exec hm
    obtain ⟨_, _, taken, _, hgroup, _, hlength⟩ := group_reads hm
    rw [List.headD_cons, Cursor.group, hgroup]
    refine falsy_some (fun hempty => ?_)
    rw [(String.ofList_eq_empty_iff).mp hempty] at hlength
    exact absurd hlength (by decide)

/-- A line fills one field that was lacking. -/
structure Fills (line : String) (f : PartyField) (scan scan' : PartyScan) : Prop where
  lacking : f.lacking scan = true
  read : f.read line = some (f.values scan')
  others : ∀ g ≠ f, g.values scan' = g.values scan

end PartyField

lemma partyLine_fills {f : PartyField} {scan scan' : PartyScan} (h : partyLine line scan = some (scan', f)) :
    f.Fills line scan scan' := by
  simp only [partyLine, Option.orElse_eq_some, Option.ite_none_right_eq_some, Option.map_eq_some_iff, Option.some.injEq,
    Prod.mk.injEq] at h
  rcases h with ⟨hcond, rfl, rfl⟩ | ⟨_, ⟨hlacking, m, hm, rfl, rfl⟩ | ⟨_, ⟨hlacking, m, hm, rfl, rfl⟩ |
    ⟨_, hlacking, m, hm, rfl, rfl⟩⟩⟩
  · obtain ⟨hlacking, htest⟩ := Bool.and_eq_true_iff.mp hcond
    exact ⟨hlacking, if_pos htest, fun g hg => by cases g <;> first | rfl | exact absurd rfl hg⟩
  all_goals
    exact ⟨hlacking, Option.map_eq_some_iff.mpr ⟨m, hm, rfl⟩, fun g hg => by cases g <;> first | rfl | exact absurd rfl hg⟩

lemma firstLine_eq_some {α : Type} {read : String → Option α} {a : α} (h : firstLine lines consumed read = some (a, i)) :
    ∃ line, lines[i]? = some line ∧ consumed.has i = false ∧ read line = some a := by
  obtain ⟨⟨line, j⟩, hmem, hread⟩ := List.exists_of_findSome?_eq_some h
  obtain ⟨hhas, hread⟩ := Option.ite_none_left_eq_some.mp hread
  obtain ⟨a', ha, heq⟩ := Option.map_eq_some_iff.mp hread
  obtain ⟨rfl, rfl⟩ := Prod.mk.inj heq
  exact ⟨line, List.mem_zipIdx_iff_getElem?.mp hmem, Bool.eq_false_iff.mpr hhas, ha⟩

structure Offered (consumed : Consumed) (line : String) (i : ℕ) : Prop where
  left : consumed.has i = false
  ne_empty : line ≠ ""
  unmarked : isAnyStopOrSectionMarker line = false

lemma scanBlock_keeps {σ : Type} {readLine : String → σ → Option (σ × Use)} {I : σ → Consumed → Prop}
    (block : List (String × ℕ)) (consumed : Consumed) (scan : σ) (hstart : I scan consumed)
    (hstep : ∀ line i consumed scan scan' use, (line, i) ∈ block → Offered consumed line i → I scan consumed →
      readLine line scan = some (scan', use) → I scan' ((i, use) :: consumed)) :
    I (scanBlock readLine block consumed scan).1 (scanBlock readLine block consumed scan).2 := by
  induction block generalizing consumed scan with
  | nil => exact hstart
  | cons e rest ih =>
    obtain ⟨line, i⟩ := e
    have hrest := fun consumed scan hstart => ih consumed scan hstart
      (fun line i consumed scan scan' use hmem => hstep line i consumed scan scan' use (List.mem_cons_of_mem _ hmem))
    rw [scanBlock]
    split_ifs with hskip hmarker
    · exact hrest consumed scan hstart
    · exact hstart
    · obtain ⟨hleft, hne⟩ : consumed.has i ≠ true ∧ line ≠ "" := by simpa using hskip
      cases hread : readLine line scan with
      | none => exact hrest consumed scan hstart
      | some r =>
        exact hrest _ _ (hstep line i consumed scan r.1 r.2 List.mem_cons_self
          ⟨Bool.eq_false_iff.mpr hleft, hne, Bool.eq_false_iff.mpr hmarker⟩ hstart hread)

end Truckmaster.RateConfirmationExtraction
