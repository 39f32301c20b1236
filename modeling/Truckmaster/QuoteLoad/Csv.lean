import Truckmaster.Library.DelimitedText

namespace Truckmaster.QuoteLoad.Csv

open DelimitedText

/-- The class of the test in `escapeCsvField`. -/
def needsQuotes (value : List Char) : Bool := value.any (fun c => c == '"' || c == ',' || c == '\n')

def escapeCsvField (value : List Char) : List Char :=
  if needsQuotes value then '"' :: (value.flatMap (fun c => if c = '"' then ['"', '"'] else [c]) ++ ['"']) else value

def toCsv (rows : List (List (List Char))) : List Char :=
  List.intercalate ['\r', '\n'] (rows.map (fun row => List.intercalate [','] (row.map escapeCsvField)))

def rfc4180 : Dialect Char where
  separator := ','
  quote := '"'
  return_ := '\r'
  feed := '\n'
  distinct := by decide

lemma escapeCsvField_eq : escapeCsvField = rfc4180.escape needsQuotes := by
  funext value
  rw [escapeCsvField, Dialect.escape]
  refine if_congr Iff.rfl (congrArg (fun text => '"' :: (text ++ ['"'])) ?_) rfl
  refine congrArg (fun f => value.flatMap f) (funext (fun c => ?_))
  by_cases hc : c = rfc4180.quote
  · rw [if_pos hc, hc]
    rfl
  · rw [if_neg hc]
    exact if_neg hc

lemma toCsv_eq (rows : List (List (List Char))) : toCsv rows = rfc4180.write needsQuotes rows := by
  rw [toCsv, escapeCsvField_eq]
  rfl

lemma mem_symbols {value : List Char} : needsQuotes value = true ↔ '"' ∈ value ∨ ',' ∈ value ∨ '\n' ∈ value := by
  simp only [needsQuotes, List.any_eq_true, Bool.or_eq_true, beq_iff_eq]
  constructor
  · rintro ⟨c, hc, (rfl | rfl) | rfl⟩
    · exact Or.inl hc
    · exact Or.inr (Or.inl hc)
    · exact Or.inr (Or.inr hc)
  · rintro (h | h | h)
    · exact ⟨_, h, Or.inl (Or.inl rfl)⟩
    · exact ⟨_, h, Or.inl (Or.inr rfl)⟩
    · exact ⟨_, h, Or.inr rfl⟩

lemma safe_iff {value : List Char} : rfc4180.Safe needsQuotes value ↔
    ('\r' ∈ value → '"' ∈ value ∨ ',' ∈ value ∨ '\n' ∈ value) := by
  rw [Dialect.Safe, ← mem_symbols]
  constructor
  · rintro (hquotes | hplain) hreturn
    · exact hquotes
    · exact absurd rfl (hplain _ hreturn).2.2.1
  · intro h
    by_cases hquotes : needsQuotes value = true
    · exact Or.inl hquotes
    · rw [mem_symbols, not_or, not_or] at hquotes
      obtain ⟨hquote, hcomma, hfeed⟩ := hquotes
      refine Or.inr (fun c hc => ⟨?_, ?_, ?_, ?_⟩)
      · rintro rfl
        exact hcomma hc
      · rintro rfl
        exact hquote hc
      · rintro rfl
        exact (mem_symbols.mp (h hc)).elim hquote (fun hrest => hrest.elim hcomma hfeed)
      · rintro rfl
        exact hfeed hc

theorem csv_read_back_iff {rows : List (List (List Char))} (hrows : rows ≠ [])
    (hfull : ∀ row ∈ rows, row ≠ [] ∧ row ≠ [[]]) :
    rfc4180.read (toCsv rows) = some rows ↔
      ∀ row ∈ rows, ∀ value ∈ row, '\r' ∈ value → '"' ∈ value ∨ ',' ∈ value ∨ '\n' ∈ value := by
  have hquote : ∀ value, needsQuotes value = false → rfc4180.quote ∉ value := by
    intro value hno hmem
    exact absurd (mem_symbols.mpr (Or.inl hmem)) (by rw [hno]; exact Bool.false_ne_true)
  rw [toCsv_eq, Dialect.read_write_iff hquote hrows hfull]
  exact forall₂_congr (fun row _ => forall₂_congr (fun value _ => safe_iff))

theorem csv_read_back_sample :
    rfc4180.read (toCsv [["Acme, Inc.".toList, []], ["say \"hi\"".toList, "a\r\nb".toList]]) =
      some [["Acme, Inc.".toList, []], ["say \"hi\"".toList, "a\r\nb".toList]] :=
  (csv_read_back_iff (by decide) (by decide)).mpr (by decide)

theorem return_splits : toCsv [["a\rb".toList, "c".toList]] = "a\rb,c".toList ∧
    rfc4180.read (toCsv [["a\rb".toList, "c".toList]]) = some [["a".toList], ["b".toList, "c".toList]] := by
  decide

end Truckmaster.QuoteLoad.Csv
