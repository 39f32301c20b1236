import Mathlib.Tactic

/-! Records of fields as text: a writer that quotes some fields, and a reader that ends an unquoted record at a return,
at a line feed or at both. -/

namespace DelimitedText

variable {α : Type*}

structure Dialect (α : Type*) where
  separator : α
  quote : α
  return_ : α
  feed : α
  distinct : [separator, quote, return_, feed].Nodup

/-- Where the reader is; a record that starts after a return may start with the feed of that line end. -/
inductive Mode
  | recordStart (afterReturn : Bool)
  | fieldStart
  | unquoted
  | quoted
  | quoteSeen
  deriving DecidableEq, Repr

structure Reader (α : Type*) where
  rows : List (List (List α)) := []
  row : List (List α) := []
  field : List α := []
  mode : Mode := .recordStart false

namespace Reader

def endField (r : Reader α) : Reader α := { r with row := r.row ++ [r.field], field := [], mode := .fieldStart }

def endRecord (r : Reader α) (afterReturn : Bool) : Reader α where
  rows := r.rows ++ [r.row ++ [r.field]]
  mode := .recordStart afterReturn

/-- At the end of the text; a line end before it is that of the last record. -/
def finish (r : Reader α) : Option (List (List (List α))) :=
  match r.mode with
  | .recordStart _ => some r.rows
  | .quoted => none
  | _ => some (r.endRecord false).rows

end Reader

namespace Dialect

variable [DecidableEq α] (d : Dialect α)

def ends (r : Reader α) (c : α) : Option (Reader α) :=
  if c = d.separator then some r.endField
  else if c = d.return_ then some (r.endRecord true)
  else if c = d.feed then some (r.endRecord false)
  else none

def unquotedStep (r : Reader α) (c : α) : Option (Reader α) :=
  if c = d.quote then none
  else d.ends r c <|> some { r with field := r.field ++ [c], mode := .unquoted }

def startStep (r : Reader α) (c : α) : Option (Reader α) :=
  if c = d.quote then some { r with mode := .quoted } else d.unquotedStep r c

def step (r : Reader α) (c : α) : Option (Reader α) :=
  match r.mode with
  | .recordStart afterReturn =>
    if afterReturn ∧ c = d.feed then some { r with mode := .recordStart false } else d.startStep r c
  | .fieldStart => d.startStep r c
  | .unquoted => d.unquotedStep r c
  | .quoted =>
    if c = d.quote then some { r with mode := .quoteSeen } else some { r with field := r.field ++ [c] }
  | .quoteSeen =>
    if c = d.quote then some { r with field := r.field ++ [c], mode := .quoted } else d.ends r c

def run (r : Reader α) (text : List α) : Option (Reader α) := text.foldlM d.step r

def read (text : List α) : Option (List (List (List α))) := (d.run {} text).bind Reader.finish

def escape (quotes : List α → Bool) (field : List α) : List α :=
  if quotes field then d.quote :: (field.flatMap (fun c => if c = d.quote then [c, c] else [c]) ++ [d.quote]) else field

def writeRow (quotes : List α → Bool) (row : List (List α)) : List α :=
  List.intercalate [d.separator] (row.map (d.escape quotes))

def write (quotes : List α → Bool) (rows : List (List (List α))) : List α :=
  List.intercalate [d.return_, d.feed] (rows.map (d.writeRow quotes))

def Plain (c : α) : Prop := c ≠ d.separator ∧ c ≠ d.quote ∧ c ≠ d.return_ ∧ c ≠ d.feed

def Safe (quotes : List α → Bool) (field : List α) : Prop := quotes field = true ∨ ∀ c ∈ field, d.Plain c

variable {d} {quotes : List α → Bool} {r s : Reader α} {c : α} {field : List α} {row : List (List α)}

@[simp] lemma run_nil : d.run r [] = some r := rfl

lemma run_append (text rest : List α) : d.run r (text ++ rest) = (d.run r text).bind (fun s => d.run s rest) := by
  rw [run, List.foldlM_append]
  rfl

lemma run_cons (rest : List α) : d.run r (c :: rest) = (d.step r c).bind (fun s => d.run s rest) := by
  rw [run, List.foldlM_cons]
  rfl

def Ready (r : Reader α) : Prop := r.field = [] ∧ (r.mode = .fieldStart ∨ r.mode = .recordStart false)

def Closed (r : Reader α) : Prop :=
  r.mode = .unquoted ∨ r.mode = .quoteSeen ∨ r.mode = .fieldStart ∨ r.mode = .recordStart false

lemma step_ready (h : Ready r) : d.step r c = d.startStep r c := by
  rcases h.2 with hmode | hmode <;> simp [step, hmode]

lemma ends_plain (h : d.Plain c) : d.ends r c = none := by simp [ends, h.1, h.2.2.1, h.2.2.2]

lemma unquotedStep_plain (h : d.Plain c) :
    d.unquotedStep r c = some { r with field := r.field ++ [c], mode := .unquoted } := by
  simp [unquotedStep, ends_plain h, h.2.1]

lemma run_unquoted (hmode : r.mode = .unquoted) (hfield : ∀ c ∈ field, d.Plain c) :
    d.run r field = some { r with field := r.field ++ field } := by
  induction field generalizing r with
  | nil => simp
  | cons c field ih =>
    obtain ⟨hc, hrest⟩ := List.forall_mem_cons.mp hfield
    have hstep : d.step r c = some { r with field := r.field ++ [c], mode := .unquoted } := by
      simp [step, hmode, unquotedStep_plain hc]
    rw [run_cons, hstep, Option.bind_some, ih rfl hrest]
    simp [hmode]

lemma run_quoted (hmode : r.mode = .quoted) :
    d.run r (field.flatMap (fun c => if c = d.quote then [c, c] else [c])) = some { r with field := r.field ++ field } := by
  induction field generalizing r with
  | nil => simp
  | cons c field ih =>
    have hdoubled : d.run r (if c = d.quote then [c, c] else [c]) = some { r with field := r.field ++ [c] } := by
      by_cases hc : c = d.quote
      · rw [if_pos hc, run_cons]
        simp [step, hmode, hc, run_cons]
      · rw [if_neg hc, run_cons]
        simp [step, hmode, hc]
    rw [List.flatMap_cons, run_append, hdoubled, Option.bind_some]
    simpa using ih (r := { r with field := r.field ++ [c] }) hmode

structure FieldRead (r : Reader α) (field : List α) (s : Reader α) : Prop where
  rows : s.rows = r.rows
  before : s.row = r.row
  read : s.field = field
  closed : Closed s
  blank : s.mode = .recordStart false → field = [] ∧ r.mode = .recordStart false

lemma run_plain_field (hr : Ready r) (hfield : ∀ c ∈ field, d.Plain c) : ∃ s, d.run r field = some s ∧ FieldRead r field s := by
  cases field with
  | nil => exact ⟨r, rfl, rfl, rfl, hr.1, .inr (.inr hr.2), fun hmode => ⟨rfl, hmode⟩⟩
  | cons c field =>
    obtain ⟨hc, hrest⟩ := List.forall_mem_cons.mp hfield
    have hstep : d.step r c = some { r with field := [c], mode := .unquoted } := by
      rw [step_ready hr, startStep, if_neg hc.2.1, unquotedStep_plain hc, hr.1]
      rfl
    refine ⟨{ r with field := c :: field, mode := .unquoted }, ?_, rfl, rfl, rfl, .inl rfl, nofun⟩
    rw [run_cons, hstep, Option.bind_some, run_unquoted rfl hrest]
    rfl

lemma run_field (hr : Ready r) (hsafe : d.Safe quotes field) :
    ∃ s, d.run r (d.escape quotes field) = some s ∧ FieldRead r field s := by
  by_cases hquotes : quotes field = true
  · refine ⟨{ r with field := field, mode := .quoteSeen }, ?_, rfl, rfl, rfl, .inr (.inl rfl), nofun⟩
    have hopen : d.step r d.quote = some { r with mode := .quoted } := by
      rw [step_ready hr, startStep, if_pos rfl]
    rw [escape, if_pos hquotes, run_cons, hopen, Option.bind_some, run_append, run_quoted rfl, Option.bind_some, run_cons]
    simp [step, hr.1]
  · rw [escape, if_neg hquotes]
    exact run_plain_field hr (hsafe.resolve_left hquotes)

lemma step_closed (h : Closed r) (hc : c ≠ d.quote) (hends : d.ends r c = some s) : d.step r c = some s := by
  have hunquoted : d.unquotedStep r c = some s := by simp [unquotedStep, hc, hends]
  rcases h with hmode | hmode | hmode | hmode <;> simp [step, hmode, startStep, hc, hends, hunquoted]

omit [DecidableEq α] in
lemma separator_ne : d.separator ≠ d.quote ∧ d.return_ ≠ d.quote ∧ d.feed ≠ d.quote ∧ d.return_ ≠ d.separator ∧
    d.feed ≠ d.separator ∧ d.feed ≠ d.return_ := by
  have h := d.distinct
  simp only [List.nodup_cons, List.mem_cons, List.not_mem_nil, or_false, not_or] at h
  exact ⟨h.1.1, Ne.symm h.2.1.1, Ne.symm h.2.1.2, Ne.symm h.1.2.1, Ne.symm h.1.2.2, Ne.symm h.2.2.1⟩

lemma step_separator (h : Closed r) : d.step r d.separator = some r.endField :=
  step_closed h separator_ne.1 (if_pos rfl)

lemma step_return (h : Closed r) : d.step r d.return_ = some (r.endRecord true) := by
  refine step_closed h separator_ne.2.1 ?_
  simp [ends, (separator_ne (d := d)).2.2.2.1]

lemma step_feed (h : Closed r) : d.step r d.feed = some (r.endRecord false) := by
  obtain ⟨-, -, hquote, -, hseparator, hreturn⟩ := separator_ne (d := d)
  exact step_closed h hquote (by simp [ends, hseparator, hreturn])

lemma run_newline (h : Closed r) (rest : List α) :
    d.run r ([d.return_, d.feed] ++ rest) = d.run { rows := r.rows ++ [r.row ++ [r.field]] } rest := by
  rw [List.cons_append, run_cons, step_return h, Option.bind_some, List.singleton_append, run_cons]
  simp [step, Reader.endRecord]

structure RowRead (r : Reader α) (row : List (List α)) (s : Reader α) : Prop where
  rows : s.rows = r.rows
  read : s.row ++ [s.field] = r.row ++ row
  closed : Closed s
  blank : s.mode = .recordStart false → row = [[]] ∧ r.mode = .recordStart false

lemma writeRow_cons (quotes : List α → Bool) (field next : List α) (row : List (List α)) :
    d.writeRow quotes (field :: next :: row) = d.escape quotes field ++ ([d.separator] ++ d.writeRow quotes (next :: row)) := by
  simp [writeRow]

lemma run_row (hr : Ready r) (hrow : row ≠ []) (hsafe : ∀ field ∈ row, d.Safe quotes field) :
    ∃ s, d.run r (d.writeRow quotes row) = some s ∧ RowRead r row s := by
  induction row generalizing r with
  | nil => exact absurd rfl hrow
  | cons field row ih =>
    obtain ⟨hfield, hrest⟩ := List.forall_mem_cons.mp hsafe
    obtain ⟨s, hs, hread⟩ := run_field hr hfield
    cases row with
    | nil =>
      refine ⟨s, by simpa [writeRow] using hs, hread.rows, by rw [hread.before, hread.read], hread.closed, fun hmode => ?_⟩
      obtain ⟨rfl, hstart⟩ := hread.blank hmode
      exact ⟨rfl, hstart⟩
    | cons next row =>
      obtain ⟨t, ht, hrowRead⟩ := ih (r := s.endField) ⟨rfl, .inl rfl⟩ (List.cons_ne_nil _ _) hrest
      refine ⟨t, ?_, ?_, ?_, hrowRead.closed, fun hmode => absurd (hrowRead.blank hmode).2 nofun⟩
      · rw [writeRow_cons, run_append, hs, Option.bind_some, run_append, run_cons, step_separator hread.closed]
        exact ht
      · rw [hrowRead.rows, Reader.endField, hread.rows]
      · rw [hrowRead.read, Reader.endField, hread.before, hread.read, List.append_assoc, List.singleton_append]

lemma write_cons (quotes : List α → Bool) (row next : List (List α)) (rows : List (List (List α))) :
    d.write quotes (row :: next :: rows) =
      d.writeRow quotes row ++ ([d.return_, d.feed] ++ d.write quotes (next :: rows)) := by
  simp [write]

lemma read_rows {rows before : List (List (List α))} (hrows : rows ≠ []) (hfull : ∀ row ∈ rows, row ≠ [] ∧ row ≠ [[]])
    (hsafe : ∀ row ∈ rows, ∀ field ∈ row, d.Safe quotes field) :
    (d.run { rows := before } (d.write quotes rows)).bind Reader.finish = some (before ++ rows) := by
  induction rows generalizing before with
  | nil => exact absurd rfl hrows
  | cons row rows ih =>
    obtain ⟨hrow, hrest⟩ := List.forall_mem_cons.mp hfull
    obtain ⟨hsafeRow, hsafeRest⟩ := List.forall_mem_cons.mp hsafe
    obtain ⟨s, hs, hread⟩ := run_row (r := { rows := before }) ⟨rfl, .inr rfl⟩ hrow.1 hsafeRow
    have hended : s.rows ++ [s.row ++ [s.field]] = before ++ [row] := by
      rw [hread.rows, hread.read, List.nil_append]
    cases rows with
    | nil =>
      have hwrite : d.write quotes [row] = d.writeRow quotes row := by simp [write]
      rw [hwrite, hs, Option.bind_some]
      rcases hread.closed with hmode | hmode | hmode | hmode
      · simpa [Reader.finish, hmode, Reader.endRecord] using hended
      · simpa [Reader.finish, hmode, Reader.endRecord] using hended
      · simpa [Reader.finish, hmode, Reader.endRecord] using hended
      · exact absurd (hread.blank hmode).1 hrow.2
    | cons next rows =>
      rw [write_cons, run_append, hs, Option.bind_some, run_newline hread.closed, hended,
        ih (List.cons_ne_nil _ _) hrest hsafeRest, List.append_assoc, List.singleton_append]

theorem read_write {rows : List (List (List α))} (hrows : rows ≠ []) (hfull : ∀ row ∈ rows, row ≠ [] ∧ row ≠ [[]])
    (hsafe : ∀ row ∈ rows, ∀ field ∈ row, d.Safe quotes field) : d.read (d.write quotes rows) = some rows :=
  read_rows hrows hfull hsafe

section Unsafe

omit [DecidableEq α] in
lemma exists_first {β : Type*} {p : β → Prop} {l : List β} (h : ¬ ∀ a ∈ l, p a) :
    ∃ front a back, l = front ++ a :: back ∧ (∀ b ∈ front, p b) ∧ ¬ p a := by
  induction l with
  | nil => exact absurd (List.forall_mem_nil p) h
  | cons a l ih =>
    by_cases ha : p a
    · have hrest : ¬ ∀ b ∈ l, p b := fun hall => h (List.forall_mem_cons.mpr ⟨ha, hall⟩)
      obtain ⟨front, b, back, rfl, hfront, hb⟩ := ih hrest
      exact ⟨a :: front, b, back, rfl, List.forall_mem_cons.mpr ⟨ha, hfront⟩, hb⟩
    · exact ⟨[], a, l, rfl, List.forall_mem_nil p, ha⟩

variable {before after rows : List (List (List α))} {front back : List (List α)} {first rest : List α}

def Began (before : List (List (List α))) (front : List (List α)) (r : Reader α) : Prop :=
  (r.rows = before ∧ front <+: r.row ∧ ∀ cr, r.mode ≠ .recordStart cr) ∨ ∃ row, front <+: row ∧ before ++ [row] <+: r.rows

omit [DecidableEq α] in
lemma Began.endField (h : Began before front r) : Began before front r.endField := by
  rcases h with ⟨hrows, hfront, -⟩ | hlater
  · exact .inl ⟨hrows, hfront.trans (List.prefix_append _ _), nofun⟩
  · exact .inr hlater

omit [DecidableEq α] in
lemma Began.endRecord (h : Began before front r) (cr : Bool) : Began before front (r.endRecord cr) := by
  rcases h with ⟨hrows, hfront, -⟩ | ⟨row, hfront, hbefore⟩
  · exact .inr ⟨_, hfront.trans (List.prefix_append _ _), by rw [Reader.endRecord, hrows]⟩
  · exact .inr ⟨row, hfront, hbefore.trans (List.prefix_append _ _)⟩

omit [DecidableEq α] in
lemma Began.same (h : Began before front r) (hrows : s.rows = r.rows) (hrow : s.row = r.row)
    (hmode : (∀ cr, r.mode ≠ .recordStart cr) → ∀ cr, s.mode ≠ .recordStart cr) : Began before front s := by
  rcases h with ⟨hbefore, hfront, hstarted⟩ | ⟨row, hfront, hbefore⟩
  · exact .inl ⟨hrows.trans hbefore, hrow ▸ hfront, hmode hstarted⟩
  · exact .inr ⟨row, hfront, hrows ▸ hbefore⟩

lemma Began.ends (h : Began before front r) (hstep : d.ends r c = some s) : Began before front s := by
  rw [Dialect.ends] at hstep
  split_ifs at hstep
  · obtain rfl := Option.some.inj hstep
    exact h.endField
  · obtain rfl := Option.some.inj hstep
    exact h.endRecord true
  · obtain rfl := Option.some.inj hstep
    exact h.endRecord false

lemma Began.unquotedStep (h : Began before front r) (hstep : d.unquotedStep r c = some s) : Began before front s := by
  rw [Dialect.unquotedStep] at hstep
  split at hstep
  · cases hstep
  · cases hends : d.ends r c with
    | some t =>
      rw [hends] at hstep
      obtain rfl := Option.some.inj hstep
      exact h.ends hends
    | none =>
      rw [hends] at hstep
      obtain rfl := Option.some.inj hstep
      exact h.same rfl rfl (fun _ => nofun)

lemma Began.startStep (h : Began before front r) (hstep : d.startStep r c = some s) : Began before front s := by
  rw [Dialect.startStep] at hstep
  split at hstep
  · obtain rfl := Option.some.inj hstep
    exact h.same rfl rfl (fun _ => nofun)
  · exact h.unquotedStep hstep

lemma Began.step (h : Began before front r) (hstep : d.step r c = some s) : Began before front s := by
  rw [Dialect.step] at hstep
  split at hstep
  next cr hmode =>
    split at hstep
    · obtain rfl := Option.some.inj hstep
      exact h.same rfl rfl (fun hne => absurd hmode (hne cr))
    · exact h.startStep hstep
  · exact h.startStep hstep
  · exact h.unquotedStep hstep
  next hmode =>
    split at hstep
    · obtain rfl := Option.some.inj hstep
      exact h.same rfl rfl (fun _ => nofun)
    · obtain rfl := Option.some.inj hstep
      exact h.same rfl rfl (fun hne => hne)
  · split at hstep
    · obtain rfl := Option.some.inj hstep
      exact h.same rfl rfl (fun _ => nofun)
    · exact h.ends hstep

lemma Began.run {text : List α} (h : Began before front r) (hrun : d.run r text = some s) : Began before front s := by
  induction text generalizing r with
  | nil =>
    obtain rfl := Option.some.inj hrun
    exact h
  | cons c text ih =>
    rw [run_cons] at hrun
    obtain ⟨t, ht, hrest⟩ := Option.bind_eq_some_iff.mp hrun
    exact ih (h.step ht) hrest

omit [DecidableEq α] in
lemma Began.finish (h : Began before front r) (hfinish : r.finish = some rows) :
    ∃ row, front <+: row ∧ before ++ [row] <+: rows := by
  have hended : (r.endRecord false).rows = rows → ∃ row, front <+: row ∧ before ++ [row] <+: rows := by
    rintro rfl
    exact ((h.endRecord false).resolve_left (fun hpartial => hpartial.2.2 false rfl))
  rw [Reader.finish] at hfinish
  split at hfinish
  next cr hmode =>
    obtain rfl := Option.some.inj hfinish
    exact h.resolve_left (fun hpartial => hpartial.2.2 cr hmode)
  · cases hfinish
  · exact hended (Option.some.inj hfinish)

lemma run_before (hfull : ∀ row ∈ before, row ≠ []) (hsafe : ∀ row ∈ before, ∀ field ∈ row, d.Safe quotes field) :
    d.run { rows := rows } (d.write quotes (before ++ row :: after)) =
      d.run { rows := rows ++ before } (d.write quotes (row :: after)) := by
  induction before generalizing rows with
  | nil => simp
  | cons old before ih =>
    obtain ⟨hold, hrest⟩ := List.forall_mem_cons.mp hfull
    obtain ⟨hsafeOld, hsafeRest⟩ := List.forall_mem_cons.mp hsafe
    obtain ⟨s, hs, hread⟩ := run_row (r := { rows := rows }) ⟨rfl, .inr rfl⟩ hold hsafeOld
    obtain ⟨next, later, hnext⟩ : ∃ next later, before ++ row :: after = next :: later := by
      cases before with
      | nil => exact ⟨row, after, rfl⟩
      | cons next before => exact ⟨next, before ++ row :: after, rfl⟩
    have hended : s.rows ++ [s.row ++ [s.field]] = rows ++ [old] := by rw [hread.rows, hread.read, List.nil_append]
    rw [List.cons_append, hnext, write_cons, run_append, hs, Option.bind_some, run_newline hread.closed, hended, ← hnext,
      ih hrest hsafeRest, List.append_assoc, List.singleton_append]

lemma run_front (hr : Ready r) (hsafe : ∀ field ∈ front, d.Safe quotes field) : ∃ s, Ready s ∧ s.rows = r.rows ∧
    s.row = r.row ++ front ∧
      d.run r (d.writeRow quotes (front ++ field :: back)) = d.run s (d.writeRow quotes (field :: back)) := by
  induction front generalizing r with
  | nil => exact ⟨r, hr, rfl, (List.append_nil _).symm, rfl⟩
  | cons old front ih =>
    obtain ⟨hold, hrest⟩ := List.forall_mem_cons.mp hsafe
    obtain ⟨t, ht, hread⟩ := run_field hr hold
    obtain ⟨s, hs, hrows, hrow, hrun⟩ := ih (r := t.endField) ⟨rfl, .inl rfl⟩ hrest
    obtain ⟨next, later, hnext⟩ : ∃ next later, front ++ field :: back = next :: later := by
      cases front with
      | nil => exact ⟨field, back, rfl⟩
      | cons next front => exact ⟨next, front ++ field :: back, rfl⟩
    refine ⟨s, hs, hrows.trans hread.rows, ?_, ?_⟩
    · rw [hrow, Reader.endField, hread.before, hread.read, List.append_assoc, List.singleton_append]
    · rw [List.cons_append, hnext, writeRow_cons, run_append, ht, Option.bind_some, run_append, run_cons,
        step_separator hread.closed, ← hnext]
      exact hrun

lemma run_early (hr : Ready r) (hfirst : ∀ c ∈ first, d.Plain c) (hc : c = d.separator ∨ c = d.return_ ∨ c = d.feed)
    (hrun : d.run r (first ++ c :: rest) = some s) : Began r.rows (r.row ++ [first]) s := by
  obtain ⟨t, ht, hread⟩ := run_plain_field hr hfirst
  have hrecord (cr : Bool) : Began r.rows (r.row ++ [first]) (t.endRecord cr) := by
    refine .inr ⟨t.row ++ [t.field], ?_, ?_⟩
    · rw [hread.before, hread.read]
    · rw [Reader.endRecord, hread.rows]
  rw [run_append, ht, Option.bind_some, run_cons] at hrun
  rcases hc with rfl | rfl | rfl
  · rw [step_separator hread.closed] at hrun
    have hbegan : Began r.rows (r.row ++ [first]) t.endField := by
      refine .inl ⟨hread.rows, ?_, nofun⟩
      rw [Reader.endField, hread.before, hread.read]
    exact hbegan.run hrun
  · rw [step_return hread.closed] at hrun
    exact (hrecord true).run hrun
  · rw [step_feed hread.closed] at hrun
    exact (hrecord false).run hrun

end Unsafe

theorem read_write_iff {rows : List (List (List α))} (hquote : ∀ field, quotes field = false → d.quote ∉ field)
    (hrows : rows ≠ []) (hfull : ∀ row ∈ rows, row ≠ [] ∧ row ≠ [[]]) :
    d.read (d.write quotes rows) = some rows ↔ ∀ row ∈ rows, ∀ field ∈ row, d.Safe quotes field := by
  refine ⟨fun hread => ?_, read_write hrows hfull⟩
  by_contra hunsafe
  obtain ⟨before, row, after, rfl, hbefore, hrow⟩ := exists_first hunsafe
  obtain ⟨front, field, back, rfl, hfront, hfield⟩ := exists_first hrow
  obtain ⟨hunquoted, hsymbol⟩ := not_or.mp hfield
  obtain ⟨first, c, last, rfl, hfirst, hc⟩ := exists_first hsymbol
  rw [Bool.not_eq_true] at hunquoted
  have hnoquote : c ≠ d.quote := fun heq => hquote _ hunquoted (heq ▸ List.mem_append_right _ List.mem_cons_self)
  have hends : c = d.separator ∨ c = d.return_ ∨ c = d.feed := by
    by_contra hother
    simp only [not_or] at hother
    exact hc ⟨hother.1, hnoquote, hother.2.1, hother.2.2⟩
  have hfullBefore : ∀ row ∈ before, row ≠ [] := fun row hmem => (hfull row (List.mem_append_left _ hmem)).1
  obtain ⟨tail, htail⟩ : ∃ tail, d.write quotes ((front ++ (first ++ c :: last) :: back) :: after) =
      d.writeRow quotes (front ++ (first ++ c :: last) :: back) ++ tail := by
    cases after with
    | nil => exact ⟨[], by simp [write]⟩
    | cons next after => exact ⟨_, write_cons ..⟩
  obtain ⟨rest, hrest⟩ : ∃ rest, d.writeRow quotes ((first ++ c :: last) :: back) = (first ++ c :: last) ++ rest := by
    have hescape : d.escape quotes (first ++ c :: last) = first ++ c :: last := if_neg (by simp [hunquoted])
    cases back with
    | nil => exact ⟨[], by simp [writeRow, hescape]⟩
    | cons next back => exact ⟨_, by rw [writeRow_cons, hescape]⟩
  have hstart : Ready ({ rows := before } : Reader α) := ⟨rfl, .inr rfl⟩
  obtain ⟨s, hs, hsrows, hsrow, hrun⟩ : ∃ s, Ready s ∧ s.rows = before ∧ s.row = [] ++ front ∧
      d.run { rows := before } (d.writeRow quotes (front ++ (first ++ c :: last) :: back)) =
        d.run s (d.writeRow quotes ((first ++ c :: last) :: back)) := run_front hstart hfront
  rw [read, run_before hfullBefore hbefore, List.nil_append, htail, run_append, hrun, hrest] at hread
  obtain ⟨t, ht, hfinish⟩ := Option.bind_eq_some_iff.mp hread
  obtain ⟨u, hu, hend⟩ := Option.bind_eq_some_iff.mp ht
  rw [List.append_assoc, List.cons_append] at hu
  have hbegan : Began before (front ++ [first]) t := by
    have hearly := (run_early hs hfirst hends hu).run hend
    rwa [hsrows, hsrow, List.nil_append] at hearly
  obtain ⟨row', hfrontRow, later, hlater⟩ := hbegan.finish hfinish
  rw [List.append_assoc, List.singleton_append] at hlater
  obtain ⟨rfl, -⟩ := List.cons.inj (List.append_cancel_left hlater)
  rw [List.prefix_append_right_inj, List.cons_prefix_cons] at hfrontRow
  have hlength := congrArg List.length hfrontRow.1
  rw [List.length_append, List.length_cons] at hlength
  omega

end Dialect

end DelimitedText
