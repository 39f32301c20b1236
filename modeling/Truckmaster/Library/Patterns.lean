import Mathlib.Data.List.Basic
import Mathlib.Logic.Function.Basic
import Mathlib.Tactic

/-! Regular expressions that match by backtracking: the matches of a pattern, in the order in which they are tried. -/

namespace Patterns

inductive Pattern
  | empty
  | one (p : Char → Bool)
  | seq (a b : Pattern)
  | alt (a b : Pattern)
  /-- `least` times, and then as often as possible, up to `more` further times. -/
  | many (least : ℕ) (more : Option ℕ) (a : Pattern)
  | group (n : ℕ) (a : Pattern)
  | start
  | stop
  | boundary

/-- A place in a text, what is before it in reverse, and what the groups have captured. -/
structure Cursor where
  before : List Char
  after : List Char
  groups : ℕ → Option (List Char)

def isWord (c : Char) : Bool := c.isAlphanum || c == '_'

namespace Cursor

def atStart (text : List Char) : Cursor := ⟨[], text, fun _ => none⟩

def step (c : Cursor) (ch : Char) (rest : List Char) : Cursor := { c with before := ch :: c.before, after := rest }

def between (c d : Cursor) : List Char := c.after.take (c.after.length - d.after.length)

def capture (c d : Cursor) (n : ℕ) : Cursor := { d with groups := Function.update d.groups n (some (c.between d)) }

def group (c : Cursor) (n : ℕ) : Option String := (c.groups n).map String.ofList

def rest (c : Cursor) : String := String.ofList c.after

end Cursor

section Repeats

variable (run : Cursor → List Cursor)

/-- An optional repetition has to read something. -/
def upTo : ℕ → Cursor → List Cursor
  | 0, c => [c]
  | more + 1, c => ((run c).filter (fun d => d.after.length < c.after.length)).flatMap (upTo more) ++ [c]

def exactly (rest : Cursor → List Cursor) : ℕ → Cursor → List Cursor
  | 0, c => rest c
  | least + 1, c => (run c).flatMap (exactly rest least)

end Repeats

namespace Pattern

def runs : Pattern → Cursor → List Cursor
  | empty, c => [c]
  | one p, c => match c.after with
    | [] => []
    | ch :: rest => if p ch then [c.step ch rest] else []
  | seq a b, c => (runs a c).flatMap (runs b)
  | alt a b, c => runs a c ++ runs b c
  | many least more a, c => exactly (runs a) (upTo (runs a) (more.getD c.after.length)) least c
  | group n a, c => (runs a c).map (fun d => c.capture d n)
  | start, c => if c.before = [] then [c] else []
  | stop, c => if c.after = [] then [c] else []
  | boundary, c => if (c.before.head?.any isWord) = (c.after.head?.any isWord) then [] else [c]

def search (p : Pattern) : List Char → List Char → Option Cursor
  | before, [] => (p.runs ⟨before, [], fun _ => none⟩).head?
  | before, ch :: after => (p.runs ⟨before, ch :: after, fun _ => none⟩).head?.or (search p (ch :: before) after)

def exec (p : Pattern) (s : String) : Option Cursor := p.search [] s.toList

def test (p : Pattern) (s : String) : Bool := (p.exec s).isSome

def all (ps : List Pattern) : Pattern := ps.foldr seq empty

def any (p : Pattern) (ps : List Pattern) : Pattern := ps.foldl alt p

def opt (p : Pattern) : Pattern := many 0 (some 1) p

def star (p : Pattern) : Pattern := many 0 none p

def plus (p : Pattern) : Pattern := many 1 none p

def char (c : Char) : Pattern := one (fun d => d == c)

def word (s : String) : Pattern := all (s.toList.map (fun c => one (fun d => d.toUpper == c.toUpper)))

def digit : Pattern := one Char.isDigit

/-- Any character but the ends of lines. -/
def dot : Pattern := one (fun c => !([0xA, 0xD, 0x2028, 0x2029].contains c.toNat))

def names : Pattern → List ℕ
  | seq a b => names a ++ names b
  | alt a b => names a ++ names b
  | many _ _ a => names a
  | group n a => n :: names a
  | _ => []

def shortest : Pattern → ℕ
  | one _ => 1
  | seq a b => shortest a + shortest b
  | alt a b => min (shortest a) (shortest b)
  | many least _ a => least * shortest a
  | group _ a => shortest a
  | _ => 0

end Pattern

section Runs

open Pattern

variable {p a b : Pattern} {c d m : Cursor} {run : Cursor → List Cursor} {n least more : ℕ} {q : Char → Bool}

@[simp] lemma mem_runs_empty : d ∈ empty.runs c ↔ d = c := List.mem_singleton

@[simp] lemma mem_runs_one : d ∈ (one q).runs c ↔ ∃ ch rest, c.after = ch :: rest ∧ q ch = true ∧ d = c.step ch rest := by
  rw [runs]
  cases hafter : c.after with
  | nil => simp
  | cons ch rest =>
    by_cases hq : q ch = true
    · simp [hq]
    · simp [hq]

@[simp] lemma mem_runs_seq : d ∈ (a.seq b).runs c ↔ ∃ m ∈ a.runs c, d ∈ b.runs m := List.mem_flatMap

@[simp] lemma mem_runs_alt : d ∈ (a.alt b).runs c ↔ d ∈ a.runs c ∨ d ∈ b.runs c := List.mem_append

@[simp] lemma mem_runs_group : d ∈ (a.group n).runs c ↔ ∃ m ∈ a.runs c, c.capture m n = d := List.mem_map

@[simp] lemma mem_runs_start : d ∈ start.runs c ↔ c.before = [] ∧ d = c := by
  rw [runs]
  split_ifs with h <;> simp [h]

@[simp] lemma mem_runs_stop : d ∈ stop.runs c ↔ c.after = [] ∧ d = c := by
  rw [runs]
  split_ifs with h <;> simp [h]

lemma upTo_rel {R : Cursor → Cursor → Prop} (hrefl : ∀ c, R c c) (htrans : ∀ c m d, R c m → R m d → R c d)
    (hrun : ∀ c d, d ∈ run c → R c d) (h : d ∈ upTo run more c) : R c d := by
  induction more generalizing c with
  | zero => exact List.mem_singleton.mp h ▸ hrefl c
  | succ more ih =>
    rcases List.mem_append.mp h with h | h
    · obtain ⟨m, hm, hd⟩ := List.mem_flatMap.mp h
      exact htrans c m d (hrun c m (List.mem_of_mem_filter hm)) (ih hd)
    · exact List.mem_singleton.mp h ▸ hrefl c

lemma exactly_rel {R : Cursor → Cursor → Prop} {rest : Cursor → List Cursor} (htrans : ∀ c m d, R c m → R m d → R c d)
    (hrun : ∀ c d, d ∈ run c → R c d) (hrest : ∀ c d, d ∈ rest c → R c d) (h : d ∈ exactly run rest least c) : R c d := by
  induction least generalizing c with
  | zero => exact hrest c d h
  | succ least ih =>
    obtain ⟨m, hm, hd⟩ := List.mem_flatMap.mp h
    exact htrans c m d (hrun c m hm) (ih hd)

lemma many_rel {R : Cursor → Cursor → Prop} {more : Option ℕ} (hrefl : ∀ c, R c c)
    (htrans : ∀ c m d, R c m → R m d → R c d) (hrun : ∀ c d, d ∈ a.runs c → R c d)
    (h : d ∈ (many least more a).runs c) : R c d :=
  exactly_rel htrans hrun (fun _ _ hd => upTo_rel hrefl htrans hrun hd) h

structure Reads (taken : List Char) (c d : Cursor) : Prop where
  after : c.after = taken ++ d.after
  before : d.before = taken.reverse ++ c.before

lemma Reads.refl (c : Cursor) : Reads [] c c := ⟨rfl, rfl⟩

lemma Reads.trans {s t : List Char} (h : Reads s c m) (h' : Reads t m d) : Reads (s ++ t) c d :=
  ⟨by rw [h.after, h'.after, List.append_assoc], by rw [h'.before, h.before, List.reverse_append, List.append_assoc]⟩

lemma Reads.between {taken : List Char} (h : Reads taken c d) : c.between d = taken := by
  rw [Cursor.between, h.after, List.length_append, Nat.add_sub_cancel, List.take_left]

lemma runs_reads (h : d ∈ p.runs c) : ∃ taken, Reads taken c d := by
  induction p generalizing c d with
  | empty => exact ⟨[], mem_runs_empty.mp h ▸ .refl c⟩
  | one q =>
    obtain ⟨ch, rest, hafter, _, rfl⟩ := mem_runs_one.mp h
    exact ⟨[ch], hafter, rfl⟩
  | seq a b iha ihb =>
    obtain ⟨m, hm, hd⟩ := mem_runs_seq.mp h
    obtain ⟨s, hs⟩ := iha hm
    obtain ⟨t, ht⟩ := ihb hd
    exact ⟨s ++ t, hs.trans ht⟩
  | alt a b iha ihb => exact (mem_runs_alt.mp h).elim iha ihb
  | many least more a ih =>
    refine many_rel (fun c => ⟨[], .refl c⟩) ?_ (fun _ _ hd => ih hd) h
    rintro c m d ⟨s, hs⟩ ⟨t, ht⟩
    exact ⟨s ++ t, hs.trans ht⟩
  | group n a ih =>
    obtain ⟨m, hm, rfl⟩ := mem_runs_group.mp h
    obtain ⟨s, hs⟩ := ih hm
    exact ⟨s, hs.after, hs.before⟩
  | start => exact ⟨[], (mem_runs_start.mp h).2 ▸ .refl c⟩
  | stop => exact ⟨[], (mem_runs_stop.mp h).2 ▸ .refl c⟩
  | boundary =>
    rw [runs] at h
    split_ifs at h
    · cases h
    · exact ⟨[], List.mem_singleton.mp h ▸ .refl c⟩

lemma runs_groups (hn : n ∉ p.names) (h : d ∈ p.runs c) : d.groups n = c.groups n := by
  induction p generalizing c d with
  | empty => rw [mem_runs_empty.mp h]
  | one q =>
    obtain ⟨ch, rest, _, _, rfl⟩ := mem_runs_one.mp h
    rfl
  | seq a b iha ihb =>
    obtain ⟨hna, hnb⟩ := not_or.mp (List.mem_append.not.mp hn)
    obtain ⟨m, hm, hd⟩ := mem_runs_seq.mp h
    rw [ihb hnb hd, iha hna hm]
  | alt a b iha ihb =>
    obtain ⟨hna, hnb⟩ := not_or.mp (List.mem_append.not.mp hn)
    exact (mem_runs_alt.mp h).elim (iha hna) (ihb hnb)
  | many least more a ih =>
    have hkept := many_rel (R := fun c d => d.groups n = c.groups n) (fun _ => rfl) (fun _ _ _ hm hd => hd.trans hm)
      (fun _ _ hd => ih hn hd) h
    exact hkept
  | group k a ih =>
    obtain ⟨hk, hna⟩ := not_or.mp (List.mem_cons.not.mp hn)
    obtain ⟨m, hm, rfl⟩ := mem_runs_group.mp h
    exact (Function.update_of_ne hk _ _).trans (ih hna hm)
  | start => rw [(mem_runs_start.mp h).2]
  | stop => rw [(mem_runs_stop.mp h).2]
  | boundary =>
    rw [runs] at h
    split_ifs at h
    · cases h
    · rw [List.mem_singleton.mp h]

lemma Reads.length {taken : List Char} (h : Reads taken c d) : c.after.length = taken.length + d.after.length := by
  rw [h.after, List.length_append]

lemma exactly_length {rest : Cursor → List Cursor} {k : ℕ} (hrun : ∀ c d, d ∈ run c → k + d.after.length ≤ c.after.length)
    (hrest : ∀ c d, d ∈ rest c → d.after.length ≤ c.after.length) (h : d ∈ exactly run rest least c) :
    least * k + d.after.length ≤ c.after.length := by
  induction least generalizing c with
  | zero => simpa using hrest c d h
  | succ least ih =>
    obtain ⟨m, hm, hd⟩ := List.mem_flatMap.mp h
    have hfirst := hrun c m hm
    have hothers := ih hd
    rw [Nat.succ_mul]
    omega

lemma runs_after_le (h : d ∈ p.runs c) : d.after.length ≤ c.after.length := by
  obtain ⟨taken, htaken⟩ := runs_reads h
  rw [htaken.length]
  exact Nat.le_add_left _ _

lemma runs_length (h : d ∈ p.runs c) : p.shortest + d.after.length ≤ c.after.length := by
  induction p generalizing c d with
  | one q =>
    obtain ⟨ch, rest, hafter, _, rfl⟩ := mem_runs_one.mp h
    rw [hafter, List.length_cons, Pattern.shortest, Nat.add_comm]
    exact le_rfl
  | seq a b iha ihb =>
    obtain ⟨m, hm, hd⟩ := mem_runs_seq.mp h
    have ha := iha hm
    have hb := ihb hd
    rw [Pattern.shortest]
    omega
  | alt a b iha ihb =>
    rw [Pattern.shortest]
    rcases mem_runs_alt.mp h with h | h
    · exact (Nat.add_le_add_right (Nat.min_le_left _ _) _).trans (iha h)
    · exact (Nat.add_le_add_right (Nat.min_le_right _ _) _).trans (ihb h)
  | many least more a ih =>
    refine exactly_length (fun _ _ hd => ih hd) (fun c d hd => ?_) h
    exact upTo_rel (R := fun c d => d.after.length ≤ c.after.length) (fun _ => le_rfl)
      (fun _ _ _ hm hd => hd.trans hm) (fun _ _ hd => runs_after_le hd) hd
  | group n a ih =>
    obtain ⟨m, hm, rfl⟩ := mem_runs_group.mp h
    have hlength : a.shortest + m.after.length ≤ c.after.length := ih hm
    exact hlength
  | empty => exact (Nat.zero_add _).trans_le (runs_after_le h)
  | start => exact (Nat.zero_add _).trans_le (runs_after_le h)
  | stop => exact (Nat.zero_add _).trans_le (runs_after_le h)
  | boundary => exact (Nat.zero_add _).trans_le (runs_after_le h)

lemma group_reads (h : d ∈ (group n a).runs c) : ∃ m ∈ a.runs c, ∃ taken, Reads taken c m ∧ d.groups n = some taken ∧
    d.after = m.after ∧ a.shortest ≤ taken.length := by
  obtain ⟨m, hm, rfl⟩ := mem_runs_group.mp h
  obtain ⟨taken, htaken⟩ := runs_reads hm
  refine ⟨m, hm, taken, htaken, ?_, rfl, ?_⟩
  · exact (Function.update_self _ _ _).trans (congrArg some htaken.between)
  · have hlength := runs_length hm
    have hparts := htaken.length
    omega

lemma mem_runs_all_cons {ps : List Pattern} : d ∈ (all (a :: ps)).runs c ↔ ∃ m ∈ a.runs c, d ∈ (all ps).runs m :=
  mem_runs_seq

lemma mem_runs_all_append {ps qs : List Pattern} :
    d ∈ (all (ps ++ qs)).runs c ↔ ∃ m ∈ (all ps).runs c, d ∈ (all qs).runs m := by
  induction ps generalizing c with
  | nil => exact ⟨fun h => ⟨c, mem_runs_empty.mpr rfl, h⟩, fun ⟨m, hm, h⟩ => mem_runs_empty.mp hm ▸ h⟩
  | cons p ps ih =>
    rw [List.cons_append, mem_runs_all_cons]
    constructor
    · rintro ⟨m, hm, hd⟩
      obtain ⟨m', hm', hd'⟩ := ih.mp hd
      exact ⟨m', mem_runs_all_cons.mpr ⟨m, hm, hm'⟩, hd'⟩
    · rintro ⟨m', hm', hd⟩
      obtain ⟨m, hm, hmm'⟩ := mem_runs_all_cons.mp hm'
      exact ⟨m, hm, ih.mpr ⟨m', hmm', hd⟩⟩

lemma mem_of_search {before after : List Char} (h : p.search before after = some d) :
    ∃ b s, b.reverse ++ s = before.reverse ++ after ∧ d ∈ p.runs ⟨b, s, fun _ => none⟩ := by
  induction after generalizing before with
  | nil => exact ⟨before, [], rfl, List.mem_of_mem_head? h⟩
  | cons ch after ih =>
    rcases Option.or_eq_some_iff.mp h with h | ⟨_, h⟩
    · exact ⟨before, ch :: after, rfl, List.mem_of_mem_head? h⟩
    · obtain ⟨b, s, htext, hd⟩ := ih h
      exact ⟨b, s, by rw [htext, List.reverse_cons, List.append_assoc, List.singleton_append], hd⟩

lemma mem_of_exec {s : String} (h : p.exec s = some d) :
    ∃ b r, b.reverse ++ r = s.toList ∧ d ∈ p.runs ⟨b, r, fun _ => none⟩ := mem_of_search h

lemma seq_first (h : ((a.seq b).runs c).head? = some d) : ∃ m ∈ a.runs c, (b.runs m).head? = some d := by
  rw [runs, List.head?_flatMap] at h
  exact List.exists_of_findSome?_eq_some h

lemma seq_first_of_total (hb : ∀ m, b.runs m ≠ []) (h : ((a.seq b).runs c).head? = some d) :
    ∃ m, (a.runs c).head? = some m ∧ (b.runs m).head? = some d := by
  rw [runs, List.head?_flatMap] at h
  cases hruns : a.runs c with
  | nil =>
    rw [hruns] at h
    cases h
  | cons m ms =>
    obtain ⟨e, he⟩ := Option.isSome_iff_exists.mp (List.isSome_head?.mpr (hb m))
    rw [hruns, List.findSome?_cons_of_isSome (by rw [he]; rfl)] at h
    exact ⟨m, rfl, h⟩

lemma all_append_first (ps : List Pattern) (h : ((all (ps ++ [p])).runs c).head? = some d) :
    ∃ m ∈ (all ps).runs c, (p.runs m).head? = some d := by
  induction ps generalizing c with
  | nil =>
    obtain ⟨m, hm⟩ : ∃ m, (p.runs c).head? = some m ∧ (empty.runs m).head? = some d :=
      seq_first_of_total (fun m => List.cons_ne_nil m []) h
    exact ⟨c, mem_runs_empty.mpr rfl, (Option.some.inj hm.2) ▸ hm.1⟩
  | cons a ps ih =>
    obtain ⟨m, hm, hd⟩ := seq_first h
    obtain ⟨m', hm', hd'⟩ := ih hd
    exact ⟨m', mem_runs_all_cons.mpr ⟨m, hm, hm'⟩, hd'⟩

lemma search_start_none {before after : List Char} (hbefore : before ≠ []) :
    (start.seq a).search before after = none := by
  have hnone : ∀ after, ((start.seq a).runs ⟨before, after, fun _ => none⟩).head? = none := by
    intro after
    rw [runs, runs, if_neg hbefore]
    rfl
  induction after generalizing before with
  | nil => exact hnone []
  | cons ch after ih =>
    rw [search, hnone, Option.none_or]
    exact ih (List.cons_ne_nil ch before) (fun after => by rw [runs, runs, if_neg (List.cons_ne_nil ch before)]; rfl)

lemma exec_start_first {ps : List Pattern} {s : String} (h : (all (start :: ps)).exec s = some d) :
    ((all ps).runs (Cursor.atStart s.toList)).head? = some d := by
  have hhead : ∀ text, ((start.seq (all ps)).runs ⟨[], text, fun _ => none⟩).head? =
      ((all ps).runs (Cursor.atStart text)).head? := by
    intro text
    rw [runs, runs, if_pos rfl, List.flatMap_singleton]
    rfl
  have hsearch : (start.seq (all ps)).search [] s.toList = some d := h
  cases htext : s.toList with
  | nil =>
    rw [htext, search, hhead] at hsearch
    exact hsearch
  | cons ch after =>
    rw [htext, search, hhead, search_start_none (List.cons_ne_nil ch []), Option.or_none] at hsearch
    exact hsearch

lemma mem_of_exec_start {ps : List Pattern} {s : String} (h : (all (start :: ps)).exec s = some d) :
    d ∈ (all ps).runs (Cursor.atStart s.toList) := List.mem_of_mem_head? (exec_start_first h)

lemma exec_last_group (ps : List Pattern) {s : String} (ha : 0 < a.shortest)
    (h : (all (start :: (ps ++ [group n a, stop]))).exec s = some d) :
    ∃ before taken, s.toList = before ++ taken ∧ taken ≠ [] ∧ d.groups n = some taken := by
  obtain ⟨m, hm, hd⟩ := mem_runs_all_append.mp (mem_of_exec_start h)
  obtain ⟨m', hm', hrest⟩ := mem_runs_all_cons.mp hd
  obtain ⟨e, he, hlast⟩ := mem_runs_all_cons.mp hrest
  obtain ⟨hend, rfl⟩ := mem_runs_stop.mp he
  obtain rfl := mem_runs_empty.mp hlast
  obtain ⟨before, hbefore⟩ := runs_reads hm
  obtain ⟨m'', _, taken, htaken, hgroup, hafter, hlength⟩ := group_reads hm'
  refine ⟨before, taken, ?_, List.ne_nil_of_length_pos (ha.trans_le hlength), hgroup⟩
  have htext := hbefore.after
  rw [htaken.after, ← hafter, hend, List.append_nil] at htext
  exact htext

lemma exec_first_group {ps : List Pattern} {s : String} (ha : 0 < a.shortest) (hn : n ∉ (all ps).names)
    (h : (all (start :: group n a :: ps)).exec s = some d) :
    ∃ taken after, s.toList = taken ++ after ∧ taken ≠ [] ∧ d.groups n = some taken := by
  obtain ⟨m, hm, hd⟩ := mem_runs_all_cons.mp (mem_of_exec_start h)
  obtain ⟨m', _, taken, htaken, hgroup, _, hlength⟩ := group_reads hm
  exact ⟨taken, m'.after, htaken.after, List.ne_nil_of_length_pos (ha.trans_le hlength), (runs_groups hn hd).trans hgroup⟩

structure ReadsAll (q : Char → Bool) (taken : List Char) (c d : Cursor) : Prop extends Reads taken c d where
  chars : ∀ ch ∈ taken, q ch = true
  groups : d.groups = c.groups

lemma ReadsAll.refl (c : Cursor) : ReadsAll q [] c c := ⟨.refl c, nofun, rfl⟩

lemma ReadsAll.trans {s t : List Char} (h : ReadsAll q s c m) (h' : ReadsAll q t m d) : ReadsAll q (s ++ t) c d :=
  ⟨h.toReads.trans h'.toReads, List.forall_mem_append.mpr ⟨h.chars, h'.chars⟩, h'.groups.trans h.groups⟩

lemma readsAll_one (h : d ∈ (one q).runs c) : ∃ ch, ReadsAll q [ch] c d := by
  obtain ⟨ch, rest, hafter, hq, rfl⟩ := mem_runs_one.mp h
  exact ⟨ch, ⟨hafter, rfl⟩, List.forall_mem_singleton.mpr hq, rfl⟩

lemma upTo_ne_nil (more : ℕ) (c : Cursor) : upTo run more c ≠ [] := by
  cases more with
  | zero => exact List.cons_ne_nil c []
  | succ more => exact List.append_ne_nil_of_right_ne_nil _ (List.cons_ne_nil c [])

lemma opt_ne_nil (a : Pattern) (c : Cursor) : (opt a).runs c ≠ [] := upTo_ne_nil 1 c

lemma upTo_succ (ha : 0 < a.shortest) (more : ℕ) (c : Cursor) :
    upTo a.runs (more + 1) c = (a.runs c).flatMap (upTo a.runs more) ++ [c] := by
  have hprogress : (a.runs c).filter (fun d => d.after.length < c.after.length) = a.runs c := by
    refine List.filter_eq_self.mpr (fun e he => decide_eq_true ?_)
    have hlength := runs_length he
    omega
  rw [upTo, hprogress]

lemma upTo_one_first (h : (upTo (one q).runs more c).head? = some d) :
    ∃ taken, ReadsAll q taken c d ∧ taken.length ≤ more ∧ (d.after.takeWhile q = [] ∨ taken.length = more) := by
  induction more generalizing c with
  | zero => exact ⟨[], Option.some.inj h ▸ .refl c, le_rfl, .inr rfl⟩
  | succ more ih =>
    rw [upTo_succ (a := one q) Nat.one_pos, List.head?_append] at h
    by_cases hnext : ∃ ch rest, c.after = ch :: rest ∧ q ch = true
    · obtain ⟨ch, rest, hafter, hq⟩ := hnext
      have hrun : (one q).runs c = [c.step ch rest] := by rw [runs, hafter]; exact if_pos hq
      rw [hrun, List.flatMap_singleton] at h
      rcases Option.or_eq_some_iff.mp h with h | ⟨h, _⟩
      · obtain ⟨taken, htaken, hlength, hend⟩ := ih h
        obtain ⟨ch', hch⟩ := readsAll_one (hrun ▸ List.mem_singleton_self (c.step ch rest))
        refine ⟨[ch'] ++ taken, hch.trans htaken, ?_, hend.imp_right ?_⟩
        · simpa [Nat.add_comm] using hlength
        · simp
      · exact absurd (List.head?_eq_none_iff.mp h) (upTo_ne_nil more _)
    · have hrun : (one q).runs c = [] := by
        refine List.eq_nil_iff_forall_not_mem.mpr (fun e he => hnext ?_)
        obtain ⟨ch, rest, hafter, hq, _⟩ := mem_runs_one.mp he
        exact ⟨ch, rest, hafter, hq⟩
      rw [hrun] at h
      obtain rfl := Option.some.inj h
      refine ⟨[], .refl c, Nat.zero_le _, .inl ?_⟩
      cases hafter : c.after with
      | nil => rfl
      | cons ch rest => exact List.takeWhile_cons_of_neg (fun hq => hnext ⟨ch, rest, hafter, hq⟩)

lemma exactly_one_first {rest : Cursor → List Cursor} (h : (exactly (one q).runs rest least c).head? = some d) :
    ∃ taken m, ReadsAll q taken c m ∧ taken.length = least ∧ (rest m).head? = some d := by
  induction least generalizing c with
  | zero => exact ⟨[], c, .refl c, rfl, h⟩
  | succ least ih =>
    rw [exactly, List.head?_flatMap] at h
    obtain ⟨m, hm, hd⟩ := List.exists_of_findSome?_eq_some h
    obtain ⟨ch, hch⟩ := readsAll_one hm
    obtain ⟨taken, m', htaken, hlength, hrest⟩ := ih hd
    exact ⟨[ch] ++ taken, m', hch.trans htaken, by simp [hlength], hrest⟩

lemma many_one_first {more : Option ℕ} (h : ((many least more (one q)).runs c).head? = some d) : ∃ taken,
    ReadsAll q taken c d ∧ least ≤ taken.length ∧ (∀ k ∈ more, taken.length ≤ least + k) ∧
      (d.after.takeWhile q = [] ∨ ∃ k ∈ more, taken.length = least + k) := by
  obtain ⟨s, m, hs, hleast, hrest⟩ := exactly_one_first h
  obtain ⟨t, ht, hmore, hend⟩ := upTo_one_first hrest
  have hlength : (s ++ t).length = least + t.length := by rw [List.length_append, hleast]
  refine ⟨s ++ t, hs.trans ht, hlength ▸ Nat.le_add_right _ _, fun k hk => ?_, ?_⟩
  · rw [hk, Option.getD_some] at hmore
    exact hlength ▸ Nat.add_le_add_left hmore _
  · rcases hend with hend | hend
    · exact .inl hend
    · cases more with
      | some k => exact .inr ⟨k, rfl, hlength.trans (congrArg (least + ·) hend)⟩
      | none =>
        rw [Option.getD_none] at hend
        have hc := hs.length
        have hm := ht.length
        have hempty : d.after = [] := List.length_eq_zero_iff.mp (by omega)
        exact .inl (by rw [hempty]; rfl)

lemma opt_first (ha : 0 < a.shortest) (h : ((opt a).runs c).head? = some d) :
    (a.runs c).head? = some d ∨ a.runs c = [] ∧ d = c := by
  have hopt : (opt a).runs c = a.runs c ++ [c] :=
    (upTo_succ ha 0 c).trans (congrArg (· ++ [c]) (List.flatMap_singleton' _))
  rw [hopt, List.head?_append] at h
  rcases Option.or_eq_some_iff.mp h with h | ⟨h, heq⟩
  · exact .inl h
  · exact .inr ⟨List.head?_eq_none_iff.mp h, (Option.some.inj heq).symm⟩

end Runs

end Patterns
