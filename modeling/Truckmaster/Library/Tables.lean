import Mathlib.Data.List.Nodup
import Mathlib.Data.List.Sort
import Mathlib.Tactic

/-! Tables with a primary key, and queries whose rows come back in an order the database chooses. -/

namespace Tables

structure RowOrder where
  arrange : {α : Type} → List α → List α
  perm : ∀ {α : Type} (rows : List α), (arrange rows).Perm rows

namespace RowOrder

def stored : RowOrder := ⟨id, fun _ => .rfl⟩

def reversed : RowOrder := ⟨List.reverse, List.reverse_perm⟩

open Classical in
lemma exists_arrange {β : Type} {rows arranged : List β} (h : arranged.Perm rows) :
    ∃ o : RowOrder, o.arrange rows = arranged := by
  refine ⟨⟨fun {α} given => if e : β = α then
      if given = cast (congrArg List e) rows then cast (congrArg List e) arranged else given
    else given, ?_⟩, ?_⟩
  · intro α given
    by_cases e : β = α
    · subst e
      simp only [dite_true, cast_eq]
      by_cases hgiven : given = rows
      · rw [if_pos hgiven, hgiven]
        exact h
      · rw [if_neg hgiven]
    · rw [dif_neg e]
  · dsimp only
    rw [dif_pos rfl]
    exact if_pos rfl

end RowOrder

variable {α κ ρ : Type}

def findMany (o : RowOrder) (p : α → Bool) (rows : List α) : List α := o.arrange (rows.filter p)

def findFirst (o : RowOrder) (p : α → Bool) (rows : List α) : Option α := (findMany o p rows).head?

def findManyBy (o : RowOrder) (p : α → Bool) (r : α → α → Prop) [DecidableRel r] (rows : List α) : List α :=
  (findMany o p rows).insertionSort r

def findFirstBy (o : RowOrder) (p : α → Bool) (r : α → α → Prop) [DecidableRel r] (rows : List α) :
    Option α := ((findMany o p rows).insertionSort r).head?

lemma findMany_perm (o : RowOrder) (p : α → Bool) (rows : List α) :
    (findMany o p rows).Perm (rows.filter p) := o.perm _

@[simp] lemma mem_findMany {o : RowOrder} {p : α → Bool} {rows : List α} {a : α} :
    a ∈ findMany o p rows ↔ a ∈ rows ∧ p a = true := by
  rw [(findMany_perm o p rows).mem_iff, List.mem_filter]

lemma findFirst_some {o : RowOrder} {p : α → Bool} {rows : List α} {a : α}
    (h : findFirst o p rows = some a) : a ∈ rows ∧ p a = true :=
  mem_findMany.mp (List.mem_of_mem_head? h)

lemma findFirst_none {o : RowOrder} {p : α → Bool} {rows : List α} :
    findFirst o p rows = none ↔ ∀ a ∈ rows, p a = false := by
  rw [findFirst, List.head?_eq_none_iff, List.eq_nil_iff_forall_not_mem]
  simp

lemma findFirstBy_some {o : RowOrder} {p : α → Bool} {r : α → α → Prop} [DecidableRel r] [Std.Total r]
    [IsTrans α r] {rows : List α} {a : α} (h : findFirstBy o p r rows = some a) :
    a ∈ rows ∧ p a = true ∧ ∀ b ∈ rows, p b = true → r a b := by
  have hmem (b : α) : b ∈ (findMany o p rows).insertionSort r ↔ b ∈ rows ∧ p b = true := by
    rw [(List.perm_insertionSort r _).mem_iff, mem_findMany]
  obtain ⟨rest, hsplit⟩ := List.head?_eq_some_iff.mp h
  have hsorted : (a :: rest).Pairwise r := hsplit ▸ List.pairwise_insertionSort r _
  rw [hsplit] at hmem
  obtain ⟨ha, hpa⟩ := (hmem a).mp List.mem_cons_self
  refine ⟨ha, hpa, fun b hb hpb => ?_⟩
  rcases List.mem_cons.mp ((hmem b).mpr ⟨hb, hpb⟩) with rfl | hrest
  · exact (Std.Total.total b b).elim id id
  · exact (List.pairwise_cons.mp hsorted).1 b hrest

lemma findFirstBy_none {o : RowOrder} {p : α → Bool} {r : α → α → Prop} [DecidableRel r] {rows : List α} :
    findFirstBy o p r rows = none ↔ ∀ a ∈ rows, p a = false := by
  rw [← findFirst_none (o := o), findFirst, findFirstBy, List.head?_eq_none_iff, List.head?_eq_none_iff]
  constructor
  · intro h
    exact ((List.perm_insertionSort r _).symm.trans (h ▸ .rfl)).eq_nil
  · intro h
    rw [h, List.insertionSort_nil]

section FirstHit

variable {p f : α → Bool} {rows : List α}

lemma find_of_unique (h : ∀ a ∈ rows, ∀ b ∈ rows, p a = true → f a = true → p b = true → f b = true → a = b)
    (o : RowOrder) {a : α} : (findMany o p rows).find? f = some a ↔ a ∈ rows ∧ p a = true ∧ f a = true := by
  constructor
  · intro hfind
    obtain ⟨hmem, hpa⟩ := mem_findMany.mp (List.mem_of_find?_eq_some hfind)
    exact ⟨hmem, hpa, List.find?_some hfind⟩
  · rintro ⟨hmem, hpa, hfa⟩
    have hfound : ((findMany o p rows).find? f).isSome :=
      List.find?_isSome.mpr ⟨a, mem_findMany.mpr ⟨hmem, hpa⟩, hfa⟩
    obtain ⟨b, hb⟩ := Option.isSome_iff_exists.mp hfound
    obtain ⟨hbmem, hpb⟩ := mem_findMany.mp (List.mem_of_find?_eq_some hb)
    rw [hb, h b hbmem a hmem hpb (List.find?_some hb) hpa hfa]

/-- The first hit is the same for every order of the rows just where there is at most one hit. -/
lemma first_hit_free_iff {g : α → κ} (hg : (rows.map g).Nodup) :
    (∀ o o', ((findMany o p rows).find? f).map g = ((findMany o' p rows).find? f).map g) ↔
      ∀ a ∈ rows, ∀ b ∈ rows, p a = true → f a = true → p b = true → f b = true → a = b := by
  constructor
  · intro hsame a ha b hb hpa hfa hpb hfb
    have hends := hsame .stored .reversed
    have hhits : (((rows.filter p).filter f).map g).Nodup :=
      hg.sublist ((List.filter_sublist.trans List.filter_sublist).map g)
    simp only [findMany, RowOrder.stored, RowOrder.reversed, id, ← List.head?_filter, List.filter_reverse] at hends
    have hmem (c : α) (hc : c ∈ rows) (hpc : p c = true) (hfc : f c = true) : c ∈ (rows.filter p).filter f :=
      List.mem_filter.mpr ⟨List.mem_filter.mpr ⟨hc, hpc⟩, hfc⟩
    have haHit := hmem a ha hpa hfa
    have hbHit := hmem b hb hpb hfb
    generalize (rows.filter p).filter f = hits at hends hhits haHit hbHit
    match hits with
    | [] => exact absurd haHit List.not_mem_nil
    | [c] => rw [List.mem_singleton.mp haHit, List.mem_singleton.mp hbHit]
    | c :: d :: rest =>
      have hlast : (c :: d :: rest).reverse.head? = some ((d :: rest).getLast (List.cons_ne_nil d rest)) := by
        rw [List.head?_reverse, List.getLast?_cons_cons, List.getLast?_eq_getLast_of_ne_nil (List.cons_ne_nil d rest)]
      rw [hlast, List.head?_cons, Option.map_some, Option.map_some, Option.some.injEq] at hends
      rw [List.map_cons, List.nodup_cons, hends] at hhits
      exact absurd (List.mem_map_of_mem (List.getLast_mem _)) hhits.1
  · intro hunique o o'
    have hfind : (findMany o p rows).find? f = (findMany o' p rows).find? f :=
      Option.ext (fun a => (find_of_unique hunique o).trans (find_of_unique hunique o').symm)
    rw [hfind]

end FirstHit

/-- An answer that the database may give to an ordered query. -/
def Answer (p : α → Bool) (r : α → α → Prop) (rows answer : List α) : Prop :=
  answer.Perm (rows.filter p) ∧ answer.Pairwise r

lemma findManyBy_answer (o : RowOrder) (p : α → Bool) (r : α → α → Prop) [DecidableRel r] [Std.Total r] [IsTrans α r]
    (rows : List α) : Answer p r rows (findManyBy o p r rows) :=
  ⟨(List.perm_insertionSort r _).trans (findMany_perm o p rows), List.pairwise_insertionSort r _⟩

section Answers

variable {p : α → Bool} {r : α → α → Prop} {rows rows' answer : List α}

lemma Answer.mem_iff (h : Answer p r rows answer) {a : α} : a ∈ answer ↔ a ∈ rows ∧ p a = true := by
  rw [h.1.mem_iff, List.mem_filter]

lemma answer_congr (hrows : rows'.filter p = rows.filter p) : Answer p r rows' answer ↔ Answer p r rows answer := by
  rw [Answer, Answer, hrows]

lemma Answer.keep (h : Answer p r rows answer) {keep : α → Bool}
    (hrows : rows'.filter p = (rows.filter p).filter keep) : Answer p r rows' (answer.filter keep) :=
  ⟨hrows ▸ h.1.filter keep, h.2.filter keep⟩

lemma Answer.enter (h : Answer p r rows answer) {new : α} (hrows : rows'.filter p = rows.filter p ++ [new])
    (hnew : ∀ a ∈ rows, r new a) : Answer p r rows' (new :: answer) := by
  refine ⟨?_, List.pairwise_cons.mpr ⟨fun a ha => hnew a (h.mem_iff.mp ha).1, h.2⟩⟩
  rw [hrows]
  exact (h.1.cons new).trans (List.perm_append_singleton new _).symm

lemma Answer.map (h : Answer p r rows answer) {f : α → α} (hp : ∀ a, p (f a) = p a)
    (hr : ∀ a b, r a b → r (f a) (f b)) : Answer p r (rows.map f) (answer.map f) := by
  refine ⟨?_, h.2.map f (fun a b => hr a b)⟩
  rw [List.filter_map, show p ∘ f = p from funext hp]
  exact h.1.map f

lemma answer_iff_permutations :
    Answer p r rows answer ↔ answer ∈ (rows.filter p).permutations' ∧ answer.Pairwise r := by
  rw [List.mem_permutations', Answer]

instance [DecidableRel r] {P : List α → Prop} [DecidablePred P] :
    Decidable (∀ answer, Answer p r rows answer → P answer) :=
  decidable_of_iff (∀ answer ∈ (rows.filter p).permutations', answer.Pairwise r → P answer)
    (forall_congr' (fun _ => by rw [answer_iff_permutations, and_imp]))

instance [DecidableRel r] {P : List α → Prop} [DecidablePred P] :
    Decidable (∃ answer, Answer p r rows answer ∧ P answer) :=
  decidable_of_iff (∃ answer ∈ (rows.filter p).permutations', answer.Pairwise r ∧ P answer)
    (exists_congr (fun _ => by rw [answer_iff_permutations, and_assoc]))

end Answers

structure Table (key : ρ → κ) where
  rows : List ρ
  nodup : (rows.map key).Nodup

namespace Table

variable {key : ρ → κ}

def empty : Table key := ⟨[], List.nodup_nil⟩

lemma eq_of_key (t : Table key) {a b : ρ} (ha : a ∈ t.rows) (hb : b ∈ t.rows) (h : key a = key b) : a = b :=
  List.inj_on_of_nodup_map t.nodup ha hb h

lemma eq_of_keys (t : Table key) {l l' : List ρ} (hl : ∀ a ∈ l, a ∈ t.rows) (hl' : ∀ a ∈ l', a ∈ t.rows)
    (h : l.map key = l'.map key) : l = l' := by
  induction l generalizing l' with
  | nil => exact (List.map_eq_nil_iff.mp h.symm).symm
  | cons a l ih =>
    cases l' with
    | nil => cases h
    | cons b l' =>
      obtain ⟨hkey, hrest⟩ := List.cons.inj h
      obtain ⟨ha, hl⟩ := List.forall_mem_cons.mp hl
      obtain ⟨hb, hl'⟩ := List.forall_mem_cons.mp hl'
      rw [t.eq_of_key ha hb hkey, ih hl hl' hrest]

lemma eq_of_rows {t t' : Table key} (h : t.rows = t'.rows) : t = t' := by
  cases t
  cases t'
  cases h
  rfl

variable [DecidableEq κ]

def get (t : Table key) (k : κ) : Option ρ := t.rows.find? (fun a => decide (key a = k))

lemma get_eq_some {t : Table key} {k : κ} {a : ρ} : t.get k = some a ↔ a ∈ t.rows ∧ key a = k := by
  constructor
  · intro h
    exact ⟨List.mem_of_find?_eq_some h, by simpa using List.find?_some h⟩
  · rintro ⟨ha, rfl⟩
    have hfound : (t.get (key a)).isSome := List.find?_isSome.mpr ⟨a, ha, decide_eq_true rfl⟩
    obtain ⟨b, hb⟩ := Option.isSome_iff_exists.mp hfound
    rw [hb, t.eq_of_key (List.mem_of_find?_eq_some hb) ha (by simpa using List.find?_some hb)]

def insert (t : Table key) (a : ρ) : Option (Table key) :=
  if h : key a ∈ t.rows.map key then none
  else some ⟨t.rows ++ [a], by
    rw [List.map_append]
    exact t.nodup.append (List.nodup_singleton _) (by simpa using h)⟩

def edit (t : Table key) (p : κ → Bool) (f : ρ → ρ) (hf : ∀ a, key (f a) = key a) : Table key where
  rows := t.rows.map (fun a => if p (key a) then f a else a)
  nodup := by
    have hk : (t.rows.map (fun a => if p (key a) then f a else a)).map key = t.rows.map key := by
      rw [List.map_map]
      apply List.map_congr_left
      intro a _
      by_cases h : p (key a) = true <;> simp [h, hf]
    rw [hk]
    exact t.nodup

def update (t : Table key) (k : κ) (f : ρ → ρ) (hf : ∀ a, key (f a) = key a) : Table key :=
  t.edit (fun j => decide (j = k)) f hf

lemma insert_rows {t t' : Table key} {a : ρ} (h : t.insert a = some t') :
    t'.rows = t.rows ++ [a] := by
  unfold insert at h
  split at h
  · cases h
  · exact (congrArg rows (Option.some.inj h)).symm

lemma insert_of_new {t : Table key} {a : ρ} (h : key a ∉ t.rows.map key) :
    ∃ t', t.insert a = some t' ∧ t'.rows = t.rows ++ [a] := by
  have hsome : ∃ t', t.insert a = some t' := ⟨_, dif_neg h⟩
  obtain ⟨t', ht'⟩ := hsome
  exact ⟨t', ht', insert_rows ht'⟩

lemma get_insert {t t' : Table key} {a : ρ} (h : t.insert a = some t') (k : κ) :
    t'.get k = if k = key a then some a else t.get k := by
  have hnew : key a ∉ t.rows.map key := by
    intro hold
    rw [insert, dif_pos hold] at h
    cases h
  split_ifs with hk
  · exact get_eq_some.mpr ⟨insert_rows h ▸ List.mem_append_right _ (List.mem_singleton.mpr rfl), hk.symm⟩
  · rw [get, insert_rows h, List.find?_append, List.find?_cons_of_neg (by simpa using Ne.symm hk), List.find?_nil,
      Option.or_none, get]

lemma get_eq_none {t : Table key} {k : κ} : t.get k = none ↔ k ∉ t.rows.map key := by
  simp [get, List.find?_eq_none]

lemma update_rows (t : Table key) (k : κ) (f : ρ → ρ) (hf : ∀ a, key (f a) = key a) :
    (t.update k f hf).rows = t.rows.map (fun a => if key a = k then f a else a) := by
  simp [update, edit]

lemma mem_update (t : Table key) (k : κ) (f : ρ → ρ) (hf : ∀ a, key (f a) = key a) {b : ρ} :
    b ∈ (t.update k f hf).rows ↔
      (∃ a ∈ t.rows, key a = k ∧ f a = b) ∨ (b ∈ t.rows ∧ key b ≠ k) := by
  rw [update_rows, List.mem_map]
  constructor
  · rintro ⟨a, ha, rfl⟩
    by_cases h : key a = k
    · exact Or.inl ⟨a, ha, h, (if_pos h).symm⟩
    · rw [if_neg h]
      exact Or.inr ⟨ha, h⟩
  · rintro (⟨a, ha, hk, rfl⟩ | ⟨hb, hk⟩)
    · exact ⟨a, ha, if_pos hk⟩
    · exact ⟨b, hb, if_neg hk⟩

lemma update_same (t : Table key) (k : κ) (f : ρ → ρ) (hf : ∀ a, key (f a) = key a)
    (hsame : ∀ a, t.get k = some a → f a = a) : t.update k f hf = t := by
  apply eq_of_rows
  rw [update_rows]
  refine (List.map_congr_left (fun a ha => ?_)).trans (List.map_id _)
  split_ifs with hk
  · exact hsame a (get_eq_some.mpr ⟨ha, hk⟩)
  · rfl

lemma get_update (t : Table key) (j k : κ) (f : ρ → ρ) (hf : ∀ a, key (f a) = key a) :
    (t.update k f hf).get j = if j = k then (t.get j).map f else t.get j := by
  have hpush : (t.update k f hf).get j = (t.get j).map (fun a => if key a = k then f a else a) := by
    rw [get, update_rows, List.find?_map, get]
    congr 2
    funext a
    simp only [Function.comp_apply]
    split_ifs
    · rw [hf]
    · rfl
  rw [hpush]
  cases hget : t.get j with
  | none => simp
  | some a =>
    obtain ⟨_, rfl⟩ := get_eq_some.mp hget
    split_ifs with h <;> simp [h]

lemma update_split (t : Table key) {a : ρ} (ha : a ∈ t.rows) (f : ρ → ρ) (hf : ∀ a, key (f a) = key a) :
    ∃ front back, t.rows = front ++ a :: back ∧ (t.update (key a) f hf).rows = front ++ f a :: back := by
  obtain ⟨front, back, hsplit⟩ := List.append_of_mem ha
  have hnodup := t.nodup
  rw [hsplit, List.map_append, List.map_cons, List.nodup_middle, List.nodup_cons] at hnodup
  have hkeep : ∀ b ∈ front ++ back, (if key b = key a then f b else b) = b := by
    intro b hb
    refine if_neg (fun hk => hnodup.1 ?_)
    rw [← List.map_append, ← hk]
    exact List.mem_map_of_mem hb
  refine ⟨front, back, hsplit, ?_⟩
  rw [update_rows, hsplit, List.map_append, List.map_cons, if_pos rfl]
  congr 1
  · exact (List.map_congr_left (fun b hb => hkeep b (List.mem_append_left _ hb))).trans (List.map_id _)
  · congr 1
    exact (List.map_congr_left (fun b hb => hkeep b (List.mem_append_right _ hb))).trans (List.map_id _)

lemma filter_key_ne (t : Table key) {a : ρ} {front back : List ρ} (h : t.rows = front ++ a :: back) :
    t.rows.filter (fun b => !(key b == key a)) = front ++ back := by
  have hnodup := t.nodup
  rw [h, List.map_append, List.map_cons, List.nodup_middle, List.nodup_cons, ← List.map_append] at hnodup
  have hkeep : ∀ b ∈ front ++ back, (!(key b == key a)) = true := by
    intro b hb
    simp only [Bool.not_eq_true', beq_eq_false_iff_ne]
    exact fun hk => hnodup.1 (hk ▸ List.mem_map_of_mem hb)
  rw [h, List.filter_append, List.filter_cons_of_neg (by simp), ← List.filter_append, List.filter_eq_self.mpr hkeep]

def filter (t : Table key) (p : ρ → Bool) : Table key :=
  ⟨t.rows.filter p, t.nodup.sublist (List.filter_sublist.map key)⟩

def replace (t : Table key) (b : ρ) : Table key :=
  t.update (key b) (fun a => if key a = key b then b else a) (fun a => by split_ifs with h <;> simp [h])

lemma replace_rows (t : Table key) (b : ρ) :
    (t.replace b).rows = t.rows.map (fun a => if key a = key b then b else a) := by
  rw [replace, update_rows]
  apply List.map_congr_left
  intro a _
  by_cases h : key a = key b <;> simp [h]

lemma replace_split (t : Table key) {a b : ρ} (ha : a ∈ t.rows) (h : key b = key a) :
    ∃ front back, t.rows = front ++ a :: back ∧ (t.replace b).rows = front ++ b :: back := by
  obtain ⟨front, back, hrows, hupdated⟩ :=
    t.update_split ha (fun a => if key a = key b then b else a) (fun a => by split_ifs with h <;> simp [h])
  refine ⟨front, back, hrows, ?_⟩
  rw [if_pos h.symm] at hupdated
  rw [← hupdated]
  simp only [replace, h]

lemma countP_update (t : Table key) {a : ρ} (ha : a ∈ t.rows) (f : ρ → ρ) (hf : ∀ a, key (f a) = key a) (p : ρ → Bool) :
    (t.update (key a) f hf).rows.countP p + (if p a then 1 else 0) =
      t.rows.countP p + (if p (f a) then 1 else 0) := by
  obtain ⟨front, back, hbefore, hafter⟩ := t.update_split ha f hf
  rw [hbefore, hafter, List.countP_append, List.countP_append, List.countP_cons, List.countP_cons]
  omega

lemma update_absent (t : Table key) {k : κ} (hk : ∀ a ∈ t.rows, key a ≠ k) (f : ρ → ρ)
    (hf : ∀ a, key (f a) = key a) : (t.update k f hf).rows = t.rows := by
  have hsame : t.rows.map (fun a => if key a = k then f a else a) = t.rows.map id :=
    List.map_congr_left (fun a ha => if_neg (hk a ha))
  rw [update_rows, hsame, List.map_id]

lemma countP_update_le_succ (t : Table key) (k : κ) (f : ρ → ρ) (hf : ∀ a, key (f a) = key a) (p : ρ → Bool) :
    (t.update k f hf).rows.countP p ≤ t.rows.countP p + 1 := by
  by_cases hk : ∃ a ∈ t.rows, key a = k
  · obtain ⟨a, ha, rfl⟩ := hk
    have hcount := t.countP_update ha f hf p
    split_ifs at hcount <;> omega
  · rw [t.update_absent (fun a ha h => hk ⟨a, ha, h⟩) f hf]
    exact Nat.le_succ _

lemma countP_update_same (t : Table key) (k : κ) (f : ρ → ρ) (hf : ∀ a, key (f a) = key a) (p : ρ → Bool)
    (hp : ∀ a, p (f a) = p a) : (t.update k f hf).rows.countP p = t.rows.countP p := by
  rw [update_rows, List.countP_map]
  refine List.countP_congr (fun a _ => ?_)
  simp only [Function.comp_apply]
  split_ifs
  · rw [hp]
  · rfl

lemma countP_update_le (t : Table key) (k : κ) (f : ρ → ρ) (hf : ∀ a, key (f a) = key a) (p : ρ → Bool)
    (hp : ∀ a, p (f a) = true → p a = true) : (t.update k f hf).rows.countP p ≤ t.rows.countP p := by
  rw [update_rows, List.countP_map]
  refine List.countP_mono_left (fun a _ h => ?_)
  simp only [Function.comp_apply] at h
  split_ifs at h with hk
  · exact hp a h
  · exact h

lemma countP_insert_le (t : Table key) (a : ρ) (p : ρ → Bool) :
    ((t.insert a).getD t).rows.countP p ≤ t.rows.countP p + 1 := by
  cases h : t.insert a with
  | none => exact Nat.le_succ _
  | some t' =>
    rw [Option.getD_some, insert_rows h, List.countP_append, List.countP_singleton]
    split <;> omega

end Table

end Tables
