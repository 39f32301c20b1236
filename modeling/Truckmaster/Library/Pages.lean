import Mathlib.Data.List.Sort
import Mathlib.Tactic

/-! Lists that are sorted after a query and returned page by page. -/

namespace Pages

variable {α : Type}

def page (n size : ℕ) (l : List α) : List α := (l.drop ((n - 1) * size)).take size

lemma page_map {β : Type} (n size : ℕ) (f : α → β) (l : List α) : page n size (l.map f) = (page n size l).map f := by
  rw [page, page, List.map_take, List.map_drop]

lemma flatten_pages_take (l : List α) (size n : ℕ) :
    ((List.range n).map (fun i => page (i + 1) size l)).flatten = l.take (n * size) := by
  induction n with
  | zero => simp
  | succ n ih =>
    rw [List.range_succ, List.map_append, List.flatten_append, ih, List.map_singleton, List.flatten_singleton, page,
      Nat.add_sub_cancel, Nat.succ_mul, List.take_add]

lemma flatten_pages {l : List α} {size n : ℕ} (h : l.length ≤ n * size) :
    ((List.range n).map (fun i => page (i + 1) size l)).flatten = l := by
  rw [flatten_pages_take, List.take_of_length_le h]

section Sorting

variable {r r' : α → α → Prop} [DecidableRel r] [DecidableRel r']

lemma orderedInsert_congr {a : α} {l : List α} (h : ∀ b ∈ l, r a b ↔ r' a b) :
    l.orderedInsert r a = l.orderedInsert r' a := by
  induction l with
  | nil => rfl
  | cons b l ih =>
    obtain ⟨hb, hrest⟩ := List.forall_mem_cons.mp h
    rw [List.orderedInsert_cons, List.orderedInsert_cons, ih hrest]
    simp only [hb]

/-- A stable sort settles ties as any finer relation that agrees with the order of the list does. -/
lemma insertionSort_congr {l : List α} (h : l.Pairwise (fun a b => r a b ↔ r' a b)) :
    l.insertionSort r = l.insertionSort r' := by
  induction l with
  | nil => rfl
  | cons a l ih =>
    obtain ⟨ha, hrest⟩ := List.pairwise_cons.mp h
    rw [List.insertionSort_cons, List.insertionSort_cons, ih hrest]
    exact orderedInsert_congr (fun b hb => ha b ((List.perm_insertionSort r' l).mem_iff.mp hb))

lemma insertionSort_eq_of_perm [Std.Total r] [IsTrans α r] {l l' : List α} (hperm : l.Perm l')
    (hantisymm : ∀ a ∈ l, ∀ b ∈ l, r a b → r b a → a = b) : l.insertionSort r = l'.insertionSort r := by
  have hsorted : (l.insertionSort r).Perm (l'.insertionSort r) :=
    (List.perm_insertionSort r l).trans (hperm.trans (List.perm_insertionSort r l').symm)
  refine hsorted.eq_of_pairwise (fun a b ha hb hab hba => ?_) (List.pairwise_insertionSort r l)
    (List.pairwise_insertionSort r l')
  exact hantisymm a ((List.perm_insertionSort r l).mem_iff.mp ha) b
    (hperm.mem_iff.mpr ((List.perm_insertionSort r l').mem_iff.mp hb)) hab hba

end Sorting

section Heads

variable {r : α → α → Prop} [DecidableRel r] {l : List α} {a : α}

lemma head_mem (h : (l.insertionSort r).head? = some a) : a ∈ l :=
  (List.perm_insertionSort r l).mem_iff.mp (List.mem_of_mem_head? h)

lemma head_first [Std.Total r] [IsTrans α r] (h : (l.insertionSort r).head? = some a) : ∀ b ∈ l, r a b := by
  intro b hb
  obtain ⟨rest, hrest⟩ := List.head?_eq_some_iff.mp h
  have hsorted := List.pairwise_insertionSort r l
  rw [hrest, List.pairwise_cons] at hsorted
  rcases List.mem_cons.mp (hrest ▸ (List.perm_insertionSort r l).mem_iff.mpr hb) with rfl | hmem
  · exact (Std.Total.total b b).elim id id
  · exact hsorted.1 b hmem

lemma head_exists (h : l ≠ []) : ∃ a, (l.insertionSort r).head? = some a := by
  cases hsort : l.insertionSort r with
  | nil => exact absurd ((List.perm_insertionSort r l).symm.trans (hsort ▸ .rfl)).eq_nil h
  | cons a rest => exact ⟨a, rfl⟩

lemma head_split [Std.Total r] [IsTrans α r] (h : (l.insertionSort r).head? = some a) :
    ∃ front back, l = front ++ a :: back ∧ (∀ b ∈ back, r a b) ∧ ∀ b ∈ front, ¬ r b a := by
  induction l generalizing a with
  | nil => cases h
  | cons c l ih =>
    cases hsort : l.insertionSort r with
    | nil =>
      have hnil : l = [] := ((List.perm_insertionSort r l).symm.trans (hsort ▸ .rfl)).eq_nil
      subst hnil
      obtain rfl := Option.some.inj h
      exact ⟨[], [], rfl, nofun, nofun⟩
    | cons b rest =>
      have hb : (l.insertionSort r).head? = some b := by rw [hsort, List.head?_cons]
      have hleast := head_first hb
      rw [List.insertionSort_cons, hsort, List.orderedInsert_cons] at h
      split at h
      next hcb =>
        obtain rfl := Option.some.inj h
        exact ⟨[], l, rfl, fun d hd => Trans.trans hcb (hleast d hd), nofun⟩
      next hcb =>
        obtain rfl := Option.some.inj h
        obtain ⟨front, back, rfl, hback, hfront⟩ := ih hb
        exact ⟨c :: front, back, rfl, hback, List.forall_mem_cons.mpr ⟨hcb, hfront⟩⟩

lemma head_before [Std.Total r] [IsTrans α r] {b : α} {front back : List α}
    (h : (l.insertionSort r).head? = some a) (hl : l = front ++ b :: back) :
    a = b ∨ (a ∈ front ∧ r a b) ∨ a ∈ back ∧ ¬ r b a := by
  obtain ⟨front', back', hsplit, hback, hfront⟩ := head_split h
  rcases List.append_eq_append_iff.mp (hsplit.symm.trans hl) with ⟨mid, hmid, hrest⟩ | ⟨mid, hmid, hrest⟩
  · cases mid with
    | nil => exact Or.inl (List.cons.inj hrest).1
    | cons c mid =>
      obtain ⟨rfl, rfl⟩ := List.cons.inj hrest
      exact Or.inr (Or.inl ⟨hmid ▸ List.mem_append_right _ List.mem_cons_self, hback b (List.mem_append_right _ List.mem_cons_self)⟩)
  · cases mid with
    | nil => exact Or.inl (List.cons.inj hrest).1.symm
    | cons c mid =>
      obtain ⟨rfl, rfl⟩ := List.cons.inj hrest
      exact Or.inr (Or.inr ⟨List.mem_append_right _ List.mem_cons_self, hfront b (hmid ▸ List.mem_append_right _ List.mem_cons_self)⟩)

end Heads

section Listings

/-! Each page comes from a listing of its own: the rows in some order, sorted by one of several relations. -/

variable {V O : Type*} {le : V → α → α → Prop} {views : Set V} {rows l l' : List α} {listing exported : O → List α} {a b : α}
  {size : ℕ}

def Ahead (le : V → α → α → Prop) (views : Set V) (a b : α) : Prop := ∀ v ∈ views, ¬ le v b a

def Apart (le : V → α → α → Prop) (views : Set V) (rows : List α) : Prop :=
  ∀ a ∈ rows, ∀ b ∈ rows, a ≠ b → Ahead le views a b ∨ Ahead le views b a

lemma pair_asymm (hnodup : l.Nodup) (hab : [a, b].Sublist l) : ¬ [b, a].Sublist l := by
  intro hba
  obtain ⟨front, back, rfl, ha, hb⟩ := List.cons_sublist_iff.mp hab
  obtain ⟨front', back', hsplit, hb', ha'⟩ := List.cons_sublist_iff.mp hba
  rw [List.singleton_sublist] at hb ha'
  have hdisjoint := List.disjoint_of_nodup_append hnodup
  have hdisjoint' := List.disjoint_of_nodup_append (hsplit ▸ hnodup)
  rcases List.append_eq_append_iff.mp hsplit with ⟨mid, rfl, rfl⟩ | ⟨mid, rfl, rfl⟩
  · exact hdisjoint' (List.mem_append_left _ ha) ha'
  · exact hdisjoint (List.mem_append_left _ hb') hb

lemma exists_perm_pair (ha : a ∈ rows) (hb : b ∈ rows) (hne : a ≠ b) : ∃ l, l.Perm rows ∧ [a, b].Sublist l := by
  obtain ⟨front, back, rfl⟩ := List.append_of_mem ha
  have hb' : b ∈ front ++ back := by
    rcases List.mem_append.mp hb with hfront | hback
    · exact List.mem_append_left _ hfront
    · exact List.mem_append_right _ ((List.mem_cons.mp hback).resolve_left (Ne.symm hne))
  obtain ⟨left, right, hsplit⟩ := List.append_of_mem hb'
  refine ⟨a :: b :: (left ++ right), ?_, ((List.nil_sublist _).cons_cons b).cons_cons a⟩
  have hrest : (b :: (left ++ right)).Perm (front ++ back) := hsplit ▸ List.perm_middle.symm
  exact (hrest.cons a).trans List.perm_middle.symm

variable [∀ v, DecidableRel (le v)]

/-- A listing of the rows by one of the relations. -/
def Lists (le : V → α → α → Prop) [∀ v, DecidableRel (le v)] (views : Set V) (rows listed : List α) : Prop :=
  ∃ v ∈ views, ∃ l : List α, l.Perm rows ∧ listed = l.insertionSort (le v)

lemma Lists.perm (h : Lists le views rows l) : l.Perm rows := by
  obtain ⟨v, _, l, hl, rfl⟩ := h
  exact (List.perm_insertionSort _ l).trans hl

variable [∀ v, Std.Total (le v)] [∀ v, IsTrans α (le v)]

lemma Lists.pairwise_ahead (h : Lists le views rows l) (hnodup : rows.Nodup) (hapart : Apart le views rows) :
    l.Pairwise (Ahead le views) := by
  have hperm := h.perm
  obtain ⟨v, hv, l, hl, rfl⟩ := h
  have hsorted := (List.pairwise_insertionSort (le v) l).and (hperm.nodup_iff.mpr hnodup)
  refine hsorted.imp_of_mem (fun {a b} ha hb hab => ?_)
  refine (hapart a (hperm.mem_iff.mp ha) b (hperm.mem_iff.mp hb) hab.2).resolve_right (fun hahead => ?_)
  exact hahead v hv hab.1

lemma Lists.unique (h : Lists le views rows l) (h' : Lists le views rows l') (hnodup : rows.Nodup)
    (hapart : Apart le views rows) : l = l' := by
  obtain ⟨v, hv, _⟩ := id h
  refine (h.perm.trans h'.perm.symm).eq_of_pairwise (fun a b _ _ hab hba => ?_) (h.pairwise_ahead hnodup hapart)
    (h'.pairwise_ahead hnodup hapart)
  exact ((Std.Total.total (r := le v) a b).elim (hba v hv) (hab v hv)).elim

omit [∀ v, Std.Total (le v)] [∀ v, IsTrans α (le v)] in
lemma apart_of_unique (hnodup : rows.Nodup)
    (h : ∀ v ∈ views, ∀ v' ∈ views, ∀ l l' : List α, l.Perm rows → l'.Perm rows →
      l.insertionSort (le v) = l'.insertionSort (le v')) : Apart le views rows := by
  intro a ha b hb hne
  by_contra hclose
  simp only [Ahead, not_or, not_forall, not_not] at hclose
  obtain ⟨⟨v, hv, hba⟩, ⟨v', hv', hab⟩⟩ := hclose
  obtain ⟨l, hl, hpair⟩ := exists_perm_pair hb ha (Ne.symm hne)
  obtain ⟨l', hl', hpair'⟩ := exists_perm_pair ha hb hne
  have hsorted := List.pair_sublist_insertionSort hba hpair
  rw [h v hv v' hv' l l' hl hl'] at hsorted
  have hdistinct := ((List.perm_insertionSort (le v') l').trans hl').nodup_iff.mpr hnodup
  exact pair_asymm hdistinct (List.pair_sublist_insertionSort hab hpair') hsorted

theorem pages_agree_iff (hnodup : rows.Nodup) (hviews : views.Nonempty) (hlisting : ∀ o, Lists le views rows (listing o))
    (hevery : ∀ v ∈ views, ∀ l : List α, l.Perm rows → ∃ o, listing o = l.insertionSort (le v))
    (hexported : ∀ o, Lists le views rows (exported o)) :
    (∀ (calls : ℕ → O) (o : O), ∃ n, ∀ m, n ≤ m →
        ((List.range m).map (fun i => page (i + 1) size (listing (calls i)))).flatten = exported o) ↔
      (size = 0 → rows = []) ∧ Apart le views rows := by
  have hlength (o : O) : (listing o).length = rows.length := (hlisting o).perm.length_eq
  constructor
  · intro h
    have hzero : size = 0 → rows = [] := by
      rintro rfl
      obtain ⟨v, hv⟩ := hviews
      obtain ⟨o, _⟩ := hevery v hv rows .rfl
      obtain ⟨n, hn⟩ := h (fun _ => o) o
      have hempty : exported o = [] := by
        rw [← hn n le_rfl, flatten_pages_take, mul_zero, List.take_zero]
      exact ((hexported o).perm.symm.trans (hempty ▸ .rfl)).eq_nil
    refine ⟨hzero, apart_of_unique hnodup (fun v hv v' hv' l l' hl hl' => ?_)⟩
    have hsame (o o' : O) : listing o = exported o' := by
      obtain ⟨n, hn⟩ := h (fun _ => o) o'
      have henough : (listing o).length ≤ (n + rows.length) * size := by
        rcases Nat.eq_zero_or_pos size with hsize | hsize
        · rw [hlength, hzero hsize, List.length_nil]
          exact Nat.zero_le _
        · rw [hlength]
          exact (Nat.le_add_left _ _).trans (Nat.le_mul_of_pos_right _ hsize)
      rw [← hn (n + rows.length) (Nat.le_add_right _ _), flatten_pages henough]
    obtain ⟨o, ho⟩ := hevery v hv l hl
    obtain ⟨o', ho'⟩ := hevery v' hv' l' hl'
    rw [← ho, ← ho', hsame o o, hsame o' o]
  · rintro ⟨hzero, hapart⟩ calls o
    refine ⟨rows.length, fun m hm => ?_⟩
    have hsame (i : ℕ) : listing (calls i) = exported o := (hlisting (calls i)).unique (hexported o) hnodup hapart
    simp only [hsame]
    refine flatten_pages ?_
    rw [(hexported o).perm.length_eq]
    rcases Nat.eq_zero_or_pos size with hsize | hsize
    · rw [hzero hsize, List.length_nil]
      exact Nat.zero_le _
    · exact hm.trans (Nat.le_mul_of_pos_right _ hsize)

end Listings

end Pages
