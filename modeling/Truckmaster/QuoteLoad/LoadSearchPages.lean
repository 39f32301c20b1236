import Mathlib.Data.String.Basic
import Truckmaster.QuoteLoad.LoadSearch

/-! The pages of a search beside each other and beside the export, each call with row orders of its own. -/

namespace Truckmaster.QuoteLoad

open Common Pages Tables LoadSearchService

section Orders

variable {α : Type} {direction : LoadSearchSortDirection} {date : α → Option Instant} {a b c : Option Instant}

/-- Missing dates come last in both directions. -/
def DatesInOrder (direction : LoadSearchSortDirection) : Option Instant → Option Instant → Prop
  | _, none => True
  | none, some _ => False
  | some a, some b => if direction = .asc then a ≤ b else b ≤ a

lemma dateOrder_iff {a b : α} : DateOrder direction date a b ↔ DatesInOrder direction (date a) (date b) := by
  unfold DateOrder
  cases ha : date a with
  | none =>
    cases hb : date b with
    | none => simp [compareDates, DatesInOrder]
    | some d => simp [compareDates, DatesInOrder]
  | some d =>
    cases hb : date b with
    | none => simp [compareDates, DatesInOrder]
    | some d' =>
      by_cases hasc : direction = .asc
      · simp [compareDates, DatesInOrder, hasc]
      · simp [compareDates, DatesInOrder, hasc]

lemma datesInOrder_total (a b : Option Instant) : DatesInOrder direction a b ∨ DatesInOrder direction b a := by
  cases a with
  | none => exact Or.inr (by cases b <;> trivial)
  | some a =>
    cases b with
    | none => exact Or.inl trivial
    | some b =>
      by_cases hasc : direction = .asc
      · simpa [DatesInOrder, hasc] using le_total a b
      · simpa [DatesInOrder, hasc] using le_total b a

lemma DatesInOrder.trans (hab : DatesInOrder direction a b) (hbc : DatesInOrder direction b c) :
    DatesInOrder direction a c := by
  cases c with
  | none => cases a <;> trivial
  | some c =>
    cases b with
    | none => exact absurd hbc id
    | some b =>
      cases a with
      | none => exact absurd hab id
      | some a =>
        by_cases hasc : direction = .asc
        · simp only [DatesInOrder, hasc, if_true] at *
          exact hab.trans hbc
        · simp only [DatesInOrder, hasc, if_false] at *
          exact hbc.trans hab

instance : Std.Total (DateOrder direction date) where
  total a b := by
    rw [dateOrder_iff, dateOrder_iff]
    exact datesInOrder_total _ _

instance : IsTrans α (DateOrder direction date) where
  trans _ _ _ hab hbc := dateOrder_iff.mpr ((dateOrder_iff.mp hab).trans (dateOrder_iff.mp hbc))

instance : Std.Total Newest where
  total a b := le_total b.createdAt a.createdAt

instance : IsTrans SearchLoad Newest where
  trans _ _ _ hab hbc := le_trans hbc hab

variable {κ : Type} [LinearOrder κ] {collate : String ↪ κ}

instance : Std.Total (NumberOrder collate direction) where
  total a b := by
    unfold NumberOrder
    split_ifs
    · exact le_total _ _
    · exact le_total _ _

instance : IsTrans SearchLoad (NumberOrder collate direction) where
  trans a b c := by
    unfold NumberOrder
    split_ifs
    · exact fun hab hbc => hab.trans hbc
    · exact fun hab hbc => hbc.trans hab

end Orders

section StopRows

variable {loads : List SearchLoad} {l : SearchLoad} {o : RowOrder} {keep : Stop → Bool} {t : DatedStop} {stops : List Stop}
  {f : Stop}

lemma stopRows_of (hids : (loads.map (fun l => l.load.id)).Nodup) (hl : l ∈ loads) :
    (stopRows loads).filter (fun r => r.1 == l.load.id) = l.stops.map (fun s => (l.load.id, s)) := by
  have hnone (rest : List SearchLoad) (hrest : l.load.id ∉ rest.map (fun l => l.load.id)) :
      (stopRows rest).filter (fun r => r.1 == l.load.id) = [] := by
    refine List.filter_eq_nil_iff.mpr (fun r hr => ?_)
    obtain ⟨m, hm, hr⟩ := List.mem_flatMap.mp hr
    obtain ⟨s, _, rfl⟩ := List.mem_map.mp hr
    simp only [beq_iff_eq]
    exact fun heq => hrest (heq ▸ List.mem_map_of_mem hm)
  have hown (m : SearchLoad) (hm : m.load.id = l.load.id) :
      (m.stops.map (fun s => (m.load.id, s))).filter (fun r => r.1 == l.load.id) = m.stops.map (fun s => (m.load.id, s)) :=
    List.filter_eq_self.mpr (fun r hr => by
      obtain ⟨s, _, rfl⟩ := List.mem_map.mp hr
      simpa using hm)
  induction loads with
  | nil => cases hl
  | cons m rest ih =>
    obtain ⟨hm, hrest⟩ := List.nodup_cons.mp hids
    rw [stopRows, List.flatMap_cons, List.filter_append]
    rcases List.mem_cons.mp hl with rfl | hl
    · rw [hown l rfl]
      exact (congrArg _ (hnone rest hm)).trans (List.append_nil _)
    · have hother : (m.stops.map (fun s => (m.load.id, s))).filter (fun r => r.1 == l.load.id) = [] := by
        refine List.filter_eq_nil_iff.mpr (fun r hr => ?_)
        obtain ⟨s, _, rfl⟩ := List.mem_map.mp hr
        simp only [beq_iff_eq]
        exact fun heq => hm (List.mem_map.mpr ⟨l, hl, heq.symm⟩)
      rw [hother, List.nil_append]
      exact ih hrest hl

lemma stopsByLoad_perm (hids : (loads.map (fun l => l.load.id)).Nodup) (hl : l ∈ loads) :
    (stopsByLoad o keep loads l.load.id).Perm (l.stops.filter keep) := by
  have hperm := ((findMany_perm o (fun r => keep r.2) (stopRows loads)).filter (fun r => r.1 == l.load.id)).map Prod.snd
  refine hperm.trans (.of_eq ?_)
  rw [List.filter_filter]
  simp only [Bool.and_comm]
  rw [← List.filter_filter, stopRows_of hids hl, List.filter_map, List.map_map]
  exact List.map_id _

/-- The dates that a Load can show: that of any first stop in the order of the sequences. -/
def AllowedDate (t : DatedStop) (l : SearchLoad) (d : Option Instant) : Prop :=
  (t.matching l.stops = [] ∧ d = none) ∨
    ∃ f ∈ t.matching l.stops, (∀ a ∈ t.matching l.stops, t.Before f a) ∧ f.appointmentDatetime = d

lemma pick_none (h : t.pick stops = none) : stops = [] := by
  cases stops with
  | nil => rfl
  | cons s rest => cases h

lemma allowed_of_perm (h : (t.matching stops).Perm (t.matching l.stops)) : AllowedDate t l (pickStopDate stops t) := by
  cases hpick : t.pick (t.matching stops) with
  | none =>
    refine Or.inl ⟨(h.symm.trans (pick_none hpick ▸ .rfl)).eq_nil, ?_⟩
    rw [pickStopDate, hpick, Option.bind_none]
  | some f =>
    have hleads := pick_iff.mp hpick
    refine Or.inr ⟨f, h.mem_iff.mp hleads.mem, fun a ha => hleads.first a (h.mem_iff.mpr ha), ?_⟩
    rw [pickStopDate, hpick, Option.bind_some]

lemma AllowedDate.eq_pick {d : Option Instant} (h : AllowedDate t l d)
    (hdistinct : ((t.matching l.stops).map Stop.sequence).Nodup) : d = pickStopDate l.stops t := by
  rcases h with ⟨hnone, rfl⟩ | ⟨f, hf, hfirst, rfl⟩
  · rw [pickStopDate, hnone]
    rfl
  · cases hpick : t.pick (t.matching l.stops) with
    | none =>
      rw [pick_none hpick] at hf
      cases hf
    | some g =>
      have hleads := pick_iff.mp hpick
      have hsequence : f.sequence = g.sequence := by
        cases t with
        | pickup => exact le_antisymm (hfirst g hleads.mem) (hleads.first f hf)
        | delivery => exact le_antisymm (hleads.first f hf) (hfirst g hleads.mem)
      obtain rfl := List.inj_on_of_nodup_map hdistinct hf hleads.mem hsequence
      rw [pickStopDate, hpick, Option.bind_some]

lemma matching_perm (hids : (loads.map (fun l => l.load.id)).Nodup) (hl : l ∈ loads)
    (hkeep : ∀ s, s.stopType = t.stopType → s.stopPurpose = .standard → keep s = true) :
    (t.matching (stopsByLoad o keep loads l.load.id)).Perm (t.matching l.stops) := by
  refine ((stopsByLoad_perm hids hl).filter _).trans (.of_eq ?_)
  rw [List.filter_filter]
  refine List.filter_congr (fun s _ => ?_)
  by_cases hs : s.stopType = t.stopType ∧ s.stopPurpose = .standard
  · simp [hs.1, hs.2, hkeep s hs.1 hs.2]
  · rw [not_and_or] at hs
    rcases hs with hs | hs <;> simp [hs]

lemma exists_arranged {d : Option Instant} (h : AllowedDate t l d) :
    ∃ stops, stops.Perm (t.matching l.stops) ∧ pickStopDate stops t = d := by
  rcases h with ⟨hnone, rfl⟩ | ⟨f, hf, hfirst, rfl⟩
  · exact ⟨[], hnone ▸ .rfl, rfl⟩
  · obtain ⟨front, back, hsplit⟩ := List.append_of_mem hf
    have hperm : (f :: (front ++ back)).Perm (t.matching l.stops) := hsplit ▸ List.perm_middle.symm
    have hself : t.matching (f :: (front ++ back)) = f :: (front ++ back) :=
      List.filter_eq_self.mpr (fun s hs => (List.mem_filter.mp (hperm.mem_iff.mp hs)).2)
    have hleads : Leads t (f :: (front ++ back)) f := by
      refine ⟨hself.symm ▸ List.mem_cons_self (a := f), fun a ha => hfirst a (hperm.mem_iff.mp (hself ▸ ha)), fun a _ _ => ?_⟩
      rw [hself, List.idxOf_cons_self]
      exact Nat.zero_le _
    refine ⟨f :: (front ++ back), hperm, ?_⟩
    rw [pickStopDate, pick_iff.mpr hleads, Option.bind_some]

/-- Stops of equal sequence may come back in an order that shows any of their dates. -/
lemma exists_dates (hids : (loads.map (fun l => l.load.id)).Nodup) {v : SearchLoad → Option Instant}
    (hv : ∀ l ∈ loads, AllowedDate t l (v l)) : ∃ o, ∀ l ∈ loads, deriveSortDates o loads t l.load.id = v l := by
  have harranged (l : SearchLoad) : ∃ stops : List Stop,
      l ∈ loads → stops.Perm (t.matching l.stops) ∧ pickStopDate stops t = v l := by
    by_cases hl : l ∈ loads
    · obtain ⟨stops, hstops⟩ := exists_arranged (hv l hl)
      exact ⟨stops, fun _ => hstops⟩
    · exact ⟨[], fun h => absurd h hl⟩
  choose arranged harranged using harranged
  let keep (s : Stop) : Bool := s.stopType == t.stopType && s.stopPurpose == .standard
  let shown := loads.map (fun l => { l with stops := arranged l })
  have hshown : (shown.map (fun l => l.load.id)).Nodup := by
    rw [List.map_map]
    exact hids
  have hperm : (stopRows shown).Perm ((stopRows loads).filter (fun r => keep r.2)) := by
    rw [stopRows, stopRows, List.filter_flatMap, List.flatMap_map]
    refine List.Perm.flatMap_left _ (fun l hl => ?_)
    rw [List.filter_map]
    exact ((harranged l hl).1).map _
  obtain ⟨o, ho⟩ := RowOrder.exists_arrange hperm
  refine ⟨o, fun l hl => ?_⟩
  have hrows : stopsByLoad o keep loads l.load.id = arranged l := by
    have hown := stopRows_of hshown (l := { l with stops := arranged l }) (List.mem_map_of_mem hl)
    rw [stopsByLoad, findMany, ho, hown, List.map_map]
    exact List.map_id _
  rw [deriveSortDates, hrows, (harranged l hl).2]

end StopRows

section Requests

variable {α κ : Type} [LinearOrder κ] (collate : String ↪ κ) (filters : LoadSearchFilters)

def directionOf : LoadSearchSortDirection := filters.sortDirection.getD .asc

def RequestedOrder (load : α → SearchLoad) (date : DatedStop → α → Option Instant) (a b : α) : Prop :=
  match dated filters.sort with
  | some t => DateOrder (directionOf filters) (date t) a b
  | none =>
    if filters.sort = some .loadNumber then NumberOrder collate (directionOf filters) (load a) (load b)
    else Newest (load a) (load b)

instance (load : α → SearchLoad) (date : DatedStop → α → Option Instant) :
    DecidableRel (RequestedOrder collate filters load date) := fun a b =>
  match h : dated filters.sort with
  | some t => decidable_of_iff (DateOrder (directionOf filters) (date t) a b) (by rw [RequestedOrder, h])
  | none => decidable_of_iff (if filters.sort = some .loadNumber then
      NumberOrder collate (directionOf filters) (load a) (load b) else Newest (load a) (load b)) (by rw [RequestedOrder, h])

instance (load : α → SearchLoad) (date : DatedStop → α → Option Instant) :
    Std.Total (RequestedOrder collate filters load date) where
  total a b := by
    unfold RequestedOrder
    split
    · exact Std.Total.total a b
    · split_ifs
      · exact Std.Total.total (load a) (load b)
      · exact Std.Total.total (load a) (load b)

instance (load : α → SearchLoad) (date : DatedStop → α → Option Instant) :
    IsTrans α (RequestedOrder collate filters load date) where
  trans a b c := by
    unfold RequestedOrder
    split
    · exact Trans.trans
    · split_ifs
      · exact Trans.trans
      · exact Trans.trans

/-- Every order of the stops puts one of the two Loads strictly before the other. -/
def ToldApart (a b : SearchLoad) : Prop :=
  match dated filters.sort with
  | some t =>
    (∀ d d', AllowedDate t a d → AllowedDate t b d' → ¬ DatesInOrder (directionOf filters) d' d) ∨
      ∀ d d', AllowedDate t a d → AllowedDate t b d' → ¬ DatesInOrder (directionOf filters) d d'
  | none => filters.sort = some .loadNumber ∨ a.createdAt ≠ b.createdAt

def shownDates (rows : List SearchLoad) : Set (DatedStop → SearchLoad → Option Instant) :=
  {v | ∀ t, ∀ l ∈ rows, AllowedDate t l (v t l)}

end Requests

section Listings

variable {κ : Type} [LinearOrder κ] {collate : String ↪ κ} {filters : LoadSearchFilters} {db : SearchDb}
  {p : SearchLoad → Bool} {o : ℕ → RowOrder} {n size : ℕ} {rows : List SearchLoad} {t : DatedStop} {l : SearchLoad}
  {v v' : DatedStop → SearchLoad → Option Instant}

lemma requested_dated (h : dated filters.sort = some t) (a b : SearchLoad) :
    RequestedOrder collate filters id v a b ↔ DateOrder (directionOf filters) (v t) a b := by
  rw [RequestedOrder, h]

lemma sort_requested_dated (h : dated filters.sort = some t) (hv : ∀ l ∈ rows, v t l = v' t l) :
    rows.insertionSort (RequestedOrder collate filters id v) = rows.insertionSort (DateOrder (directionOf filters) (v' t)) := by
  refine insertionSort_congr (List.pairwise_of_forall_mem_list (fun a ha b hb => ?_))
  rw [requested_dated h, dateOrder_iff, dateOrder_iff, hv a ha, hv b hb]

lemma sort_requested (h : dated filters.sort = none) : rows.insertionSort (RequestedOrder collate filters id v) =
    if filters.sort = some .loadNumber then rows.insertionSort (NumberOrder collate (directionOf filters))
    else rows.insertionSort Newest := by
  split_ifs with hnumber
  · refine insertionSort_congr (List.pairwise_of_forall (fun a b => ?_))
    simp only [RequestedOrder, h]
    simp only [hnumber, if_true, id]
  · refine insertionSort_congr (List.pairwise_of_forall (fun a b => ?_))
    simp only [RequestedOrder, h, hnumber, if_false, id]

variable (collate filters db p o) in
def listing : List SearchLoad :=
  let rows := findMany (o 0) p db.loads.rows
  rows.insertionSort (RequestedOrder collate filters id (fun t l => deriveSortDates (o 1) rows t l.load.id))

lemma fetched_page {pageRows : List SearchLoad} {pageIds : List Uuid} (hids : pageIds = pageRows.map (fun l => l.load.id))
    (hrows : ∀ l ∈ pageRows, l ∈ db.loads.rows) (o : RowOrder) :
    pageIds.filterMap (fun id => (findMany o (fun l => decide (l.load.id ∈ pageIds)) db.loads.rows).find?
      (fun l => l.load.id == id)) = pageRows := by
  have hfind (l : SearchLoad) (hl : l ∈ pageRows) :
      (findMany o (fun l => decide (l.load.id ∈ pageIds)) db.loads.rows).find? (fun m => m.load.id == l.load.id) = some l := by
    refine (find_of_unique (fun a ha b hb _ hfa _ hfb => ?_) o).mpr ⟨hrows l hl, ?_, ?_⟩
    · exact db.loads.eq_of_key ha hb ((beq_iff_eq.mp hfa).trans (beq_iff_eq.mp hfb).symm)
    · exact decide_eq_true (hids ▸ List.mem_map_of_mem hl)
    · exact beq_self_eq_true _
  generalize findMany o (fun l => decide (l.load.id ∈ pageIds)) db.loads.rows = fetched at hfind
  rw [hids, List.filterMap_map]
  exact (List.filterMap_congr hfind).trans List.filterMap_some

lemma pageLoads_listing : pageLoads collate o db p filters n size = page n size (listing collate filters db p o) := by
  rw [pageLoads, listing]
  cases hdated : dated filters.sort with
  | none =>
    rw [sort_requested hdated]
    split_ifs <;> rfl
  | some t =>
    rw [sort_requested_dated hdated (fun _ _ => rfl)]
    generalize hrows : findMany (o 0) p db.loads.rows = rows
    have hsorted : (rows.map (fun l => l.load.id)).insertionSort
        (DateOrder (directionOf filters) (deriveSortDates (o 1) rows t)) =
        (rows.insertionSort (DateOrder (directionOf filters) (fun l => deriveSortDates (o 1) rows t l.load.id))).map
          (fun l => l.load.id) :=
      (List.map_insertionSort
        (DateOrder (directionOf filters) (fun l : SearchLoad => deriveSortDates (o 1) rows t l.load.id))
        (DateOrder (directionOf filters) (deriveSortDates (o 1) rows t)) (fun l : SearchLoad => l.load.id) rows
        (fun _ _ _ _ => Iff.rfl)).symm
    have hids := (congrArg (page n size) hsorted).trans (page_map n size _ _)
    have hmem (l : SearchLoad) (hl : l ∈ rows.insertionSort
        (DateOrder (directionOf filters) (fun l => deriveSortDates (o 1) rows t l.load.id))) : l ∈ db.loads.rows :=
      (mem_findMany.mp (hrows ▸ (List.perm_insertionSort _ _).mem_iff.mp hl)).1
    generalize rows.insertionSort (DateOrder (directionOf filters) (fun l => deriveSortDates (o 1) rows t l.load.id)) =
      sortedRows at hids hmem ⊢
    rw [← directionOf]
    exact fetched_page hids (fun l hl => hmem l (List.mem_of_mem_drop (List.mem_of_mem_take hl))) (o 2)

lemma shown_of_query (hperm : rows.Perm (db.loads.rows.filter p)) (o : RowOrder) (keep : DatedStop → Stop → Bool)
    (hkeep : ∀ t s, s.stopType = t.stopType → s.stopPurpose = .standard → keep t s = true) :
    (fun t l => pickStopDate (stopsByLoad o (keep t) rows l.load.id) t) ∈ shownDates (db.loads.rows.filter p) := by
  intro t l hl
  have hids : (rows.map (fun l => l.load.id)).Nodup :=
    (hperm.map _).nodup_iff.mpr (db.loads.nodup.sublist (List.filter_sublist.map _))
  exact allowed_of_perm (matching_perm hids (hperm.mem_iff.mpr hl) (hkeep t))

lemma listing_lists : Lists (RequestedOrder collate filters id) (shownDates (db.loads.rows.filter p))
    (db.loads.rows.filter p) (listing collate filters db p o) := by
  have hperm := findMany_perm (o 0) p db.loads.rows
  refine ⟨_, shown_of_query hperm (o 1) _ (fun t s htype hpurpose => ?_), _, hperm, rfl⟩
  simp [htype, hpurpose]

lemma exists_listing (hv : v ∈ shownDates (db.loads.rows.filter p)) (hperm : rows.Perm (db.loads.rows.filter p)) :
    ∃ o, listing collate filters db p o = rows.insertionSort (RequestedOrder collate filters id v) := by
  obtain ⟨o₀, ho₀⟩ := RowOrder.exists_arrange hperm
  cases hdated : dated filters.sort with
  | none =>
    refine ⟨fun _ => o₀, ?_⟩
    rw [listing, sort_requested hdated, sort_requested hdated, findMany, ho₀]
  | some t =>
    have hids : (rows.map (fun l => l.load.id)).Nodup :=
      (hperm.map _).nodup_iff.mpr (db.loads.nodup.sublist (List.filter_sublist.map _))
    obtain ⟨o₁, ho₁⟩ := exists_dates hids (fun l hl => hv t l (hperm.mem_iff.mp hl))
    refine ⟨fun i => if i = 0 then o₀ else o₁, ?_⟩
    rw [listing, findMany, if_pos rfl, if_neg one_ne_zero, ho₀, sort_requested_dated hdated ho₁,
      sort_requested_dated hdated (fun _ _ => rfl)]

def exportDate (t : DatedStop) (l : SearchLoad × List Stop) : Option Instant := pickStopDate l.2 t

lemma exportedLoads_ordered :
    (exportedLoads collate o db p filters).Pairwise (RequestedOrder collate filters Prod.fst exportDate) := by
  rw [exportedLoads]
  cases hdated : dated filters.sort with
  | none =>
    dsimp only
    refine List.pairwise_map.mpr ?_
    split_ifs with hnumber
    · refine (List.pairwise_insertionSort _ _).imp (fun {a b} hab => ?_)
      rw [RequestedOrder, hdated]
      exact (if_pos hnumber).mpr hab
    · refine (List.pairwise_insertionSort _ _).imp (fun {a b} hab => ?_)
      rw [RequestedOrder, hdated]
      exact (if_neg hnumber).mpr hab
  | some t =>
    refine (List.pairwise_insertionSort _ _).imp (fun {a b} hab => ?_)
    rw [RequestedOrder, hdated]
    exact hab

lemma exportedLoads_lists : Lists (RequestedOrder collate filters id) (shownDates (db.loads.rows.filter p))
    (db.loads.rows.filter p) ((exportedLoads collate o db p filters).map Prod.fst) := by
  have hfound (r : SearchLoad → SearchLoad → Prop) [DecidableRel r] :
      (findManyBy (o 0) p r db.loads.rows).Perm (db.loads.rows.filter p) :=
    (List.perm_insertionSort _ _).trans (findMany_perm (o 0) p db.loads.rows)
  have hfst (f : SearchLoad → List Stop) (found : List SearchLoad) : (found.map (fun l => (l, f l))).map Prod.fst = found := by
    rw [List.map_map]
    exact List.map_id _
  rw [exportedLoads]
  cases hdated : dated filters.sort with
  | none =>
    have hshown := shown_of_query (findMany_perm (o 0) p db.loads.rows) (o 1) (fun _ _ => true) (fun _ _ _ _ => rfl)
    refine ⟨_, hshown, _, findMany_perm (o 0) p db.loads.rows, ?_⟩
    dsimp only
    rw [hfst, sort_requested hdated]
    rfl
  | some t =>
    generalize hloads : (if filters.sort = some .loadNumber then
      findManyBy (o 0) p (NumberOrder collate (filters.sortDirection.getD .asc)) db.loads.rows
      else findManyBy (o 0) p Newest db.loads.rows) = found
    have hperm : found.Perm (db.loads.rows.filter p) := by
      rw [← hloads]
      split_ifs
      · exact hfound _
      · exact hfound _
    refine ⟨_, shown_of_query hperm (o 1) (fun _ _ => true) (fun _ _ _ _ => rfl), found, hperm, ?_⟩
    rw [sort_requested_dated hdated (fun _ _ => rfl)]
    dsimp only
    rw [List.map_insertionSort _ (DateOrder (directionOf filters)
      (fun l => pickStopDate (stopsByLoad (o 1) (fun _ => true) found l.load.id) t)) _ _ (fun a ha b hb => ?_), hfst]
    obtain ⟨a, _, rfl⟩ := List.mem_map.mp ha
    obtain ⟨b, _, rfl⟩ := List.mem_map.mp hb
    exact Iff.rfl

lemma exported_allowed {record : SearchLoad × List Stop} (h : record ∈ exportedLoads collate o db p filters) :
    record.1 ∈ db.loads.rows ∧ ∀ t, AllowedDate t record.1 (exportDate t record) := by
  rw [exportedLoads] at h
  generalize hloads : (if filters.sort = some .loadNumber then
    findManyBy (o 0) p (NumberOrder collate (filters.sortDirection.getD .asc)) db.loads.rows
    else findManyBy (o 0) p Newest db.loads.rows) = found at h
  have hperm : found.Perm (db.loads.rows.filter p) := by
    rw [← hloads]
    split_ifs <;> exact (List.perm_insertionSort _ _).trans (findMany_perm (o 0) p db.loads.rows)
  have hids : (found.map (fun l => l.load.id)).Nodup :=
    (hperm.map _).nodup_iff.mpr (db.loads.nodup.sublist (List.filter_sublist.map _))
  have hrecord : record ∈ found.map (fun l => (l, stopsByLoad (o 1) (fun _ => true) found l.load.id)) := by
    cases hdated : dated filters.sort <;> simpa [hdated] using h
  obtain ⟨l, hl, rfl⟩ := List.mem_map.mp hrecord
  exact ⟨List.mem_of_mem_filter (hperm.mem_iff.mp hl), fun t => allowed_of_perm (matching_perm hids hl (fun _ _ _ => rfl))⟩

lemma shownDates_nonempty (rows : List SearchLoad) : (shownDates rows).Nonempty :=
  ⟨fun t l => pickStopDate l.stops t, fun _ _ _ => allowed_of_perm .rfl⟩

open Classical in
lemma ahead_dated {a b : SearchLoad} (ha : a ∈ rows) (hb : b ∈ rows) (hne : a ≠ b) (h : dated filters.sort = some t) :
    Ahead (RequestedOrder collate filters id) (shownDates rows) a b ↔
      ∀ d d', AllowedDate t a d → AllowedDate t b d' → ¬ DatesInOrder (directionOf filters) d' d := by
  constructor
  · intro hahead d d' hd hd'
    let v (u : DatedStop) (l : SearchLoad) : Option Instant :=
      if u = t ∧ l = a then d else if u = t ∧ l = b then d' else pickStopDate l.stops u
    have hv : v ∈ shownDates rows := by
      intro u l _
      by_cases hla : u = t ∧ l = a
      · obtain ⟨rfl, rfl⟩ := hla
        simpa [v] using hd
      · by_cases hlb : u = t ∧ l = b
        · obtain ⟨rfl, rfl⟩ := hlb
          simpa [v, Ne.symm hne] using hd'
        · simpa only [v, if_neg hla, if_neg hlb] using allowed_of_perm (t := u) (l := l) .rfl
    have hclose := hahead v hv
    rw [requested_dated h, dateOrder_iff] at hclose
    simpa [v, Ne.symm hne] using hclose
  · intro hdates v hv hba
    rw [requested_dated h, dateOrder_iff] at hba
    exact hdates (v t a) (v t b) (hv t a ha) (hv t b hb) hba

lemma ahead_undated {a b : SearchLoad} (h : dated filters.sort = none) :
    Ahead (RequestedOrder collate filters id) (shownDates rows) a b ↔
      ¬ if filters.sort = some .loadNumber then NumberOrder collate (directionOf filters) b a else Newest b a := by
  simp only [Ahead, RequestedOrder, h, id]
  exact ⟨fun hahead => (shownDates_nonempty rows).elim hahead, fun hahead _ _ => hahead⟩

variable {toDate : String → Option Instant} {like : String → String → Bool} {organizationId : Uuid}

lemma organization_of_buildWhere (hwhere : buildWhere toDate like organizationId filters = some p) (hl : p l = true) :
    l.organizationId = organizationId := by
  obtain ⟨ranges, _, hp⟩ := Option.bind_eq_some_iff.mp hwhere
  obtain rfl := Option.some.inj hp
  simp only [Bool.and_eq_true, beq_iff_eq] at hl
  exact hl.1.1.1.1.1.1.1.1.1

lemma numbers_differ (hwhere : buildWhere toDate like organizationId filters = some p) {a b : SearchLoad}
    (ha : a ∈ db.loads.rows.filter p) (hb : b ∈ db.loads.rows.filter p) (hne : a ≠ b) :
    a.load.loadNumber ≠ b.load.loadNumber := by
  obtain ⟨hadb, hpa⟩ := List.mem_filter.mp ha
  obtain ⟨hbdb, hpb⟩ := List.mem_filter.mp hb
  intro hnumber
  have horg := (organization_of_buildWhere hwhere hpa).trans (organization_of_buildWhere hwhere hpb).symm
  exact hne (List.inj_on_of_nodup_map db.numbers hadb hbdb (Prod.ext horg hnumber))

lemma toldApart_iff (hwhere : buildWhere toDate like organizationId filters = some p) {a b : SearchLoad}
    (ha : a ∈ db.loads.rows.filter p) (hb : b ∈ db.loads.rows.filter p) (hne : a ≠ b) :
    (Ahead (RequestedOrder collate filters id) (shownDates (db.loads.rows.filter p)) a b ∨
      Ahead (RequestedOrder collate filters id) (shownDates (db.loads.rows.filter p)) b a) ↔ ToldApart filters a b := by
  rw [ToldApart]
  cases hdated : dated filters.sort with
  | some t =>
    rw [ahead_dated ha hb hne hdated, ahead_dated hb ha (Ne.symm hne) hdated]
    exact or_congr_right ⟨fun h d d' hd hd' => h d' d hd' hd, fun h d d' hd hd' => h d' d hd' hd⟩
  | none =>
    rw [ahead_undated hdated, ahead_undated hdated]
    by_cases hnumber : filters.sort = some .loadNumber
    · have hdiffer : collate a.load.loadNumber ≠ collate b.load.loadNumber :=
        collate.injective.ne (numbers_differ hwhere ha hb hne)
      rw [if_pos hnumber, if_pos hnumber, NumberOrder, NumberOrder]
      refine iff_of_true ?_ (Or.inl hnumber)
      split_ifs
      · exact (lt_or_gt_of_ne hdiffer).imp not_le_of_gt not_le_of_gt
      · exact (lt_or_gt_of_ne hdiffer).symm.imp not_le_of_gt not_le_of_gt
    · rw [if_neg hnumber, if_neg hnumber, Newest, Newest, not_le, not_le, or_iff_right hnumber]
      exact ⟨fun h => h.elim ne_of_gt ne_of_lt, fun h => (lt_or_gt_of_ne h).symm⟩

end Listings

section Paging

variable {κ : Type} [LinearOrder κ] {collate : String ↪ κ} {filters : LoadSearchFilters} {db : SearchDb}
  {p : SearchLoad → Bool} {toDate : String → Option Instant} {like : String → String → Bool}
  {organizationId actingUserId : Uuid} {actingRoles : List MembershipRoleName} {size : ℕ}

def itemIds (result : Option LoadSearchResult) : List Uuid :=
  result.elim [] (fun found => found.items.map (fun item => item.rest.load.id))

@[simp] lemma shapeFinancialFields_rest {ρ α γ : Type} (record : FinancialRecord ρ α γ) (actingRoles : List MembershipRoleName)
    (actingUserId : Uuid) : (shapeFinancialFields record actingRoles actingUserId).rest = record.rest := by
  unfold shapeFinancialFields
  dsimp only
  split_ifs <;> rfl

def printedDate (t : DatedStop) (row : List String) : Option String :=
  row[match t with | .pickup => 7 | .delivery => 8]?

lemma printedDate_csvRow (t : DatedStop) (record : FinancialRecord (SearchLoad × List Stop) Unit Unit) :
    printedDate t (csvRow record) = some (((pickStopDate record.rest.2 t).map toISOString).getD "") := by
  cases t <;> rfl

/-- An export prints the dates that the filters of the pickups and of the deliveries are about, where no two stops
compete for one. -/
lemma exportCsv_dates {o : ℕ → RowOrder} {text : List Char}
    (hdistinct : ∀ l ∈ db.loads.rows, ∀ t, ((DatedStop.matching t l.stops).map Stop.sequence).Nodup)
    (h : exportCsv toDate like collate o db organizationId actingUserId actingRoles filters = some text) :
    ∃ p rows, buildWhere toDate like organizationId filters = some p ∧
      text = Csv.toCsv ((csvHeader :: rows).map (List.map String.toList)) ∧
      ∀ t, rows.map (printedDate t) = (exportedLoads collate o db p filters).map
        (fun record => some (((pickStopDate record.1.stops t).map toISOString).getD "")) := by
  obtain ⟨p, hwhere, htext⟩ := Option.bind_eq_some_iff.mp h
  obtain rfl := Option.some.inj htext
  refine ⟨p, _, hwhere, rfl, fun t => ?_⟩
  rw [List.map_map, List.map_map]
  refine List.map_congr_left (fun record hrecord => ?_)
  obtain ⟨hl, hallowed⟩ := exported_allowed hrecord
  rw [Function.comp_apply, Function.comp_apply, printedDate_csvRow, shapeFinancialFields_rest,
    ← (hallowed t).eq_pick (hdistinct record.1 hl t)]
  rfl

lemma itemIds_search (hwhere : buildWhere toDate like organizationId filters = some p) (o : ℕ → RowOrder) (n : ℕ) :
    itemIds (search toDate like collate o db organizationId actingUserId actingRoles filters n size) =
      (page n size (listing collate filters db p o)).map (fun l => l.load.id) := by
  rw [search, hwhere, Option.bind_eq_bind, Option.bind_some, itemIds, Option.elim_some, pageLoads_listing, List.map_map]
  refine List.map_congr_left (fun l _ => ?_)
  simp only [Function.comp_apply, shapeFinancialFields_rest]
  rfl

variable (toDate like collate db organizationId actingUserId actingRoles filters size p) in
structure Paged (calls : ℕ → ℕ → RowOrder) (o : ℕ → RowOrder) (m : ℕ) : Prop where
  pages : ((List.range m).map (fun i => itemIds (search toDate like collate (calls i) db organizationId actingUserId
    actingRoles filters (i + 1) size))).flatten = (exportedLoads collate o db p filters).map (fun l => l.1.load.id)
  every : ((exportedLoads collate o db p filters).map Prod.fst).Perm (db.loads.rows.filter p)
  ordered : (exportedLoads collate o db p filters).Pairwise (RequestedOrder collate filters Prod.fst exportDate)

lemma paged_iff (hwhere : buildWhere toDate like organizationId filters = some p) {calls : ℕ → ℕ → RowOrder}
    {o : ℕ → RowOrder} {m : ℕ} : Paged collate filters db p toDate like organizationId actingUserId actingRoles size calls o m ↔
      ((List.range m).map (fun i => page (i + 1) size (listing collate filters db p (calls i)))).flatten =
        (exportedLoads collate o db p filters).map Prod.fst := by
  have hids : ((List.range m).map (fun i => itemIds (search toDate like collate (calls i) db organizationId actingUserId
      actingRoles filters (i + 1) size))).flatten =
      ((List.range m).map (fun i => page (i + 1) size (listing collate filters db p (calls i)))).flatten.map
        (fun l => l.load.id) := by
    rw [List.map_flatten, List.map_map]
    simp only [itemIds_search hwhere]
    rfl
  have hexported : (exportedLoads collate o db p filters).map (fun l => l.1.load.id) =
      ((exportedLoads collate o db p filters).map Prod.fst).map (fun l => l.load.id) := by
    rw [List.map_map]
    rfl
  constructor
  · rintro ⟨hpages, hevery, _⟩
    rw [hids, hexported] at hpages
    refine db.loads.eq_of_keys (fun l hl => ?_) (fun l hl => List.mem_of_mem_filter (hevery.mem_iff.mp hl)) hpages
    obtain ⟨_, hpage, hl⟩ := List.mem_flatten.mp hl
    obtain ⟨i, _, rfl⟩ := List.mem_map.mp hpage
    exact List.mem_of_mem_filter (listing_lists.perm.mem_iff.mp (List.mem_of_mem_drop (List.mem_of_mem_take hl)))
  · intro hpages
    refine ⟨?_, exportedLoads_lists.perm, exportedLoads_ordered⟩
    rw [hids, hpages, hexported]

theorem search_pages_iff (hwhere : buildWhere toDate like organizationId filters = some p) :
    (∀ (calls : ℕ → ℕ → RowOrder) (o : ℕ → RowOrder), ∃ n, ∀ m, n ≤ m →
        Paged collate filters db p toDate like organizationId actingUserId actingRoles size calls o m) ↔
      (size = 0 → ∀ l ∈ db.loads.rows, p l = false) ∧
        ∀ a ∈ db.loads.rows, ∀ b ∈ db.loads.rows, p a = true → p b = true → a ≠ b → ToldApart filters a b := by
  have hnodup : (db.loads.rows.filter p).Nodup := (db.loads.nodup.of_map _).sublist List.filter_sublist
  simp only [paged_iff hwhere]
  rw [pages_agree_iff hnodup (shownDates_nonempty _) (fun _ => listing_lists) (fun v hv l hl => exists_listing hv hl)
    (fun _ => exportedLoads_lists)]
  refine and_congr (forall_congr' (fun _ => ?_)) ?_
  · rw [List.filter_eq_nil_iff]
    simp only [Bool.not_eq_true]
  · constructor
    · intro hapart a ha b hb hpa hpb hne
      have hma := List.mem_filter.mpr ⟨ha, hpa⟩
      have hmb := List.mem_filter.mpr ⟨hb, hpb⟩
      exact (toldApart_iff hwhere hma hmb hne).mp (hapart a hma b hmb hne)
    · intro htold a hma b hmb hne
      obtain ⟨ha, hpa⟩ := List.mem_filter.mp hma
      obtain ⟨hb, hpb⟩ := List.mem_filter.mp hmb
      exact (toldApart_iff hwhere hma hmb hne).mpr (htold a ha b hb hpa hpb hne)

end Paging

namespace Sample

def threeLoads : SearchDb where
  loads := ⟨[foundLoad 1 5 [datedStop 1 .pickup .standard "2026-03-10"],
    foundLoad 2 5 [datedStop 1 .pickup .standard "2026-03-04"], foundLoad 3 5 []], by decide +kernel⟩
  numbers := by decide +kernel

def oneDay : SearchDb where
  loads := ⟨[foundLoad 1 5 [datedStop 1 .pickup .standard "2026-03-10"],
    foundLoad 2 6 [datedStop 1 .pickup .standard "2026-03-10"]], by decide +kernel⟩
  numbers := by decide +kernel

def byPickup : LoadSearchFilters := { sort := some .pickupDate, sortDirection := some .desc }

def pageOf (db : SearchDb) (o : RowOrder) (n : ℕ) : List Uuid :=
  itemIds (search dateMs ignoringCase (.refl String) (fun _ => o) db 1 1 [.admin] byPickup n 1)

end Sample

open Sample

theorem search_pages_sample : ∃ p, buildWhere dateMs ignoringCase 1 byPickup = some p ∧
    ∀ calls o, ∃ n, ∀ m, n ≤ m →
      Paged (.refl String) byPickup threeLoads p dateMs ignoringCase 1 1 [.admin] 1 calls o m := by
  obtain ⟨p, hp⟩ : ∃ p, buildWhere dateMs ignoringCase 1 byPickup = some p :=
    Option.isSome_iff_exists.mp (by decide +kernel)
  have hsole : ∀ l ∈ threeLoads.loads.rows, ((DatedStop.pickup.matching l.stops).map Stop.sequence).Nodup := by
    decide +kernel
  have hdistinct : ∀ a ∈ threeLoads.loads.rows, ∀ b ∈ threeLoads.loads.rows, a.load.id ≠ b.load.id →
      ¬ DateOrder .desc (fun l : SearchLoad => pickStopDate l.stops .pickup) b a ∨
        ¬ DateOrder .desc (fun l : SearchLoad => pickStopDate l.stops .pickup) a b := by
    decide +kernel
  refine ⟨p, hp, (search_pages_iff hp).mpr ⟨fun h => absurd h one_ne_zero, fun a ha b hb _ _ hne => ?_⟩⟩
  have hids : a.load.id ≠ b.load.id := fun h => hne (threeLoads.loads.eq_of_key ha hb h)
  refine (hdistinct a ha b hb hids).imp (fun h d d' hd hd' => ?_) (fun h d d' hd hd' => ?_)
  · rw [hd.eq_pick (hsole a ha), hd'.eq_pick (hsole b hb)]
    exact fun horder => h (dateOrder_iff.mpr horder)
  · rw [hd.eq_pick (hsole a ha), hd'.eq_pick (hsole b hb)]
    exact fun horder => h (dateOrder_iff.mpr horder)

theorem tied_load_repeats : pageOf oneDay .stored 1 = [1] ∧ pageOf oneDay .reversed 2 = [1] ∧
    pageOf oneDay .stored 2 = [2] := by
  decide +kernel

end Truckmaster.QuoteLoad
