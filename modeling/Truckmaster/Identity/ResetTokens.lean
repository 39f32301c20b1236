import Truckmaster.Identity.PasswordResetSessions

namespace Truckmaster.Identity

open Common Fallible ReadCommitted Runs Tables

variable {I : Type*} {d d' : PasswordDb} {owner owner' : PasswordRow → Option I} {i j : I}
  {ws vs : List PasswordWrite} {id : Uuid} {now : Instant}

def PasswordResetToken.Usable (now : Instant) (t : PasswordResetToken) : Prop := t.usedAt = none ∧ now < t.expiresAt

instance (now : Instant) (t : PasswordResetToken) : Decidable (t.Usable now) :=
  inferInstanceAs (Decidable (t.usedAt = none ∧ now < t.expiresAt))

namespace PasswordFrame

def issuing : PasswordFrame → Bool
  | .supersede _ _ => true
  | .createToken _ => true
  | .commitToken => true
  | _ => false

def opening : PasswordFrame → Bool
  | .findUnused _ => true
  | _ => false

end PasswordFrame

/-- A requestReset comes to its updateMany only when no other one is between its updateMany and its end. -/
def RequestsApart (s : State PasswordDb PasswordRow I PasswordFrame PasswordWrite) : Event I → Prop
  | .advance i => (s.session i).frame.opening = true → ∀ j, (s.session j).frame.issuing = false
  | .fail _ => True

namespace PasswordDb

structure OneReset (d : PasswordDb) : Prop where
  one : ∀ now, ∀ a ∈ d.tokens.rows, ∀ b ∈ d.tokens.rows, a.Usable now → b.Usable now → a = b
  once : (d.resets.map PasswordReset.tokenId).Nodup
  later : d.resets.Pairwise (fun before after => after.tokenId ∉ before.issued)

def Unused (d : PasswordDb) (id : Uuid) : Prop := ∃ t ∈ d.tokens.rows, t.id = id ∧ t.usedAt = none

structure Fresh (d : PasswordDb) : Prop where
  resets : d.resets = []
  one : ∀ a b, d.Unused a → d.Unused b → a = b

structure Spent (d : PasswordDb) : Prop where
  one : ∀ a b, d.Unused a → d.Unused b → a = b
  once : (d.resets.map PasswordReset.tokenId).Nodup
  later : d.resets.Pairwise (fun before after => after.tokenId ∉ before.issued)
  consumed : ∀ r ∈ d.resets, r.tokenId ∈ r.issued
  issued : ∀ r ∈ d.resets, ∀ id ∈ r.issued, id ∈ d.tokens.rows.map PasswordResetToken.id ∧ ¬ d.Unused id

lemma Spent.oneReset (h : d.Spent) : d.OneReset where
  one _ a ha b hb hua hub := d.tokens.eq_of_key ha hb (h.one a.id b.id ⟨a, ha, rfl, hua.1⟩ ⟨b, hb, rfl, hub.1⟩)
  once := h.once
  later := h.later

lemma Fresh.spent (h : d.Fresh) : d.Spent := by
  refine ⟨h.one, ?_, ?_, ?_, ?_⟩ <;> rw [h.resets]
  · exact List.nodup_nil
  · exact .nil
  · nofun
  · nofun

lemma ids_setUsed (now : Instant) (id : Uuid) (d : PasswordDb) :
    (write (.setUsed now id) d).tokens.rows.map PasswordResetToken.id = d.tokens.rows.map PasswordResetToken.id := by
  rw [write, Table.update_rows, List.map_map]
  refine List.map_congr_left (fun t _ => ?_)
  rw [Function.comp_apply]
  split_ifs <;> rfl

lemma unused_setUsed (now : Instant) (k : Uuid) : (write (.setUsed now k) d).Unused id ↔ d.Unused id ∧ id ≠ k := by
  have hmem (t : PasswordResetToken) : t ∈ (write (.setUsed now k) d).tokens.rows ↔
      (∃ old ∈ d.tokens.rows, old.id = k ∧ old.used now = t) ∨ t ∈ d.tokens.rows ∧ t.id ≠ k :=
    d.tokens.mem_update k (.used now) (PasswordResetToken.used_id now)
  constructor
  · rintro ⟨t, ht, rfl, hunused⟩
    rcases (hmem t).mp ht with ⟨old, _, _, rfl⟩ | ⟨hold, hne⟩
    · cases hunused
    · exact ⟨⟨t, hold, rfl, hunused⟩, hne⟩
  · rintro ⟨⟨t, ht, rfl, hunused⟩, hne⟩
    exact ⟨t, (hmem t).mpr (Or.inr ⟨ht, hne⟩), rfl, hunused⟩

lemma mem_matching {p : PasswordResetToken → Bool} :
    id ∈ d.matching p ↔ ∃ t ∈ d.tokens.rows, t.id = id ∧ p t = true := by
  rw [matching, List.mem_map]
  constructor
  · rintro ⟨t, ht, rfl⟩
    exact ⟨t, (List.mem_filter.mp ht).1, rfl, (List.mem_filter.mp ht).2⟩
  · rintro ⟨t, ht, rfl, hp⟩
    exact ⟨t, List.mem_filter.mpr ⟨ht, hp⟩, rfl⟩

lemma still_iff {p : PasswordResetToken → Bool} :
    d.still id p = true ↔ ∃ t ∈ d.tokens.rows, t.id = id ∧ p t = true := by
  simp [still]

lemma rows_createToken (row : PasswordResetToken) (d : PasswordDb) :
    (write (.createToken row) d).tokens.rows = d.tokens.rows ∨
      row.id ∉ d.tokens.rows.map PasswordResetToken.id ∧
        (write (.createToken row) d).tokens.rows = d.tokens.rows ++ [row] := by
  change ((d.tokens.insert row).getD d.tokens).rows = _ ∨ _ ∧ ((d.tokens.insert row).getD d.tokens).rows = _
  by_cases hid : row.id ∈ d.tokens.rows.map PasswordResetToken.id
  · have hnone : d.tokens.insert row = none := dif_pos hid
    exact Or.inl (by rw [hnone]; rfl)
  · obtain ⟨tokens, hinsert, hrows⟩ := Table.insert_of_new hid
    exact Or.inr ⟨hid, by rw [hinsert]; exact hrows⟩

lemma unused_createToken (row : PasswordResetToken) (h : (write (.createToken row) d).Unused id) :
    d.Unused id ∨ id = row.id := by
  obtain ⟨t, ht, rfl, hunused⟩ := h
  rcases rows_createToken row d with hsame | ⟨_, happended⟩
  · exact Or.inl ⟨t, hsame ▸ ht, rfl, hunused⟩
  · rw [happended, List.mem_append, List.mem_singleton] at ht
    rcases ht with hold | rfl
    · exact Or.inl ⟨t, hold, rfl, hunused⟩
    · exact Or.inr rfl

lemma createToken_old (row : PasswordResetToken) (hid : id ∈ d.tokens.rows.map PasswordResetToken.id) :
    id ∈ (write (.createToken row) d).tokens.rows.map PasswordResetToken.id ∧
      ((write (.createToken row) d).Unused id → d.Unused id) := by
  unfold Unused
  rcases rows_createToken row d with hsame | ⟨hnew, happended⟩
  · rw [hsame]
    exact ⟨hid, fun h => h⟩
  · rw [happended]
    refine ⟨by simp only [List.map_append, List.mem_append, hid, true_or], ?_⟩
    rintro ⟨t, ht, rfl, hunused⟩
    rcases List.mem_append.mp ht with hold | hrow
    · exact ⟨t, hold, rfl, hunused⟩
    · obtain rfl := List.mem_singleton.mp hrow
      exact absurd hid hnew

lemma createToken_unused (row : PasswordResetToken) (h : d.Unused id) : (write (.createToken row) d).Unused id := by
  obtain ⟨t, ht, rfl, hunused⟩ := h
  rcases rows_createToken row d with hsame | ⟨_, happended⟩
  · exact ⟨t, hsame ▸ ht, rfl, hunused⟩
  · exact ⟨t, happended ▸ List.mem_append_left _ ht, rfl, hunused⟩

end PasswordDb

open PasswordDb

def Marked (ws : List PasswordWrite) (id : Uuid) : Prop := ∃ now, .setUsed now id ∈ ws

structure Marks (owner : PasswordRow → Option I) (i : I) (ws : List PasswordWrite) : Prop where
  only : ∀ w ∈ ws, ∃ now id, w = .setUsed now id
  locked : ∀ id, Marked ws id → owner (.token id) = some i

lemma Marks.nil : Marks owner i [] := ⟨nofun, fun _ ⟨_, h⟩ => absurd h List.not_mem_nil⟩

lemma Marks.mono (h : Marks owner i ws) (howner : ∀ row, owner row = some i → owner' row = some i) :
    Marks owner' i ws := ⟨h.only, fun id hid => howner _ (h.locked id hid)⟩

lemma Marks.snoc (h : Marks owner i ws) (hlock : owner (.token id) = some i) (now : Instant) :
    Marks owner i (ws ++ [.setUsed now id]) where
  only w hw := by
    rcases List.mem_append.mp hw with hold | hnew
    · exact h.only w hold
    · exact ⟨now, id, List.mem_singleton.mp hnew⟩
  locked k hk := by
    obtain ⟨at', hk⟩ := hk
    rcases List.mem_append.mp hk with hold | hnew
    · exact h.locked k ⟨at', hold⟩
    · cases List.mem_singleton.mp hnew
      exact hlock

lemma applyAll_marks (hws : ∀ w ∈ ws, ∃ now id, w = .setUsed now id) (d : PasswordDb) :
    (passwordCode.applyAll ws d).tokens.rows.map PasswordResetToken.id = d.tokens.rows.map PasswordResetToken.id ∧
      (passwordCode.applyAll ws d).resets = d.resets ∧
      ∀ id, (passwordCode.applyAll ws d).Unused id ↔ d.Unused id ∧ ¬ Marked ws id := by
  induction ws generalizing d with
  | nil => exact ⟨rfl, rfl, fun id => ⟨fun h => ⟨h, fun ⟨_, hw⟩ => absurd hw List.not_mem_nil⟩, And.left⟩⟩
  | cons w ws ih =>
    obtain ⟨⟨now, k, rfl⟩, hrest⟩ := List.forall_mem_cons.mp hws
    obtain ⟨hids, hresets, hunused⟩ := ih hrest (write (.setUsed now k) d)
    refine ⟨hids.trans (ids_setUsed now k d), hresets, fun id => (hunused id).trans ?_⟩
    rw [unused_setUsed, and_assoc]
    refine and_congr_right (fun _ => ?_)
    constructor
    · rintro ⟨hne, hnot⟩ ⟨at', hmem⟩
      rcases List.mem_cons.mp hmem with heq | hmem
      · cases heq
        exact hne rfl
      · exact hnot ⟨at', hmem⟩
    · intro hnot
      refine ⟨fun heq => hnot ⟨now, heq ▸ List.mem_cons_self⟩, fun ⟨at', hmem⟩ => ?_⟩
      exact hnot ⟨at', List.mem_cons_of_mem _ hmem⟩

structure Consumed (d : PasswordDb) (owner : PasswordRow → Option I) (i : I) (consumed : List Uuid) : Prop where
  nodup : consumed.Nodup
  locked : ∀ id ∈ consumed, owner (.token id) = some i
  unused : ∀ id ∈ consumed, d.Unused id

def Covers (d : PasswordDb) (ws : List PasswordWrite) (pending : List Uuid) : Prop :=
  ∀ id, d.Unused id → id ∈ pending ∨ Marked ws id

def TokensHeld (d : PasswordDb) (owner : PasswordRow → Option I) (i : I) (x : Session PasswordFrame PasswordWrite) : Prop :=
  match x.frame with
  | .supersede _ pending => Marks owner i x.writes ∧ Covers d x.writes pending
  | .createToken _ => Marks owner i x.writes ∧ Covers d x.writes []
  | .commitToken => ∃ ws row, x.writes = ws ++ [.createToken row] ∧ Marks owner i ws ∧ Covers d ws []
  | .consume p _ consumed => x.writes = consumed.map (.setUsed p.now) ∧ Consumed d owner i consumed
  | .findTokenRow p consumed =>
    x.writes = consumed.map (.setUsed p.now) ∧ Consumed d owner i consumed ∧ consumed ≠ []
  | .updatePassword _ consumed =>
    ∃ now, x.writes = consumed.map (.setUsed now) ∧ Consumed d owner i consumed ∧ consumed ≠ []
  | .commitPassword => ∃ now passwordHash consumed,
    x.writes = consumed.map (.setUsed now) ++ [.setPassword passwordHash consumed] ∧ Consumed d owner i consumed ∧
      consumed ≠ []
  | .rollback _ => True
  | .done _ => True
  | _ => x.writes = []

lemma Consumed.mono {consumed : List Uuid} (h : Consumed d owner i consumed)
    (howner : ∀ row, owner row = some i → owner' row = some i)
    (hunused : ∀ id, owner (.token id) = some i → d.Unused id → d'.Unused id) : Consumed d' owner' i consumed :=
  ⟨h.nodup, fun id hid => howner _ (h.locked id hid), fun id hid => hunused id (h.locked id hid) (h.unused id hid)⟩

lemma TokensHeld.mono {x : Session PasswordFrame PasswordWrite} (h : TokensHeld d owner i x)
    (howner : ∀ row, owner row = some i → owner' row = some i)
    (hunused : ∀ id, owner (.token id) = some i → d.Unused id → d'.Unused id)
    (hissuing : x.frame.issuing = true → ∀ id, d'.Unused id → d.Unused id) : TokensHeld d' owner' i x := by
  unfold TokensHeld at h ⊢
  cases hframe : x.frame with
  | supersede r pending =>
    rw [hframe] at h hissuing
    exact ⟨h.1.mono howner, fun id hid => h.2 id (hissuing rfl id hid)⟩
  | createToken r =>
    rw [hframe] at h hissuing
    exact ⟨h.1.mono howner, fun id hid => h.2 id (hissuing rfl id hid)⟩
  | commitToken =>
    rw [hframe] at h hissuing
    obtain ⟨ws, row, hws, hmarks, hcovers⟩ := h
    exact ⟨ws, row, hws, hmarks.mono howner, fun id hid => hcovers id (hissuing rfl id hid)⟩
  | consume p pending consumed =>
    rw [hframe] at h
    exact ⟨h.1, h.2.mono howner hunused⟩
  | findTokenRow p consumed =>
    rw [hframe] at h
    exact ⟨h.1, h.2.1.mono howner hunused, h.2.2⟩
  | updatePassword passwordHash consumed =>
    rw [hframe] at h
    obtain ⟨now, hws, hconsumed, hne⟩ := h
    exact ⟨now, hws, hconsumed.mono howner hunused, hne⟩
  | commitPassword =>
    rw [hframe] at h
    obtain ⟨now, passwordHash, consumed, hws, hconsumed, hne⟩ := h
    exact ⟨now, passwordHash, consumed, hws, hconsumed.mono howner hunused, hne⟩
  | _ =>
    rw [hframe] at h
    exact h

lemma marks_map (now : Instant) (ids : List Uuid) :
    (∀ w ∈ ids.map (.setUsed now), ∃ now id, w = PasswordWrite.setUsed now id) ∧
      ∀ id, Marked (ids.map (.setUsed now)) id ↔ id ∈ ids := by
  constructor
  · intro w hw
    obtain ⟨id, _, rfl⟩ := List.mem_map.mp hw
    exact ⟨now, id, rfl⟩
  · intro id
    constructor
    · rintro ⟨at', hmem⟩
      obtain ⟨k, hk, heq⟩ := List.mem_map.mp hmem
      cases heq
      exact hk
    · exact fun hid => ⟨now, List.mem_map_of_mem hid⟩

lemma Consumed.marks {consumed : List Uuid} (h : Consumed d owner i consumed) (now : Instant) :
    Marks owner i (consumed.map (.setUsed now)) :=
  ⟨(marks_map now consumed).1, fun id hid => h.locked id (((marks_map now consumed).2 id).mp hid)⟩

lemma Consumed.snoc {p : PasswordChange} {consumed : List Uuid} (h : Consumed d owner i consumed)
    (hlock : owner (.token id) = some i)
    (hstill : (passwordCode.applyAll (consumed.map (.setUsed p.now)) d).still id p.accepts = true) :
    Consumed d owner i (consumed ++ [id]) := by
  obtain ⟨hmarks, hmarked⟩ := marks_map p.now consumed
  obtain ⟨t, ht, hid, haccepts⟩ := still_iff.mp hstill
  have hnone : t.usedAt = none := by
    simp only [PasswordChange.accepts, Bool.and_eq_true, Option.isNone_iff_eq_none] at haccepts
    exact haccepts.1.2
  obtain ⟨hunused, hnot⟩ := ((applyAll_marks hmarks d).2.2 id).mp ⟨t, ht, hid, hnone⟩
  rw [hmarked] at hnot
  refine ⟨h.nodup.append (List.nodup_singleton id) ?_, ?_, ?_⟩
  · exact List.disjoint_singleton.mpr hnot
  · intro k hk
    rcases List.mem_append.mp hk with hold | hnew
    · exact h.locked k hold
    · exact List.mem_singleton.mp hnew ▸ hlock
  · intro k hk
    rcases List.mem_append.mp hk with hold | hnew
    · exact h.unused k hold
    · exact List.mem_singleton.mp hnew ▸ hunused

lemma TokensHeld.statement {frame : PasswordFrame} {next : PasswordFrame × List PasswordWrite}
    (h : TokensHeld d owner i ⟨frame, ws⟩) (hlock : ∀ row k, passwordStatement frame = .lock row k → owner row = some i)
    (hnext : (passwordStatement frame).moves (passwordCode.applyAll ws d) = some next) :
    TokensHeld d owner i ⟨next.1, ws ++ next.2⟩ := by
  cases frame with
  | findByEmail r =>
    obtain rfl : ws = [] := h
    obtain rfl := Option.some.inj hnext
    dsimp only
    split <;> trivial
  | findUnused r =>
    obtain rfl : ws = [] := h
    obtain rfl := Option.some.inj hnext
    refine ⟨.nil, fun id hid => Or.inl (mem_matching.mpr ?_)⟩
    obtain ⟨t, ht, hid, hnone⟩ := hid
    exact ⟨t, ht, hid, Option.isNone_iff_eq_none.mpr hnone⟩
  | supersede r pending =>
    obtain ⟨hmarks, hcovers⟩ := h
    cases pending with
    | nil =>
      obtain rfl := Option.some.inj hnext
      exact ⟨by simpa using hmarks, by simpa using hcovers⟩
    | cons id pending =>
      obtain rfl := Option.some.inj hnext
      dsimp only
      split
      · refine ⟨hmarks.snoc (hlock _ _ rfl) r.now, fun k hk => ?_⟩
        rcases hcovers k hk with hmem | ⟨now, hmarked⟩
        · rcases List.mem_cons.mp hmem with rfl | hrest
          · exact Or.inr ⟨r.now, List.mem_append_right _ List.mem_cons_self⟩
          · exact Or.inl hrest
        · exact Or.inr ⟨now, List.mem_append_left _ hmarked⟩
      next hused =>
        refine ⟨by simpa using hmarks, fun k hk => ?_⟩
        rw [List.append_nil]
        rcases hcovers k hk with hmem | hmarked
        · rcases List.mem_cons.mp hmem with rfl | hrest
          · -- the row is used in what the session sees, so it has marked it itself
            refine Or.inr (Classical.not_not.mp (fun hnot => hused (still_iff.mpr ?_)))
            obtain ⟨t, ht, hid, hnone⟩ := ((applyAll_marks hmarks.only d).2.2 k).mpr ⟨hk, hnot⟩
            exact ⟨t, ht, hid, Option.isNone_iff_eq_none.mpr hnone⟩
          · exact Or.inl hrest
        · exact Or.inr hmarked
  | createToken r =>
    obtain ⟨hmarks, hcovers⟩ := h
    obtain rfl := Option.some.inj hnext
    dsimp only
    split
    · trivial
    · exact ⟨ws, _, rfl, hmarks, hcovers⟩
  | findToken p =>
    obtain rfl : ws = [] := h
    obtain rfl := Option.some.inj hnext
    exact ⟨rfl, List.nodup_nil, nofun, nofun⟩
  | consume p pending consumed =>
    obtain ⟨rfl, hconsumed⟩ : ws = _ ∧ _ := h
    cases pending with
    | nil =>
      obtain rfl := Option.some.inj hnext
      dsimp only
      split
      · trivial
      next hne => exact ⟨List.append_nil _, hconsumed, hne⟩
    | cons id pending =>
      obtain rfl := Option.some.inj hnext
      dsimp only
      split
      next hstill => exact ⟨by simp, hconsumed.snoc (hlock _ _ rfl) hstill⟩
      · exact ⟨List.append_nil _, hconsumed⟩
  | findTokenRow p consumed =>
    obtain ⟨rfl, hconsumed⟩ : ws = _ ∧ _ := h
    obtain rfl := Option.some.inj hnext
    dsimp only
    split
    · trivial
    · split
      · exact ⟨p.now, List.append_nil _, hconsumed⟩
      · trivial
  | updatePassword passwordHash consumed =>
    obtain ⟨now, rfl, hconsumed⟩ := h
    obtain rfl := Option.some.inj hnext
    exact ⟨now, passwordHash, consumed, rfl, hconsumed⟩
  | commitToken => cases hnext
  | commitPassword => cases hnext
  | rollback e => cases hnext
  | done failure => cases hnext

lemma PasswordDb.Spent.createToken (h : d.Spent) (hmarks : Marks owner i ws) (hcovers : Covers d ws [])
    (row : PasswordResetToken) : (passwordCode.applyAll (ws ++ [.createToken row]) d).Spent := by
  obtain ⟨hids, hresets, hunused⟩ := applyAll_marks hmarks.only d
  have hnone (id : Uuid) : ¬ (passwordCode.applyAll ws d).Unused id := by
    intro hid
    obtain ⟨hbefore, hnot⟩ := (hunused id).mp hid
    rcases hcovers id hbefore with hmem | hmarked
    · cases hmem
    · exact hnot hmarked
  rw [Code.applyAll_append]
  change (write (.createToken row) (passwordCode.applyAll ws d)).Spent
  have hsame : (write (.createToken row) (passwordCode.applyAll ws d)).resets = d.resets := hresets
  have honly (id : Uuid) (hid : (write (.createToken row) (passwordCode.applyAll ws d)).Unused id) : id = row.id :=
    (unused_createToken row hid).resolve_left (hnone id)
  refine ⟨fun a b ha hb => (honly a ha).trans (honly b hb).symm, hsame ▸ h.once, hsame ▸ h.later,
    hsame ▸ h.consumed, fun r hr id hid => ?_⟩
  obtain ⟨hmem, _⟩ := h.issued r (hsame ▸ hr) id hid
  obtain ⟨hkept, hused⟩ := createToken_old row (hids ▸ hmem)
  exact ⟨hkept, fun hagain => hnone id (hused hagain)⟩

/-- The token that a reset consumes was the only unused one, so none is left that was issued before it. -/
lemma PasswordDb.Spent.setPassword {consumed : List Uuid} (h : d.Spent) (hconsumed : Consumed d owner i consumed)
    (hne : consumed ≠ []) (now : Instant) (passwordHash : String) :
    (passwordCode.applyAll (consumed.map (.setUsed now) ++ [.setPassword passwordHash consumed]) d).Spent ∧
      ∀ id, ¬ (passwordCode.applyAll (consumed.map (.setUsed now) ++ [.setPassword passwordHash consumed]) d).Unused
        id := by
  obtain ⟨k, rfl⟩ : ∃ k, consumed = [k] := by
    obtain ⟨k, rest, rfl⟩ := List.exists_cons_of_ne_nil hne
    cases rest with
    | nil => exact ⟨k, rfl⟩
    | cons other rest =>
      have hsame : k = other := h.one k other (hconsumed.unused k List.mem_cons_self)
        (hconsumed.unused other (List.mem_cons_of_mem _ List.mem_cons_self))
      exact absurd (hsame ▸ List.mem_cons_self) (List.nodup_cons.mp hconsumed.nodup).1
  have hk : d.Unused k := hconsumed.unused k List.mem_cons_self
  obtain ⟨hmarks, hmarked⟩ := marks_map now [k]
  obtain ⟨hids, hresets, hunused⟩ := applyAll_marks hmarks d
  rw [Code.applyAll_append]
  have hnone (id : Uuid) : ¬ (passwordCode.applyAll ([k].map (.setUsed now)) d).Unused id := by
    intro hid
    obtain ⟨hbefore, hnot⟩ := (hunused id).mp hid
    exact hnot ((hmarked id).mpr (List.mem_singleton.mpr (h.one id k hbefore hk)))
  have hspent (r : PasswordReset) (hr : r ∈ d.resets) : k ∉ r.issued := fun hmem => (h.issued r hr k hmem).2 hk
  refine ⟨⟨fun a _ ha _ => absurd ha (hnone a), ?_, ?_, ?_, ?_⟩, hnone⟩
  · change ((_ ++ [_]).map PasswordReset.tokenId).Nodup
    rw [hresets, List.map_append]
    refine h.once.append (List.nodup_singleton _) (List.disjoint_singleton.mpr (fun hmem => ?_))
    obtain ⟨r, hr, hid⟩ := List.mem_map.mp hmem
    have hsame : r.tokenId = k := hid
    exact hspent r hr (hsame ▸ h.consumed r hr)
  · change List.Pairwise _ (_ ++ [_])
    rw [hresets]
    refine List.pairwise_append.mpr ⟨h.later, List.pairwise_singleton _ _, fun r hr after hafter => ?_⟩
    obtain rfl := List.mem_singleton.mp hafter
    exact hspent r hr
  · intro r hr
    rcases List.mem_append.mp hr with hold | hnew
    · exact h.consumed r (hresets ▸ hold)
    · obtain rfl := List.mem_singleton.mp hnew
      obtain ⟨t, ht, hid, _⟩ := hk
      change k ∈ _
      rw [hids, ← hid]
      exact List.mem_map_of_mem ht
  · intro r hr id hid
    refine ⟨?_, hnone id⟩
    rcases List.mem_append.mp hr with hold | hnew
    · have hmem := (h.issued r (hresets ▸ hold) id hid).1
      rw [← hids] at hmem
      exact hmem
    · obtain rfl := List.mem_singleton.mp hnew
      exact hid

lemma TokensHeld.commit {frame next : PasswordFrame} (h : TokensHeld d owner i ⟨frame, ws⟩) (hd : d.Spent)
    (hcommit : passwordStatement frame = .commit next) :
    (passwordCode.applyAll ws d).Spent ∧
      (∀ id, owner (.token id) ≠ some i → d.Unused id → (passwordCode.applyAll ws d).Unused id) ∧
      (frame.issuing = false → ∀ id, (passwordCode.applyAll ws d).Unused id → d.Unused id) := by
  cases frame with
  | commitToken =>
    obtain ⟨marks, row, rfl, hmarks, hcovers⟩ := h
    refine ⟨hd.createToken hmarks hcovers row, fun id howner hunused => ?_, nofun⟩
    rw [Code.applyAll_append]
    refine createToken_unused row (((applyAll_marks hmarks.only d).2.2 id).mpr ⟨hunused, fun hmarked => ?_⟩)
    exact howner (hmarks.locked id hmarked)
  | commitPassword =>
    obtain ⟨now, passwordHash, consumed, rfl, hconsumed, hne⟩ := h
    obtain ⟨hspent, hnone⟩ := hd.setPassword hconsumed hne now passwordHash
    refine ⟨hspent, fun id howner hunused => ?_, fun _ id hid => absurd hid (hnone id)⟩
    obtain ⟨k, hk⟩ := List.exists_mem_of_ne_nil consumed hne
    exact absurd (hconsumed.locked k hk) (hd.one id k hunused (hconsumed.unused k hk) ▸ howner)
  | supersede r pending => cases pending <;> cases hcommit
  | consume p pending consumed => cases pending <;> cases hcommit
  | _ => cases hcommit

variable [DecidableEq I] {s t : State PasswordDb PasswordRow I PasswordFrame PasswordWrite} {e : Event I}

structure ResetInv (s : State PasswordDb PasswordRow I PasswordFrame PasswordWrite) : Prop where
  spent : s.committed.Spent
  held : ∀ i, TokensHeld s.committed s.owner i (s.session i)
  apart : ∀ i j, (s.session i).frame.issuing = true → (s.session j).frame.issuing = true → i = j

lemma issuing_moves {frame : PasswordFrame} {next : PasswordFrame × List PasswordWrite}
    (hnext : (passwordStatement frame).moves d = some next) (hissuing : next.1.issuing = true) :
    frame.issuing = true ∨ frame.opening = true := by
  cases frame with
  | findUnused r => exact Or.inr rfl
  | supersede r pending => exact Or.inl rfl
  | createToken r => exact Or.inl rfl
  | consume p pending consumed =>
    cases pending with
    | nil =>
      obtain rfl := Option.some.inj hnext
      dsimp only at hissuing
      split at hissuing <;> cases hissuing
    | cons id pending =>
      obtain rfl := Option.some.inj hnext
      dsimp only at hissuing
      split at hissuing <;> cases hissuing
  | findByEmail r =>
    obtain rfl := Option.some.inj hnext
    dsimp only at hissuing
    split at hissuing <;> cases hissuing
  | findTokenRow p consumed =>
    obtain rfl := Option.some.inj hnext
    dsimp only at hissuing
    split at hissuing
    · cases hissuing
    · split at hissuing <;> cases hissuing
  | findToken p =>
    obtain rfl := Option.some.inj hnext
    cases hissuing
  | updatePassword passwordHash consumed =>
    obtain rfl := Option.some.inj hnext
    cases hissuing
  | commitToken => cases hnext
  | commitPassword => cases hnext
  | rollback e => cases hnext
  | done failure => cases hnext

lemma ends_done {frame next : PasswordFrame} (h : (passwordStatement frame).ends = some next) :
    ∃ failure, next = .done failure := by
  cases frame with
  | supersede r pending => cases pending <;> cases h
  | consume p pending consumed => cases pending <;> cases h
  | commitToken => exact ⟨none, (Option.some.inj h).symm⟩
  | commitPassword => exact ⟨none, (Option.some.inj h).symm⟩
  | rollback e => exact ⟨some e, (Option.some.inj h).symm⟩
  | _ => cases h

lemma ResetInv.moves (hs : ResetInv s) {r : PasswordFrame × List PasswordWrite} (owner : PasswordRow → Option I)
    (hkeep : ∀ row j, s.owner row = some j → owner row = some j)
    (hlock : ∀ row k, passwordStatement (s.session i).frame = .lock row k → owner row = some i)
    (hapart : RequestsApart s (.advance i))
    (hnext : (passwordStatement (s.session i).frame).moves (visible passwordCode s i) = some r) :
    ResetInv { s.write i r with owner } where
  spent := hs.spent
  held j := by
    by_cases hj : j = i
    · subst hj
      have hbefore : TokensHeld s.committed owner j ⟨(s.session j).frame, (s.session j).writes⟩ :=
        (hs.held j).mono (fun row => hkeep row j) (fun _ _ h => h) (fun _ _ h => h)
      have hafter := hbefore.statement hlock hnext
      simpa only [State.write, Function.update_self] using hafter
    · simp only [State.write, Function.update_of_ne hj]
      exact (hs.held j).mono (fun row => hkeep row j) (fun _ _ h => h) (fun _ _ h => h)
  apart := by
    have hcases (j : I) (hj : ((s.write i r).session j).frame.issuing = true) :
        (s.session j).frame.issuing = true ∨ j = i ∧ ∀ k, (s.session k).frame.issuing = false := by
      by_cases hji : j = i
      · subst hji
        simp only [State.write, Function.update_self] at hj
        rcases issuing_moves hnext hj with hissuing | hopening
        · exact Or.inl hissuing
        · exact Or.inr ⟨rfl, hapart hopening⟩
      · simp only [State.write, Function.update_of_ne hji] at hj
        exact Or.inl hj
    intro j k hj hk
    rcases hcases j hj with hold | ⟨rfl, hnone⟩
    · rcases hcases k hk with hold' | ⟨rfl, hnone⟩
      · exact hs.apart j k hold hold'
      · exact absurd ((hnone j).symm.trans hold) nofun
    · rcases hcases k hk with hold' | ⟨rfl, _⟩
      · exact absurd ((hnone k).symm.trans hold') nofun
      · rfl

lemma ResetInv.finish (hs : ResetInv s) (hspent : d.Spent) (failure : Option AppError)
    (hkept : ∀ id, s.owner (.token id) ≠ some i → s.committed.Unused id → d.Unused id)
    (hother : ∀ j ≠ i, (s.session j).frame.issuing = true → ∀ id, d.Unused id → s.committed.Unused id) :
    ResetInv (s.finish i d (.done failure)) where
  spent := hspent
  held j := by
    by_cases hj : j = i
    · subst hj
      simp only [State.finish, Function.update_self]
      trivial
    · simp only [State.finish, Function.update_of_ne hj]
      have hnot (row : PasswordRow) (hrow : s.owner row = some j) : s.owner row ≠ some i :=
        fun hi => hj (Option.some.inj (hrow.symm.trans hi))
      refine (hs.held j).mono (fun row hrow => ?_) (fun id hid => hkept id (hnot _ hid)) (hother j hj)
      exact (if_neg (hnot row hrow)).trans hrow
  apart j k hj hk := by
    have hold (l : I) (hl : ((s.finish i d (.done failure)).session l).frame.issuing = true) :
        (s.session l).frame.issuing = true := by
      by_cases hli : l = i
      · subst hli
        simp only [State.finish, Function.update_self] at hl
        cases hl
      · simpa only [State.finish, Function.update_of_ne hli] using hl
    exact hs.apart j k (hold j hj) (hold k hk)

lemma ResetInv.step (hs : ResetInv s) (hapart : RequestsApart s e) (h : step passwordCode s e = some t) : ResetInv t := by
  have hsame (i : I) (failure : Option AppError) : ResetInv (s.finish i s.committed (.done failure)) :=
    hs.finish hs.spent failure (fun _ _ h => h) (fun _ _ _ _ h => h)
  cases e with
  | fail i =>
    obtain rfl := Option.some.inj h
    exact hsame i _
  | advance i =>
    have hheld : TokensHeld s.committed s.owner i ⟨(s.session i).frame, (s.session i).writes⟩ := hs.held i
    cases haction : passwordStatement (s.session i).frame with
    | run next =>
      have hrun : (passwordCode.action (s.session i).frame) = .run next := haction
      simp only [ReadCommitted.step, hrun, Option.some.injEq] at h
      subst h
      refine hs.moves (r := next (visible passwordCode s i)) s.owner (fun _ _ h => h) ?_ hapart ?_
      · intro row k hlock
        cases haction.symm.trans hlock
      · rw [haction]
        rfl
    | lock row next =>
      have hrun : (passwordCode.action (s.session i).frame) = .lock row next := haction
      simp only [ReadCommitted.step, hrun, Option.ite_none_right_eq_some, Option.some.injEq] at h
      obtain ⟨hfree, rfl⟩ := h
      refine hs.moves (r := next (visible passwordCode s i)) (Function.update s.owner row (some i)) ?_ ?_ hapart ?_
      · intro other j hj
        by_cases hrow : other = row
        · subst hrow
          rcases hfree with hnone | hi
          · cases hnone.symm.trans hj
          · rw [Function.update_self, ← hi, hj]
        · rwa [Function.update_of_ne hrow]
      · intro other k hlock
        cases haction.symm.trans hlock
        exact Function.update_self ..
      · rw [haction]
        rfl
    | commit next =>
      have hrun : (passwordCode.action (s.session i).frame) = .commit next := haction
      simp only [ReadCommitted.step, hrun, Option.some.injEq] at h
      subst h
      obtain ⟨hspent, hkept, hunused⟩ := hheld.commit hs.spent haction
      obtain ⟨failure, rfl⟩ := ends_done (congrArg Action.ends haction)
      refine hs.finish hspent failure hkept (fun j hj hissuing => hunused ?_)
      rw [← Bool.not_eq_true]
      exact fun hi => hj (hs.apart j i hissuing hi)
    | rollback next =>
      have hrun : (passwordCode.action (s.session i).frame) = .rollback next := haction
      simp only [ReadCommitted.step, hrun, Option.some.injEq] at h
      subst h
      obtain ⟨failure, rfl⟩ := ends_done (congrArg Action.ends haction)
      exact hsame i _
    | stop =>
      have hrun : (passwordCode.action (s.session i).frame) = .stop := haction
      simp only [ReadCommitted.step, hrun, reduceCtorEq] at h

omit [DecidableEq I] in
lemma inv_begin (hd : d.Fresh) (requests : I → PasswordRequest) :
    ResetInv (begin d (fun i => (requests i).start)) where
  spent := hd.spent
  held i := by
    change TokensHeld d (fun _ => none) i ⟨(requests i).start, []⟩
    cases requests i with
    | requestReset r => exact rfl
    | resetPassword p => exact rfl
  apart i j hi _ := by
    change (requests i).start.issuing = true at hi
    cases hrequest : requests i with
    | requestReset r =>
      rw [hrequest] at hi
      cases hi
    | resetPassword p =>
      rw [hrequest] at hi
      cases hi

theorem one_reset_token {requests : I → PasswordRequest} {es : List (Event I)} (hd : d.Fresh)
    (h : Run (Guarded (Enabled (ReadCommitted.step passwordCode)) RequestsApart)
      (begin d (fun i => (requests i).start)) es s) : s.committed.OneReset :=
  (h.invariant (fun _ _ _ ha he => ha.step he.2 he.1) (inv_begin hd requests)).spent.oneReset

instance [Fintype I] (s : State PasswordDb PasswordRow I PasswordFrame PasswordWrite) :
    (e : Event I) → Decidable (RequestsApart s e)
  | .advance i =>
    inferInstanceAs (Decidable ((s.session i).frame.opening = true → ∀ j, (s.session j).frame.issuing = false))
  | .fail _ => .isTrue trivial

namespace Sample

def resetUser : PasswordDb where
  user := ⟨"a@b.c", some "old", .active⟩
  tokens := .empty

def resetCalls : Fin 4 → PasswordRequest
  | 0 => .requestReset ⟨0, "a@b.c", 1, "h1"⟩
  | 1 => .requestReset ⟨0, "a@b.c", 2, "h2"⟩
  | 2 => .resetPassword ⟨10, "h1", "password 1", fun _ => "new 1", .stored⟩
  | 3 => .resetPassword ⟨10, "h2", "password 2", fun _ => "new 2", .stored⟩

def resetting : State PasswordDb PasswordRow (Fin 4) PasswordFrame PasswordWrite :=
  begin resetUser (fun i => (resetCalls i).start)

def advances (n : ℕ) (i : Fin 4) : List (Event (Fin 4)) := List.replicate n (.advance i)

def inTurn : List (Event (Fin 4)) := advances 5 0 ++ advances 6 1 ++ advances 3 2 ++ advances 6 3

def together : List (Event (Fin 4)) := advances 2 0 ++ advances 2 1 ++ advances 3 0 ++ advances 3 1

lemma resetUser_fresh : resetUser.Fresh := ⟨rfl, fun _ _ ⟨_, h, _⟩ => absurd h List.not_mem_nil⟩

end Sample

open Sample

theorem one_reset_token_sample : ∃ s, Run (Enabled (ReadCommitted.step passwordCode)) resetting inTurn s ∧
    s.committed.OneReset := by
  have hsome : (inTurn.foldlM (checked (ReadCommitted.step passwordCode) RequestsApart) resetting).isSome := by decide
  obtain ⟨s, hs⟩ := Option.isSome_iff_exists.mp hsome
  have hguarded := run_checked hs
  exact ⟨s, hguarded.unguarded, one_reset_token resetUser_fresh hguarded⟩

theorem two_reset_tokens : ∃ s t, resetUser.Fresh ∧
    Run (Enabled (ReadCommitted.step passwordCode)) resetting together s ∧
    Run (Enabled (ReadCommitted.step passwordCode)) s (advances 6 2 ++ advances 6 3) t ∧
    (s.committed.tokens.rows.filter (fun token => token.Usable 10)).length = 2 ∧
    (t.committed.resets.map PasswordReset.tokenId = [1, 2] ∧
      ¬ t.committed.resets.Pairwise (fun before after => after.tokenId ∉ before.issued)) := by
  have hend : (together.foldlM (ReadCommitted.step passwordCode) resetting).any (fun s =>
      (s.committed.tokens.rows.filter (fun token => token.Usable 10)).length = 2 ∧
      ((advances 6 2 ++ advances 6 3).foldlM (ReadCommitted.step passwordCode) s).any (fun t =>
        t.committed.resets.map PasswordReset.tokenId = [1, 2] ∧
          ¬ t.committed.resets.Pairwise (fun before after => after.tokenId ∉ before.issued)) = true) = true := by
    decide
  obtain ⟨s, hs, hall⟩ := (Option.any_eq_true _ _).mp hend
  obtain ⟨htwo, hnext⟩ := of_decide_eq_true hall
  obtain ⟨t, ht, hlast⟩ := (Option.any_eq_true _ _).mp hnext
  exact ⟨s, t, resetUser_fresh, (run_enabled_iff _ _ _ _).mpr hs, (run_enabled_iff _ _ _ _).mpr ht, htwo,
    of_decide_eq_true hlast⟩

end Truckmaster.Identity
