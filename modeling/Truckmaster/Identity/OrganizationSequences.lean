import Truckmaster.Library.Transactions
import Truckmaster.QuoteLoad.Booking

namespace Truckmaster.Identity

open Common ReadCommitted Runs Transactions

inductive OrganizationSequenceType
  | load | quote | invoice
  deriving DecidableEq, Repr

/-- The counters of an organization, the numbers of its records in the order of their commits, and all other rows. -/
structure SequenceDb (R : Type) where
  currentValue : OrganizationSequenceType → Option ℕ
  numbers : OrganizationSequenceType → List String
  others : R

inductive SequenceRow (K : Type)
  | sequence (sequenceType : OrganizationSequenceType)
  | number (sequenceType : OrganizationSequenceType) (number : String)
  | other (row : K)
  deriving DecidableEq

inductive SequenceWrite (W : Type)
  | setValue (sequenceType : OrganizationSequenceType) (value : ℕ)
  | create (sequenceType : OrganizationSequenceType) (number : String)
  | other (w : W)

variable {R K W I : Type} {apply : W → R → R} {d d' : SequenceDb R} {sequenceType t : OrganizationSequenceType}

namespace SequenceDb

def write (apply : W → R → R) : SequenceWrite W → SequenceDb R → SequenceDb R
  | .setValue sequenceType value, d =>
    { d with currentValue := Function.update d.currentValue sequenceType (some value) }
  | .create sequenceType number, d =>
    { d with numbers := Function.update d.numbers sequenceType (d.numbers sequenceType ++ [number]) }
  | .other w, d => { d with others := apply w d.others }

def part : Part (SequenceDb R) R where
  get d := d.others
  put x d := { d with others := x }
  get_put _ _ := rfl
  put_put _ _ _ := rfl
  put_get _ := rfl

end SequenceDb

abbrev SequenceTx (R K W α : Type) := Txn (SequenceDb R) (SequenceRow K) (SequenceWrite W) AppError α

namespace OrganizationSequenceService

def tag : OrganizationSequenceType → String
  | .load => "LOAD"
  | .quote => "QUOTE"
  | .invoice => "INV"

def format (sequenceType : OrganizationSequenceType) (value : ℕ) : String :=
  QuoteLoad.OrganizationSequenceService.format (tag sequenceType) value

def bigIntMax : ℕ := 2 ^ 63 - 1

def upsert (sequenceType : OrganizationSequenceType) : SequenceTx R K W Unit :=
  .statement (some (.sequence sequenceType))
    (fun d => if d.currentValue sequenceType = none then [.setValue sequenceType 0] else []) (fun _ => .done ())

def getNextNumber (sequenceType : OrganizationSequenceType) : SequenceTx R K W ℕ := do
  upsert sequenceType
  let locked ← Txn.readLocked (.sequence sequenceType) (fun d => d.currentValue sequenceType)
  let currentValue ← Txn.require locked (.database "Cannot read properties of undefined.")
  Txn.ensure (currentValue + 1 ≤ bigIntMax) (.database "bigint out of range.")
  Txn.update (.sequence sequenceType) (.setValue sequenceType (currentValue + 1))
  pure (currentValue + 1)

end OrganizationSequenceService

open OrganizationSequenceService

/-- A booking, a Quote's or an Invoice's creation. The statements up to `getNextNumber` return those that come after
the record's own, which may use the number. -/
structure NumberedRequest (R K W : Type) where
  sequenceType : OrganizationSequenceType
  statements : Txn R K W AppError (ℕ → Txn R K W AppError Unit)

def NumberedRequest.transaction (r : NumberedRequest R K W) : SequenceTx R K W Unit := do
  let rest ← r.statements.embed SequenceDb.part .other .other
  let next ← getNextNumber r.sequenceType
  let number := format r.sequenceType next
  Txn.insert (.number r.sequenceType number) (fun d => (d.numbers r.sequenceType).contains number)
    (.create r.sequenceType number) (.database "Unique constraint failed.")
  (rest next).embed SequenceDb.part .other .other

def SequenceDb.GapFree (d : SequenceDb R) : Prop :=
  ∀ t, d.numbers t = (List.range' 1 ((d.currentValue t).getD 0)).map (format t)

lemma format_injective (t : OrganizationSequenceType) : Function.Injective (format t) := by
  have hread (n : ℕ) : Nat.ofDigitChars 10 (List.replicate (6 - (Nat.repr n).toList.length) '0' ++
      (Nat.repr n).toList) 0 = n := by
    rw [Nat.ofDigitChars_append, Nat.ofDigitChars_replicate_zero, Nat.mul_zero, Nat.repr_eq_ofList_toDigits,
      String.toList_ofList, Nat.ofDigitChars_ten_toDigits]
  intro m n h
  have hlist := congrArg String.toList h
  simp only [format, QuoteLoad.OrganizationSequenceService.format, String.toList_append, String.toList_ofList] at hlist
  have hdigits := congrArg (fun l => Nat.ofDigitChars 10 l 0) (List.append_cancel_left hlist)
  rwa [hread, hread] at hdigits

/-- How far a transaction has come: a number is known under the counter's lock, written to it, and given to a record. -/
inductive Drawing
  | before
  | locked (t : OrganizationSequenceType)
  | known (t : OrganizationSequenceType) (currentValue : ℕ)
  | numbered (t : OrganizationSequenceType) (next : ℕ)
  | recorded (t : OrganizationSequenceType)

namespace Drawing

def final : Drawing → Prop
  | .before => True
  | .recorded _ => True
  | _ => False

inductive Move : Drawing → Option (SequenceRow K) → SequenceDb R → List (SequenceWrite W) → Drawing → Prop
  | other (g : Drawing) (row : Option (SequenceRow K)) (d : SequenceDb R) (ws : List W) :
      Move g row d (ws.map .other) g
  | lock (t : OrganizationSequenceType) (d : SequenceDb R) : Move .before (some (.sequence t)) d
      (if d.currentValue t = none then [.setValue t 0] else []) (.locked t)
  | read (t : OrganizationSequenceType) (row : Option (SequenceRow K)) (d : SequenceDb R) (n : ℕ)
      (h : d.currentValue t = some n) : Move (.locked t) row d [] (.known t n)
  | update (t : OrganizationSequenceType) (row : Option (SequenceRow K)) (d : SequenceDb R) (n : ℕ) :
      Move (.known t n) row d [.setValue t (n + 1)] (.numbered t (n + 1))
  | create (t : OrganizationSequenceType) (row : Option (SequenceRow K)) (d : SequenceDb R) (n : ℕ) :
      Move (.numbered t n) row d [.create t (format t n)] (.recorded t)

end Drawing

def applyAll (apply : W → R → R) (ws : List (SequenceWrite W)) (d : SequenceDb R) : SequenceDb R :=
  ws.foldl (fun d w => SequenceDb.write apply w d) d

structure Agree (t : OrganizationSequenceType) (d d' : SequenceDb R) : Prop where
  currentValue : d'.currentValue t = d.currentValue t
  numbers : d'.numbers t = d.numbers t

variable {ws : List (SequenceWrite W)} {owner owner' : SequenceRow K → Option I} {i : I} {g g' : Drawing} {n : ℕ}

lemma Agree.trans {d'' : SequenceDb R} (h : Agree t d d') (h' : Agree t d' d'') : Agree t d d'' :=
  ⟨h'.currentValue.trans h.currentValue, h'.numbers.trans h.numbers⟩

lemma Agree.write (h : Agree t d d') (apply : W → R → R) (w : SequenceWrite W) :
    Agree t (d.write apply w) (d'.write apply w) := by
  cases w with
  | setValue t' value =>
    refine ⟨?_, h.numbers⟩
    simp only [SequenceDb.write, Function.update_apply]
    split
    · rfl
    · exact h.currentValue
  | create t' number =>
    refine ⟨h.currentValue, ?_⟩
    simp only [SequenceDb.write, Function.update_apply]
    split
    next ht =>
      subst ht
      rw [h.numbers]
    · exact h.numbers
  | other w => exact ⟨h.currentValue, h.numbers⟩

lemma Agree.applyAll (h : Agree t d d') (apply : W → R → R) (ws : List (SequenceWrite W)) :
    Agree t (applyAll apply ws d) (applyAll apply ws d') := by
  induction ws generalizing d d' with
  | nil => exact h
  | cons w ws ih => exact ih (h.write apply w)

def Untouched (apply : W → R → R) (ws : List (SequenceWrite W)) (t : OrganizationSequenceType) : Prop :=
  ∀ d, Agree t d (applyAll apply ws d)

lemma applyAll_append (apply : W → R → R) (ws vs : List (SequenceWrite W)) (d : SequenceDb R) :
    applyAll apply (ws ++ vs) d = applyAll apply vs (applyAll apply ws d) := List.foldl_append ..

lemma Untouched.append {vs : List (SequenceWrite W)} (h : Untouched apply ws t) (h' : Untouched apply vs t) :
    Untouched apply (ws ++ vs) t := by
  intro d
  rw [applyAll_append]
  exact (h d).trans (h' _)

lemma untouched_nil : Untouched apply [] t := fun _ => ⟨rfl, rfl⟩

lemma untouched_other (ws : List W) : Untouched apply (ws.map .other) t := by
  induction ws with
  | nil => exact untouched_nil
  | cons w ws ih =>
    intro d
    have hrest := ih (d.write apply (.other w))
    exact ⟨hrest.currentValue, hrest.numbers⟩

lemma untouched_setValue {t' : OrganizationSequenceType} (ht : t ≠ t') (value : ℕ) :
    Untouched apply [.setValue t' value] t := fun _ => ⟨Function.update_of_ne ht .., rfl⟩

lemma untouched_create {t' : OrganizationSequenceType} (ht : t ≠ t') (number : String) :
    Untouched apply [.create t' number] t := fun _ => ⟨rfl, Function.update_of_ne ht ..⟩

structure HoldsSequence (apply : W → R → R) (t : OrganizationSequenceType) (owner : SequenceRow K → Option I) (i : I)
    (ws : List (SequenceWrite W)) : Prop where
  locked : owner (.sequence t) = some i
  untouched : ∀ t' ≠ t, Untouched apply ws t'

def Drawing.Knows (apply : W → R → R) (d : SequenceDb R) (owner : SequenceRow K → Option I) (i : I)
    (ws : List (SequenceWrite W)) : Drawing → Prop
  | .before => ∀ t, Untouched apply ws t
  | .locked t => HoldsSequence apply t owner i ws ∧
    ((applyAll apply ws d).currentValue t).getD 0 = (d.currentValue t).getD 0 ∧
    (applyAll apply ws d).numbers t = d.numbers t
  | .known t n => HoldsSequence apply t owner i ws ∧ (d.currentValue t).getD 0 = n ∧
    (applyAll apply ws d).numbers t = d.numbers t
  | .numbered t n => HoldsSequence apply t owner i ws ∧ (d.currentValue t).getD 0 + 1 = n ∧
    (applyAll apply ws d).currentValue t = some n ∧ (applyAll apply ws d).numbers t = d.numbers t
  | .recorded t => HoldsSequence apply t owner i ws ∧
    (applyAll apply ws d).currentValue t = some ((d.currentValue t).getD 0 + 1) ∧
    (applyAll apply ws d).numbers t = d.numbers t ++ [format t ((d.currentValue t).getD 0 + 1)]

lemma Drawing.Knows.stable (h : g.Knows apply d owner i ws)
    (hlock : ∀ t, owner (.sequence t) = some i → owner' (.sequence t) = some i ∧ Agree t d d') :
    g.Knows apply d' owner' i ws := by
  have hheld (t : OrganizationSequenceType) (ht : HoldsSequence apply t owner i ws) :
      HoldsSequence apply t owner' i ws ∧ Agree t d d' ∧ Agree t (applyAll apply ws d) (applyAll apply ws d') :=
    ⟨⟨(hlock t ht.locked).1, ht.untouched⟩, (hlock t ht.locked).2, (hlock t ht.locked).2.applyAll apply ws⟩
  cases g with
  | before => exact h
  | locked t =>
    obtain ⟨hholds, hd, hv⟩ := hheld t h.1
    refine ⟨hholds, ?_, ?_⟩
    · rw [hd.currentValue, hv.currentValue, h.2.1]
    · rw [hd.numbers, hv.numbers, h.2.2]
  | known t n =>
    obtain ⟨hholds, hd, hv⟩ := hheld t h.1
    refine ⟨hholds, ?_, ?_⟩
    · rw [hd.currentValue, h.2.1]
    · rw [hd.numbers, hv.numbers, h.2.2]
  | numbered t n =>
    obtain ⟨hholds, hd, hv⟩ := hheld t h.1
    refine ⟨hholds, ?_, ?_, ?_⟩
    · rw [hd.currentValue, h.2.1]
    · rw [hv.currentValue, h.2.2.1]
    · rw [hd.numbers, hv.numbers, h.2.2.2]
  | recorded t =>
    obtain ⟨hholds, hd, hv⟩ := hheld t h.1
    refine ⟨hholds, ?_, ?_⟩
    · rw [hd.currentValue, hv.currentValue, h.2.1]
    · rw [hd.currentValue, hd.numbers, hv.numbers, h.2.2]

lemma HoldsSequence.append {vs : List (SequenceWrite W)} (h : HoldsSequence apply t owner i ws)
    (howner : owner' (.sequence t) = some i) (hvs : ∀ t' ≠ t, Untouched apply vs t') :
    HoldsSequence apply t owner' i (ws ++ vs) :=
  ⟨howner, fun t' ht => (h.untouched t' ht).append (hvs t' ht)⟩

lemma Drawing.Knows.other (h : g.Knows apply d owner i ws)
    (howner : ∀ t, owner (.sequence t) = some i → owner' (.sequence t) = some i) (vs : List W) :
    g.Knows apply d owner' i (ws ++ vs.map .other) := by
  have hsame (t : OrganizationSequenceType) :
      Agree t (applyAll apply ws d) (applyAll apply (ws ++ vs.map .other) d) := by
    rw [applyAll_append]
    exact untouched_other vs _
  have hholds (t : OrganizationSequenceType) (ht : HoldsSequence apply t owner i ws) :
      HoldsSequence apply t owner' i (ws ++ vs.map .other) :=
    ht.append (howner t ht.locked) (fun _ _ => untouched_other vs)
  cases g with
  | before => exact fun t => (h t).append (untouched_other vs)
  | locked t => exact ⟨hholds t h.1, (hsame t).currentValue ▸ h.2.1, (hsame t).numbers ▸ h.2.2⟩
  | known t n => exact ⟨hholds t h.1, h.2.1, (hsame t).numbers ▸ h.2.2⟩
  | numbered t n =>
    exact ⟨hholds t h.1, h.2.1, (hsame t).currentValue ▸ h.2.2.1, (hsame t).numbers ▸ h.2.2.2⟩
  | recorded t => exact ⟨hholds t h.1, (hsame t).currentValue ▸ h.2.1, (hsame t).numbers ▸ h.2.2⟩

lemma SequenceDb.GapFree.agree (h : d.GapFree) (hagree : ∀ t, Agree t d d') : d'.GapFree := by
  intro t
  rw [(hagree t).numbers, (hagree t).currentValue]
  exact h t

lemma SequenceDb.GapFree.recorded (h : d.GapFree) (hknows : (Drawing.recorded t).Knows apply d owner i ws) :
    (applyAll apply ws d).GapFree := by
  obtain ⟨hholds, hvalue, hnumbers⟩ := hknows
  intro t'
  by_cases ht : t' = t
  · subst ht
    rw [hvalue, hnumbers, h t', Option.getD_some, List.range'_concat, List.map_append, Nat.one_mul, Nat.add_comm 1]
    rfl
  · rw [(hholds.untouched t' ht d).numbers, (hholds.untouched t' ht d).currentValue]
    exact h t'

structure InSequence (apply : W → R → R) (d : SequenceDb R) (owner : SequenceRow K → Option I)
    (ws : I → List (SequenceWrite W)) (g : I → Drawing) : Prop where
  gapFree : d.GapFree
  sessions : ∀ i, (g i).Knows apply d owner i (ws i)

section Requests

variable {α : Type} {p : Txn R K W AppError α}

lemma follows_embed (p : Txn R K W AppError α) (g : Drawing) :
    (p.embed SequenceDb.part SequenceRow.other SequenceWrite.other).Follows (fun _ => True) Drawing.Move g
      (fun _ g' => g' = g) := by
  induction p with
  | done a => rfl
  | throw e => trivial
  | statement row writes next ih => exact fun d _ => ⟨g, .other g _ d _, ih d.others⟩

lemma follows_getNextNumber (t : OrganizationSequenceType) : (getNextNumber t : SequenceTx R K W ℕ).Follows
    (fun _ => True) Drawing.Move .before (fun n g => g = .numbered t n) := by
  refine Txn.Follows.bind (fun d _ => ⟨.locked t, .lock t d, ?_⟩)
  refine Txn.Follows.bind (fun d _ => ?_)
  cases hvalue : d.currentValue t with
  | none =>
    refine ⟨.locked t, .other _ _ _ [], ?_⟩
    simp only [Txn.Follows, hvalue, Txn.require_none_bind]
  | some n =>
    refine ⟨.known t n, .read _ _ _ n hvalue, ?_⟩
    simp only [Txn.Follows, hvalue, Txn.require_some_bind]
    by_cases hmax : n + 1 ≤ bigIntMax
    · rw [Txn.ensure_of hmax, Txn.pure_bind]
      exact Txn.Follows.bind (fun d _ => ⟨.numbered t (n + 1), .update _ _ _ n, rfl⟩)
    · rw [Txn.ensure_not hmax, Txn.throw_bind]
      trivial

lemma follows_transaction (r : NumberedRequest R K W) :
    r.transaction.Follows (fun _ => True) Drawing.Move .before (fun _ => Drawing.final) := by
  refine Txn.Follows.bind ((follows_embed r.statements .before).mono (fun rest g hg => ?_))
  subst hg
  refine Txn.Follows.bind ((follows_getNextNumber r.sequenceType).mono (fun n g hg => ?_))
  subst hg
  refine Txn.Follows.bind (fun d _ => ?_)
  dsimp only
  split
  · exact ⟨.numbered r.sequenceType n, .other _ _ _ [], trivial⟩
  · refine ⟨.recorded r.sequenceType, .create _ _ _ n, ?_⟩
    exact (follows_embed (rest n) _).mono (fun _ g hg => hg ▸ trivial)

end Requests

section Interleavings

variable [DecidableEq I]

lemma InSequence.ended {ws : I → List (SequenceWrite W)} {g : I → Drawing} (h : InSequence apply d owner ws g)
    (hd : d'.GapFree) (hagree : ∀ j ≠ i, ∀ t, owner (.sequence t) = some j → Agree t d d') :
    InSequence apply d' (releasing i owner) (Function.update ws i []) (Function.update g i .before) where
  gapFree := hd
  sessions j := by
    by_cases hj : j = i
    · subst hj
      simp only [Function.update_self]
      exact fun t => untouched_nil
    · simp only [Function.update_of_ne hj]
      exact (h.sessions j).stable (fun t ht => ⟨releasing_other hj ht, hagree j hj t ht⟩)

variable [DecidableEq K]

omit [DecidableEq I] in
lemma Drawing.Knows.moved {vs : List (SequenceWrite W)} {row : Option (SequenceRow K)}
    (h : g.Knows apply d owner i ws) (hmove : Move g row (applyAll apply ws d) vs g') :
    g'.Knows apply d (taking row i owner) i (ws ++ vs) := by
  cases hmove with
  | other g row d vs => exact h.other (fun t ht => taking_self ht) vs
  | lock t =>
    have hagree := h t d
    have hlock : taking (some (.sequence t)) i owner (.sequence t) = some i := Function.update_self ..
    split
    next hnone =>
      refine ⟨⟨hlock, fun t' ht => (h t').append (untouched_setValue ht 0)⟩, ?_, ?_⟩
      · rw [applyAll_append]
        change (Function.update (applyAll apply ws d).currentValue t (some 0) t).getD 0 = _
        rw [Function.update_self, ← hagree.currentValue, hnone]
        rfl
      · rw [applyAll_append]
        exact hagree.numbers
    · rw [List.append_nil]
      exact ⟨⟨hlock, fun t' _ => h t'⟩, by rw [hagree.currentValue], hagree.numbers⟩
  | read t row d n hn =>
    rw [List.append_nil]
    obtain ⟨hholds, hvalue, hnumbers⟩ := h
    refine ⟨⟨taking_self hholds.locked, hholds.untouched⟩, ?_, hnumbers⟩
    rw [← hvalue, hn]
    rfl
  | update t row d n =>
    obtain ⟨hholds, hvalue, hnumbers⟩ := h
    refine ⟨hholds.append (taking_self hholds.locked) (fun t' ht => untouched_setValue ht _), by rw [hvalue], ?_, ?_⟩
    · rw [applyAll_append]
      exact Function.update_self ..
    · rw [applyAll_append]
      exact hnumbers
  | create t row d n =>
    obtain ⟨hholds, rfl, hvalue, hnumbers⟩ := h
    refine ⟨hholds.append (taking_self hholds.locked) (fun t' ht => untouched_create ht _), ?_, ?_⟩
    · rw [applyAll_append]
      exact hvalue
    · rw [applyAll_append]
      refine (Function.update_self ..).trans ?_
      rw [hnumbers]

lemma inSequence_marking (apply : W → R → R) : MarkingTo (SequenceDb.write apply) (fun _ => True) Drawing.Move .before
    Drawing.final (InSequence (K := K) (I := I) apply) := by
  constructor
  · exact fun _ _ _ _ _ _ => trivial
  · intro d owner ws g i row vs g' h hfree hmove
    refine ⟨h.gapFree, fun j => ?_⟩
    by_cases hj : j = i
    · subst hj
      simp only [Function.update_self]
      exact (h.sessions j).moved hmove
    · simp only [Function.update_of_ne hj]
      exact (h.sessions j).stable (fun t ht => ⟨taking_other hj hfree ht, rfl, rfl⟩)
  · intro d owner ws g i h hfinal
    have hknows := h.sessions i
    cases hg : g i with
    | before =>
      rw [hg] at hknows
      exact h.ended (h.gapFree.agree (fun t => hknows t d)) (fun _ _ t _ => hknows t d)
    | recorded t =>
      rw [hg] at hknows
      refine h.ended (h.gapFree.recorded hknows) (fun j hj t' hlock => ?_)
      have ht : t' ≠ t := fun ht => hj (Option.some.inj ((ht ▸ hlock).symm.trans hknows.1.locked))
      exact hknows.1.untouched t' ht d
    | locked t => exact (hg ▸ hfinal).elim
    | known t n => exact (hg ▸ hfinal).elim
    | numbered t n => exact (hg ▸ hfinal).elim
  · intro d owner ws g i h
    exact h.ended h.gapFree (fun _ _ _ _ => ⟨rfl, rfl⟩)

theorem numbers_gap_free {requests : I → NumberedRequest R K W} {lost : AppError}
    {s : State (SequenceDb R) (SequenceRow K) I (Frame _ _ _ AppError Unit) (SequenceWrite W)} {es : List (Event I)}
    (hd : d.GapFree) (h : Run (Enabled (ReadCommitted.step (code (SequenceDb.write apply) lost)))
      (begin d (fun i => .running (requests i).transaction)) es s) :
    s.committed.GapFree ∧ ∀ t, Function.Injective (format t) := by
  obtain ⟨g, hg⟩ := (inSequence_marking apply).run ⟨hd, fun _ _ => untouched_nil⟩
    (fun i => follows_transaction (requests i)) h
  exact ⟨hg.gapFree, format_injective⟩

end Interleavings

namespace Sample

def bookings : Fin 2 → NumberedRequest Unit Unit Unit := fun _ => ⟨.load, .done (fun _ => .done ())⟩

def newOrganization : SequenceDb Unit := ⟨fun _ => none, fun _ => [], ()⟩

def bookingEvents : List (Event (Fin 2)) :=
  List.replicate 3 (.advance ⟨0, Nat.zero_lt_two⟩) ++ [.fail ⟨0, Nat.zero_lt_two⟩] ++
    List.replicate 5 (.advance ⟨1, Nat.one_lt_two⟩)

end Sample

open Sample

theorem numbers_gap_free_sample : ∃ s, Run (Enabled (ReadCommitted.step
      (code (SequenceDb.write (fun (_ : Unit) (d : Unit) => d)) (.database "Transaction aborted."))))
      (begin newOrganization (fun i => .running (bookings i).transaction)) bookingEvents s ∧
    s.committed.currentValue .load = some 1 ∧ s.committed.GapFree := by
  have hend : (bookingEvents.foldlM (ReadCommitted.step
      (code (SequenceDb.write (fun (_ : Unit) (d : Unit) => d)) (.database "Transaction aborted.")))
      (begin newOrganization (fun i => .running (bookings i).transaction))).any
        (fun s => s.committed.currentValue .load = some 1) = true := by decide +kernel
  obtain ⟨s, hs, hone⟩ := (Option.any_eq_true _ _).mp hend
  have hrun := (run_enabled_iff _ _ _ _).mpr hs
  exact ⟨s, hrun, of_decide_eq_true hone, (numbers_gap_free (fun _ => rfl) hrun).1⟩

end Truckmaster.Identity
