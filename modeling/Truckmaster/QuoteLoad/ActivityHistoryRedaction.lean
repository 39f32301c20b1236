import Truckmaster.Library.JsonValues
import Truckmaster.QuoteLoad.FinancialFieldShaping

namespace Truckmaster.QuoteLoad

open Common

def customerSideKeys : List String := ["customerRate", "rateSource", "rateAgreementId", "customerChargesTotal"]

def carrierSideKeys : List String := ["carrierRate", "remainingCarrierBalance"]

def sideOf : Json → Option ChargeLineItemSide
  | .string s => if s = "CUSTOMER" then some .customer else if s = "CARRIER" then some .carrier else none
  | _ => none

def sideHint (members : List (String × Json)) : Option ChargeLineItemSide := (members.lookup "side").bind sideOf

/-- `out[key] = value` on a plain object, where `__proto__` is an accessor and makes no member. -/
def assign (key : String) (value : Json) (out : List (String × Json)) : List (String × Json) :=
  if key = "__proto__" then out else (key, value) :: out

mutual

def redactValue (showCustomerSide showCarrierSide : Bool) : Json → Json
  | .array items => .array (redactItems showCustomerSide showCarrierSide items)
  | .object members => .object (redactMembers showCustomerSide showCarrierSide (sideHint members) members)
  | value => value

def redactItems (showCustomerSide showCarrierSide : Bool) : List Json → List Json
  | [] => []
  | item :: rest => redactValue showCustomerSide showCarrierSide item :: redactItems showCustomerSide showCarrierSide rest

def redactMembers (showCustomerSide showCarrierSide : Bool) (sideHint : Option ChargeLineItemSide) :
    List (String × Json) → List (String × Json)
  | [] => []
  | (key, val) :: rest =>
    assign key
      (if sideHint.isSome ∧ key = "amount" then
        -- the shown amount is taken as it stands
        if sideHint.any (visibleSide showCustomerSide showCarrierSide) then val else .null
      else if key ∈ customerSideKeys then
        if showCustomerSide then redactValue showCustomerSide showCarrierSide val else .null
      else if key ∈ carrierSideKeys then
        if showCarrierSide then redactValue showCustomerSide showCarrierSide val else .null
      else redactValue showCustomerSide showCarrierSide val)
      (redactMembers showCustomerSide showCarrierSide sideHint rest)

end

structure RedactableAuditEntry (ρ : Type) where
  previousValue : Json
  newValue : Json
  rest : ρ

def redactAuditFinancialFields {ρ : Type} (entry : RedactableAuditEntry ρ) (actingRoles : List MembershipRoleName)
    (actingUserId loadCreatedByUserId : Uuid) : RedactableAuditEntry ρ :=
  let fullVisibility := hasFullVisibility actingRoles
  let ownDeal := decide (MembershipRoleName.salesBooking ∈ actingRoles) && loadCreatedByUserId == actingUserId
  let showCustomerSide := fullVisibility || ownDeal
  let showCarrierSide := fullVisibility
  if showCustomerSide && showCarrierSide then entry
  else
    { entry with
      previousValue := redactValue showCustomerSide showCarrierSide entry.previousValue
      newValue := redactValue showCustomerSide showCarrierSide entry.newValue }

variable {showCustomerSide showCarrierSide : Bool} {side : Option ChargeLineItemSide} {key : String}
  {members members' : List (String × Json)} {items : List Json} {i : ℕ} {j : Json}

def hiddenKey (showCustomerSide showCarrierSide : Bool) (side : Option ChargeLineItemSide) (key : String) : Bool :=
  decide (key ∈ customerSideKeys) && !showCustomerSide || decide (key ∈ carrierSideKeys) && !showCarrierSide ||
    key == "amount" && side.any (fun s => !visibleSide showCustomerSide showCarrierSide s)

def shownAmount (showCustomerSide showCarrierSide : Bool) (side : Option ChargeLineItemSide) (key : String) : Bool :=
  key == "amount" && side.any (visibleSide showCustomerSide showCarrierSide)

def picks (rule : Option ChargeLineItemSide → String → Bool) : Json → ℕ → Bool
  | .object members, i => members[i]?.any (fun m => rule (sideHint members) m.1)
  | _, _ => false

def hidden (showCustomerSide showCarrierSide : Bool) : Json → ℕ → Bool :=
  picks (hiddenKey showCustomerSide showCarrierSide)

def redactMember (showCustomerSide showCarrierSide : Bool) (side : Option ChargeLineItemSide) (key : String)
    (val : Json) : Json :=
  if hiddenKey showCustomerSide showCarrierSide side key then .null
  else if shownAmount showCustomerSide showCarrierSide side key then val
  else redactValue showCustomerSide showCarrierSide val

lemma redactItems_eq (items : List Json) : redactItems showCustomerSide showCarrierSide items =
    items.map (redactValue showCustomerSide showCarrierSide) := by
  induction items with
  | nil => rfl
  | cons item rest ih => rw [redactItems, ih, List.map_cons]

lemma sides_disjoint : ∀ key ∈ customerSideKeys, key ∉ carrierSideKeys := by decide

lemma redactMembers_eq (members : List (String × Json)) :
    redactMembers showCustomerSide showCarrierSide side members =
      (members.filter (fun m => m.1 ≠ "__proto__")).map
        (fun m => (m.1, redactMember showCustomerSide showCarrierSide side m.1 m.2)) := by
  induction members with
  | nil => rfl
  | cons m rest ih =>
    obtain ⟨key, val⟩ := m
    have hmember : (if side.isSome ∧ key = "amount" then
          if side.any (visibleSide showCustomerSide showCarrierSide) then val else .null
        else if key ∈ customerSideKeys then
          if showCustomerSide then redactValue showCustomerSide showCarrierSide val else .null
        else if key ∈ carrierSideKeys then
          if showCarrierSide then redactValue showCustomerSide showCarrierSide val else .null
        else redactValue showCustomerSide showCarrierSide val) =
        redactMember showCustomerSide showCarrierSide side key val := by
      unfold redactMember hiddenKey shownAmount
      by_cases hamount : key = "amount"
      · subst hamount
        cases side with
        | none => simp [customerSideKeys, carrierSideKeys]
        | some s => cases hs : visibleSide showCustomerSide showCarrierSide s <;> simp [customerSideKeys, carrierSideKeys, hs]
      · by_cases hcustomer : key ∈ customerSideKeys
        · have hcarrier : key ∉ carrierSideKeys := sides_disjoint key hcustomer
          cases showCustomerSide <;> simp [hamount, hcustomer, hcarrier]
        · by_cases hcarrier : key ∈ carrierSideKeys
          · cases showCarrierSide <;> simp [hamount, hcustomer, hcarrier]
          · simp [hamount, hcustomer, hcarrier]
    rw [redactMembers, hmember, ih, assign]
    by_cases hproto : key = "__proto__"
    · simp [hproto]
    · simp [hproto]

lemma redactValue_object (members : List (String × Json)) :
    redactValue showCustomerSide showCarrierSide (.object members) =
      .object ((members.filter (fun m => m.1 ≠ "__proto__")).map
        (fun m => (m.1, redactMember showCustomerSide showCarrierSide (sideHint members) m.1 m.2))) := by
  rw [redactValue, redactMembers_eq]

lemma redactValue_array (items : List Json) :
    redactValue showCustomerSide showCarrierSide (.array items) =
      .array (items.map (redactValue showCustomerSide showCarrierSide)) := by
  rw [redactValue, redactItems_eq]

lemma redactMember_side (val : Json) : redactMember showCustomerSide showCarrierSide side "side" val =
    redactValue showCustomerSide showCarrierSide val := by
  simp [redactMember, hiddenKey, shownAmount, customerSideKeys, carrierSideKeys]

lemma sideOf_redactValue (val : Json) : sideOf (redactValue showCustomerSide showCarrierSide val) = sideOf val := by
  cases val <;> rfl

lemma sideHint_redactMembers (members : List (String × Json)) :
    sideHint (redactMembers showCustomerSide showCarrierSide side members) = sideHint members := by
  rw [redactMembers_eq]
  induction members with
  | nil => rfl
  | cons m rest ih =>
    obtain ⟨key, val⟩ := m
    by_cases hproto : key = "__proto__"
    · rw [List.filter_cons_of_neg (by simpa using hproto), ih, sideHint, sideHint, List.lookup_cons]
      simp [hproto]
    · rw [List.filter_cons_of_pos (by simpa using hproto), List.map_cons]
      by_cases hside : key = "side"
      · subst hside
        simp only [sideHint, List.lookup_cons, beq_self_eq_true, Option.bind_some, redactMember_side, sideOf_redactValue]
      · have hne : ("side" == key) = false := beq_eq_false_iff_ne.mpr (Ne.symm hside)
        simp only [sideHint, List.lookup_cons, hne] at ih ⊢
        exact ih

theorem redactValue_idem (j : Json) :
    redactValue showCustomerSide showCarrierSide (redactValue showCustomerSide showCarrierSide j) =
      redactValue showCustomerSide showCarrierSide j := by
  induction j using Json.induct with
  | step j ih =>
    cases j with
    | array items =>
      rw [redactValue_array, redactValue_array, List.map_map]
      exact congrArg Json.array (List.map_congr_left ih)
    | object members =>
      have hside : sideHint (redactMembers showCustomerSide showCarrierSide (sideHint members) members) =
          sideHint members := sideHint_redactMembers members
      rw [redactMembers_eq] at hside
      rw [redactValue_object, redactValue_object, hside, List.filter_map, List.map_map, List.filter_filter]
      refine congrArg Json.object ?_
      simp only [Function.comp_def, Bool.and_self]
      refine List.map_congr_left fun m hm => Prod.ext rfl ?_
      have hmem : m.2 ∈ (Json.object members).children := List.mem_map_of_mem (List.mem_of_mem_filter hm)
      simp only [redactMember]
      split_ifs
      · rfl
      · rfl
      · exact ih m.2 hmem
    | _ => rfl

lemma children_object {c : Json} :
    (Json.object members).children[i]? = some c ↔ ∃ key, members[i]? = some (key, c) := by
  simp [Json.children, List.getElem?_map]

lemma picks_object {rule : Option ChargeLineItemSide → String → Bool} {val : Json} (h : members[i]? = some (key, val)) :
    picks rule (.object members) i = rule (sideHint members) key := by
  simp [picks, h]

lemma sideOf_shape {val val' : Json} (h : val'.shape = val.shape) : sideOf val' = sideOf val := by
  cases val <;> cases val' <;> simp_all [Json.shape, sideOf]

lemma sideHint_congr (hkeys : members'.map Prod.fst = members.map Prod.fst)
    (hside : ∀ (i : ℕ) (val val' : Json), members[i]? = some ("side", val) → members'[i]? = some ("side", val') → val'.shape = val.shape) :
    sideHint members' = sideHint members := by
  induction members generalizing members' with
  | nil => rw [List.map_eq_nil_iff.mp hkeys]
  | cons m rest ih =>
    cases members' with
    | nil => cases hkeys
    | cons m' rest' =>
      obtain ⟨key, val⟩ := m
      obtain ⟨key', val'⟩ := m'
      obtain ⟨rfl, hrest⟩ : key' = key ∧ rest'.map Prod.fst = rest.map Prod.fst := by simpa using hkeys
      by_cases hkey : key' = "side"
      · subst hkey
        simp only [sideHint, List.lookup_cons, beq_self_eq_true, Option.bind_some]
        exact sideOf_shape (hside 0 val val' rfl rfl)
      · have hne : ("side" == key') = false := beq_eq_false_iff_ne.mpr (Ne.symm hkey)
        have hlookup := ih hrest (fun i val val' h h' => hside (i + 1) val val' h h')
        simpa only [sideHint, List.lookup_cons, hne] using hlookup

lemma keys_of_shape (h : (Json.object members').shape = (Json.object members).shape) :
    members'.map Prod.fst = members.map Prod.fst := by
  simp only [Json.shape, Json.object.injEq] at h
  simpa [List.map_map, Function.comp_def] using congrArg (List.map Prod.fst) h

lemma hidden_stable : Json.Stable (hidden showCustomerSide showCarrierSide) := by
  intro j j' hshape hchild i
  cases j with
  | object members =>
    cases j' with
    | object members' =>
      have hkeys := keys_of_shape hshape
      have hsides : sideHint members' = sideHint members := by
        refine sideHint_congr hkeys fun i val val' h h' => ?_
        refine hchild i val val' ?_ (children_object.mpr ⟨_, h⟩) (children_object.mpr ⟨_, h'⟩)
        rw [hidden, picks_object h]
        simp [hiddenKey, customerSideKeys, carrierSideKeys]
      have hkey : members'[i]?.map Prod.fst = members[i]?.map Prod.fst := by
        rw [← List.getElem?_map, ← List.getElem?_map, hkeys]
      have hany (ms : List (String × Json)) (rule : String → Bool) :
          ms[i]?.any (fun m => rule m.1) = (ms[i]?.map Prod.fst).any rule := by
        cases ms[i]? <;> rfl
      simp only [hidden, picks]
      rw [hsides, hany, hany, hkey]
    | _ => simp [Json.shape] at hshape
  | _ => cases j' <;> simp_all [Json.shape, hidden, picks]

/-- One value of a payload from which nothing leaks or is lost: none of its members has a name that is dropped, and
an amount that its side shows hides nothing but nulls. -/
def Settled (showCustomerSide showCarrierSide : Bool) (j : Json) : Prop :=
  (∀ members, j = .object members → "__proto__" ∉ members.map Prod.fst) ∧
    ∀ i amount, picks (shownAmount showCustomerSide showCarrierSide) j i = true → j.children[i]? = some amount →
      Json.Redacts (hidden showCustomerSide showCarrierSide) amount amount

/-- The values that redactValue walks through: it enters neither what it hides nor an amount it shows. -/
def skipped (showCustomerSide showCarrierSide : Bool) (j : Json) (i : ℕ) : Bool :=
  hidden showCustomerSide showCarrierSide j i || picks (shownAmount showCustomerSide showCarrierSide) j i

abbrev Redactable (showCustomerSide showCarrierSide : Bool) (j : Json) : Prop :=
  Json.Everywhere (skipped showCustomerSide showCarrierSide) (Settled showCustomerSide showCarrierSide) j

lemma shownAmount_not_hidden (h : shownAmount showCustomerSide showCarrierSide side key = true) :
    hiddenKey showCustomerSide showCarrierSide side key = false := by
  simp only [shownAmount, Bool.and_eq_true, beq_iff_eq] at h
  obtain ⟨rfl, hshown⟩ := h
  cases side with
  | none => cases hshown
  | some s =>
    rw [Option.any_some] at hshown
    simp [hiddenKey, customerSideKeys, carrierSideKeys, hshown]

lemma filter_of_keys (h : "__proto__" ∉ members.map Prod.fst) : members.filter (fun m => m.1 ≠ "__proto__") = members := by
  refine List.filter_eq_self.mpr fun m hm => decide_eq_true ?_
  rintro hproto
  exact h (hproto ▸ List.mem_map_of_mem hm)

lemma keys_of_redacted
    (h : (redactValue showCustomerSide showCarrierSide (.object members)).shape = (Json.object members).shape) :
    "__proto__" ∉ members.map Prod.fst := by
  rw [redactValue_object] at h
  rw [← keys_of_shape h]
  simp

lemma redacted_child {c c' : Json} (hkeys : "__proto__" ∉ members.map Prod.fst) (hc : members[i]? = some (key, c)) :
    (redactValue showCustomerSide showCarrierSide (.object members)).children[i]? = some c' ↔
      c' = redactMember showCustomerSide showCarrierSide (sideHint members) key c := by
  rw [redactValue_object, filter_of_keys hkeys]
  simp [Json.children, hc, eq_comm]

theorem redacts_redactValue_iff (j : Json) :
    Json.Redacts (hidden showCustomerSide showCarrierSide) j (redactValue showCustomerSide showCarrierSide j) ↔
      Redactable showCustomerSide showCarrierSide j := by
  induction j using Json.induct with
  | step j ih =>
    rw [Json.redacts_iff, Redactable, Json.everywhere_iff]
    cases j with
    | array items =>
      have hchild (i : ℕ) (c' : Json) : (redactValue showCustomerSide showCarrierSide (.array items)).children[i]? = some c' ↔
          ∃ c, items[i]? = some c ∧ redactValue showCustomerSide showCarrierSide c = c' := by
        rw [redactValue_array]
        simp [Json.children]
      have hvisit (i : ℕ) : hidden showCustomerSide showCarrierSide (.array items) i = false := rfl
      constructor
      · rintro ⟨-, h⟩
        refine ⟨⟨fun _ h => (by cases h), fun _ _ h => (by cases h)⟩, fun i c _ hc => ?_⟩
        exact (ih c (List.mem_of_getElem? hc)).mp (by simpa [hvisit] using h i c _ hc ((hchild i _).mpr ⟨c, hc, rfl⟩))
      · rintro ⟨-, h⟩
        refine ⟨by rw [redactValue_array]; simp [Json.shape, Function.comp_def], fun i c c' hc hc' => ?_⟩
        obtain ⟨d, hd, rfl⟩ := (hchild i c').mp hc'
        obtain rfl : c = d := Option.some_injective _ (hc.symm.trans hd)
        rw [hvisit, if_neg (by simp)]
        exact (ih c (List.mem_of_getElem? hc)).mpr (h i c rfl hc)
    | object members =>
      constructor
      · rintro ⟨hshape, h⟩
        have hkeys := keys_of_redacted hshape
        refine ⟨⟨fun ms hms => ?_, fun i amount hshown hc => ?_⟩, fun i c hskip hc => ?_⟩
        · cases hms
          exact hkeys
        · obtain ⟨key, hm⟩ := children_object.mp hc
          rw [picks_object hm] at hshown
          have hhidden := shownAmount_not_hidden hshown
          have hchild := h i amount _ hc ((redacted_child hkeys hm).mpr rfl)
          rwa [hidden, picks_object hm, hhidden, if_neg (by simp), redactMember, hhidden, if_neg (by simp), hshown,
            if_pos rfl] at hchild
        · obtain ⟨key, hm⟩ := children_object.mp hc
          rw [skipped, Bool.or_eq_false_iff, hidden, picks_object hm, picks_object hm] at hskip
          have hchild := h i c _ hc ((redacted_child hkeys hm).mpr rfl)
          rw [hidden, picks_object hm, hskip.1, if_neg (by simp), redactMember, hskip.1, if_neg (by simp), hskip.2,
            if_neg (by simp)] at hchild
          exact (ih c (List.mem_of_getElem? hc)).mp hchild
      · rintro ⟨⟨hkeys, hamount⟩, h⟩
        have hkeys := hkeys members rfl
        refine ⟨?_, fun i c c' hc hc' => ?_⟩
        · rw [redactValue_object, filter_of_keys hkeys]
          simp [Json.shape]
        · obtain ⟨key, hm⟩ := children_object.mp hc
          rw [(redacted_child hkeys hm).mp hc', hidden, picks_object hm]
          cases hhidden : hiddenKey showCustomerSide showCarrierSide (sideHint members) key with
          | true => rw [if_pos rfl, redactMember, hhidden, if_pos rfl]
          | false =>
            rw [if_neg (by simp), redactMember, hhidden, if_neg (by simp)]
            cases hshown : shownAmount showCustomerSide showCarrierSide (sideHint members) key with
            | true =>
              rw [if_pos rfl]
              exact hamount i c ((picks_object hm).trans hshown) hc
            | false =>
              rw [if_neg (by simp)]
              refine (ih c (List.mem_of_getElem? hc)).mpr (h i c ?_ hc)
              rw [skipped, hidden, picks_object hm, picks_object hm, hhidden, hshown, Bool.or_false]
    | _ =>
      refine iff_of_true ⟨rfl, fun i c c' hc => (by cases hc)⟩ ⟨⟨fun _ h => (by cases h), fun _ _ h => (by cases h)⟩, ?_⟩
      exact fun i c _ hc => (by cases hc)

theorem redaction_exact_iff (showCustomerSide showCarrierSide : Bool) (j j' : Json) :
    (Json.Redacts (hidden showCustomerSide showCarrierSide) j (redactValue showCustomerSide showCarrierSide j) ∧
      Json.Redacts (hidden showCustomerSide showCarrierSide) j' (redactValue showCustomerSide showCarrierSide j') ∧
      redactValue showCustomerSide showCarrierSide (redactValue showCustomerSide showCarrierSide j) =
        redactValue showCustomerSide showCarrierSide j ∧
      (Json.Alike (hidden showCustomerSide showCarrierSide) j j' →
        redactValue showCustomerSide showCarrierSide j = redactValue showCustomerSide showCarrierSide j')) ↔
      Redactable showCustomerSide showCarrierSide j ∧ Redactable showCustomerSide showCarrierSide j' := by
  simp only [redacts_redactValue_iff]
  constructor
  · rintro ⟨hj, hj', -, -⟩
    exact ⟨hj, hj'⟩
  · rintro ⟨hj, hj'⟩
    refine ⟨hj, hj', redactValue_idem j, fun halike => ?_⟩
    exact Json.Redacts.determined hidden_stable ((redacts_redactValue_iff j).mpr hj) ((redacts_redactValue_iff j').mpr hj')
      halike

theorem nested_carrierRate_shown :
    ¬ Json.Redacts (hidden true false)
      (.object [("side", .string "CUSTOMER"), ("amount", .object [("carrierRate", .string "1500.00")])])
      (redactValue true false
        (.object [("side", .string "CUSTOMER"), ("amount", .object [("carrierRate", .string "1500.00")])])) := by
  intro h
  have hnull := h.hidden [1] 0 _ _ ⟨by decide, fun _ _ => trivial⟩ rfl (by decide) rfl
  cases hnull

lemma redacts_shown (j : Json) : Json.Redacts (hidden true true) j j := by
  refine ⟨fun path _ => rfl, fun path i node c _ _ hhidden => ?_⟩
  cases node with
  | object members =>
    simp only [hidden, picks, Option.any_eq_true_iff_get, hiddenKey] at hhidden
    obtain ⟨_, hkey⟩ := hhidden
    have hside (side : Option ChargeLineItemSide) : side.any (fun s => !visibleSide true true s) = false := by
      rcases side with - | - | - <;> rfl
    simp [hside] at hkey
  | _ => cases hhidden

def showsCustomerSide (actingRoles : List MembershipRoleName) (actingUserId loadCreatedByUserId : Uuid) : Bool :=
  hasFullVisibility actingRoles ||
    (decide (MembershipRoleName.salesBooking ∈ actingRoles) && loadCreatedByUserId == actingUserId)

theorem redactAuditFinancialFields_redacts {ρ : Type} (entry : RedactableAuditEntry ρ)
    (actingRoles : List MembershipRoleName) (actingUserId loadCreatedByUserId : Uuid)
    (hprevious : Redactable (showsCustomerSide actingRoles actingUserId loadCreatedByUserId)
      (hasFullVisibility actingRoles) entry.previousValue)
    (hnew : Redactable (showsCustomerSide actingRoles actingUserId loadCreatedByUserId)
      (hasFullVisibility actingRoles) entry.newValue) :
    let redacted := redactAuditFinancialFields entry actingRoles actingUserId loadCreatedByUserId
    let hides := hidden (showsCustomerSide actingRoles actingUserId loadCreatedByUserId) (hasFullVisibility actingRoles)
    Json.Redacts hides entry.previousValue redacted.previousValue ∧ Json.Redacts hides entry.newValue redacted.newValue ∧
      redacted.rest = entry.rest := by
  intro redacted hides
  by_cases hboth : showsCustomerSide actingRoles actingUserId loadCreatedByUserId && hasFullVisibility actingRoles
  · have hentry : redacted = entry := if_pos hboth
    obtain ⟨hcustomer, hcarrier⟩ := Bool.and_eq_true_iff.mp hboth
    have hhides : hides = hidden true true := by
      simp only [hides, hcustomer, hcarrier]
    rw [hentry, hhides]
    exact ⟨redacts_shown _, redacts_shown _, rfl⟩
  · have hentry : redacted = { entry with
        previousValue := redactValue (showsCustomerSide actingRoles actingUserId loadCreatedByUserId)
          (hasFullVisibility actingRoles) entry.previousValue
        newValue := redactValue (showsCustomerSide actingRoles actingUserId loadCreatedByUserId)
          (hasFullVisibility actingRoles) entry.newValue } := if_neg hboth
    rw [hentry]
    exact ⟨(redacts_redactValue_iff _).mpr hprevious, (redacts_redactValue_iff _).mpr hnew, rfl⟩

end Truckmaster.QuoteLoad
