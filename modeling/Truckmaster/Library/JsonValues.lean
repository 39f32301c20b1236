import Mathlib.Data.List.Basic
import Mathlib.Data.Rat.Defs
import Mathlib.Tactic

/-! JSON values, the positions in them, and what it means to blot out exactly the hidden ones. -/

inductive Json
  | null
  | bool (b : Bool)
  | number (n : ℚ)
  | string (s : String)
  | array (items : List Json)
  | object (members : List (String × Json))

namespace Json

def children : Json → List Json
  | .array items => items
  | .object members => members.map Prod.snd
  | _ => []

/-- A value without what its children hold: its kind, its length, its keys. -/
def shape : Json → Json
  | .array items => .array (items.map fun _ => .null)
  | .object members => .object (members.map fun m => (m.1, .null))
  | j => j

def atPath : List ℕ → Json → Option Json
  | [], j => some j
  | i :: path, j => j.children[i]?.bind (atPath path)

variable {j j' a b c c' : Json} {i : ℕ} {path : List ℕ} {hides : Json → ℕ → Bool}

@[simp] lemma atPath_nil : atPath [] j = some j := rfl

lemma atPath_cons (h : j.children[i]? = some c) : atPath (i :: path) j = atPath path c := by
  rw [atPath, h, Option.bind_some]

lemma atPath_cons_none (h : j.children[i]? = none) : atPath (i :: path) j = none := by
  rw [atPath, h, Option.bind_none]

theorem induct {P : Json → Prop} (step : ∀ j, (∀ c ∈ j.children, P c) → P j) (j : Json) : P j := by
  have hleaf (j : Json) (h : j.children = []) : P j := step j (by simp [h])
  exact @Json.rec P (fun items => ∀ c ∈ items, P c) (fun members => ∀ m ∈ members, P m.2) (fun m => P m.2)
    (hleaf _ rfl) (fun _ => hleaf _ rfl) (fun _ => hleaf _ rfl) (fun _ => hleaf _ rfl) (fun items ih => step _ ih)
    (fun members ih => step _ (fun c hc => by
      obtain ⟨m, hm, rfl⟩ := List.mem_map.mp hc
      exact ih m hm))
    (by simp) (fun _ _ hc ih => List.forall_mem_cons.mpr ⟨hc, ih⟩)
    (by simp) (fun _ _ hm ih => List.forall_mem_cons.mpr ⟨hm, ih⟩) (fun _ _ hval => hval) j

lemma length_children (h : j'.shape = j.shape) : j'.children.length = j.children.length := by
  cases j <;> cases j' <;> simp only [shape, reduceCtorEq, Json.array.injEq, Json.object.injEq] at h <;>
    first
    | rfl
    | simpa [children] using congrArg List.length h

lemma child_of_shape (h : j'.shape = j.shape) (hc : j.children[i]? = some c) : ∃ c', j'.children[i]? = some c' := by
  obtain ⟨hi, -⟩ := List.getElem?_eq_some_iff.mp hc
  exact ⟨_, List.getElem?_eq_getElem (length_children h ▸ hi)⟩

lemma ext_children (h : j'.shape = j.shape) (hc : j'.children = j.children) : j' = j := by
  cases j <;> cases j' <;> simp only [shape, reduceCtorEq, Json.array.injEq, Json.object.injEq] at h
  case array.array => exact congrArg Json.array hc
  case object.object members members' =>
    have hkeys : members'.map Prod.fst = members.map Prod.fst := by
      simpa [List.map_map, Function.comp_def] using congrArg (List.map Prod.fst) h
    rw [← List.zip_unzip members, ← List.zip_unzip members', List.unzip_eq_map, List.unzip_eq_map, hkeys,
      show members'.map Prod.snd = members.map Prod.snd from hc]
  all_goals first | rfl | exact h

def Open (hides : Json → ℕ → Bool) : List ℕ → Json → Prop
  | [], _ => True
  | i :: path, j => hides j i = false ∧ ∀ c ∈ j.children[i]?, Open hides path c

def Alike (hides : Json → ℕ → Bool) (j j' : Json) : Prop :=
  ∀ path, Open hides path j → (atPath path j').map shape = (atPath path j).map shape

/-- Every hidden child of `j` is null in `j'`, and everything else is as in `j`. -/
structure Redacts (hides : Json → ℕ → Bool) (j j' : Json) : Prop where
  keeps : Alike hides j j'
  hidden : ∀ path i node c, Open hides path j → atPath path j = some node → hides node i = true →
    node.children[i]? = some c → atPath (path ++ [i]) j' = some .null

lemma open_cons (hhides : hides j i = false) (hc : j.children[i]? = some c) :
    Open hides (i :: path) j ↔ Open hides path c := by
  simp [Open, hhides, hc]

lemma alike_iff : Alike hides j j' ↔ j'.shape = j.shape ∧ ∀ i c c', hides j i = false → j.children[i]? = some c →
    j'.children[i]? = some c' → Alike hides c c' := by
  constructor
  · intro h
    refine ⟨Option.some_injective _ (h [] trivial), fun i c c' hhides hc hc' path hopen => ?_⟩
    rw [← atPath_cons hc, ← atPath_cons hc']
    exact h (i :: path) ((open_cons hhides hc).mpr hopen)
  · rintro ⟨hshape, hchild⟩ path hopen
    cases path with
    | nil => exact congrArg some hshape
    | cons i path =>
      cases hc : j.children[i]? with
      | none =>
        have hnone : j'.children[i]? = none := by
          rw [List.getElem?_eq_none_iff] at hc ⊢
          exact (length_children hshape).trans_le hc
        rw [atPath_cons_none hc, atPath_cons_none hnone]
      | some c =>
        obtain ⟨c', hc'⟩ := child_of_shape hshape hc
        rw [atPath_cons hc, atPath_cons hc']
        exact hchild i c c' hopen.1 hc hc' path ((open_cons hopen.1 hc).mp hopen)

lemma redacts_iff : Redacts hides j j' ↔ j'.shape = j.shape ∧ ∀ i c c', j.children[i]? = some c →
    j'.children[i]? = some c' → if hides j i then c' = .null else Redacts hides c c' := by
  constructor
  · intro h
    obtain ⟨hshape, hchild⟩ := alike_iff.mp h.keeps
    refine ⟨hshape, fun i c c' hc hc' => ?_⟩
    cases hhides : hides j i with
    | true =>
      have hnull := h.hidden [] i j c trivial rfl hhides hc
      rw [List.nil_append, atPath_cons hc', atPath_nil] at hnull
      simpa using hnull
    | false =>
      rw [if_neg (by simp)]
      refine ⟨hchild i c c' hhides hc hc', fun path k node d hopen hnode hk hd => ?_⟩
      have hnull := h.hidden (i :: path) k node d ((open_cons hhides hc).mpr hopen) ((atPath_cons hc).trans hnode) hk hd
      rwa [List.cons_append, atPath_cons hc'] at hnull
  · rintro ⟨hshape, hchild⟩
    refine ⟨alike_iff.mpr ⟨hshape, fun i c c' hhides hc hc' => ?_⟩, fun path k node d hopen hnode hk hd => ?_⟩
    · have hc := hchild i c c' hc hc'
      rw [hhides, if_neg (by simp)] at hc
      exact hc.keeps
    · cases path with
      | nil =>
        obtain rfl := Option.some_injective _ hnode
        obtain ⟨d', hd'⟩ := child_of_shape hshape hd
        have hnull := hchild k d d' hd hd'
        rw [hk, if_pos rfl] at hnull
        rw [List.nil_append, atPath_cons hd', atPath_nil, hnull]
      | cons i path =>
        cases hc : j.children[i]? with
        | none =>
          rw [atPath_cons_none hc] at hnode
          cases hnode
        | some c =>
          obtain ⟨c', hc'⟩ := child_of_shape hshape hc
          have hbelow := hchild i c c' hc hc'
          rw [hopen.1, if_neg (by simp)] at hbelow
          rw [List.cons_append, atPath_cons hc']
          exact hbelow.hidden path k node d ((open_cons hopen.1 hc).mp hopen) ((atPath_cons hc).symm.trans hnode) hk hd

/-- `P` holds of every value that a path outside the hidden children leads to. -/
def Everywhere (hides : Json → ℕ → Bool) (P : Json → Prop) (j : Json) : Prop :=
  ∀ path node, Open hides path j → atPath path j = some node → P node

lemma everywhere_iff {P : Json → Prop} : Everywhere hides P j ↔
    P j ∧ ∀ i c, hides j i = false → j.children[i]? = some c → Everywhere hides P c := by
  constructor
  · intro h
    refine ⟨h [] j trivial rfl, fun i c hhides hc path node hopen hnode => ?_⟩
    exact h (i :: path) node ((open_cons hhides hc).mpr hopen) ((atPath_cons hc).trans hnode)
  · rintro ⟨hself, hchild⟩ path node hopen hnode
    cases path with
    | nil => exact Option.some_injective _ hnode ▸ hself
    | cons i path =>
      cases hc : j.children[i]? with
      | none =>
        rw [atPath_cons_none hc] at hnode
        cases hnode
      | some c =>
        exact hchild i c hopen.1 hc path node ((open_cons hopen.1 hc).mp hopen) ((atPath_cons hc).symm.trans hnode)

/-- What is hidden in a value can be read from what is not hidden in it. -/
def Stable (hides : Json → ℕ → Bool) : Prop :=
  ∀ j j', j'.shape = j.shape →
    (∀ i c c', hides j i = false → j.children[i]? = some c → j'.children[i]? = some c' → c'.shape = c.shape) →
    ∀ i, hides j' i = hides j i

theorem Redacts.determined (hstable : Stable hides) (ha : Redacts hides j a) (hb : Redacts hides j' b)
    (halike : Alike hides j j') : a = b := by
  induction j using induct generalizing j' a b with
  | step j ih =>
    obtain ⟨hshape, hchild⟩ := alike_iff.mp halike
    obtain ⟨hshapea, hchilda⟩ := redacts_iff.mp ha
    obtain ⟨hshapeb, hchildb⟩ := redacts_iff.mp hb
    have hsame := hstable j j' hshape (fun i c c' hhides hc hc' => (alike_iff.mp (hchild i c c' hhides hc hc')).1)
    have hshapes : a.shape = b.shape := hshapea.trans (hshapeb.trans hshape).symm
    refine ext_children hshapes (List.ext_getElem? fun i => ?_)
    cases hca : a.children[i]? with
    | none =>
      rw [List.getElem?_eq_none_iff] at hca
      rw [eq_comm, List.getElem?_eq_none_iff, ← length_children hshapes]
      exact hca
    | some ca =>
      obtain ⟨cb, hcb⟩ := child_of_shape hshapes.symm hca
      obtain ⟨c, hc⟩ := child_of_shape hshapea.symm hca
      obtain ⟨c', hc'⟩ := child_of_shape hshape hc
      have hredacta := hchilda i c ca hc hca
      have hredactb := hchildb i c' cb hc' hcb
      rw [hsame i] at hredactb
      rw [hcb]
      cases hhides : hides j i with
      | true =>
        rw [hhides, if_pos rfl] at hredacta hredactb
        rw [hredacta, hredactb]
      | false =>
        rw [hhides, if_neg (by simp)] at hredacta hredactb
        rw [ih c (List.mem_of_getElem? hc) hredacta hredactb (hchild i c c' hhides hc hc')]

end Json
