import Truckmaster.Library.Fallible
import Truckmaster.Library.ReadCommitted

/-! Transactions as programs of statements. One program has a sequential meaning, `run`, and is the code of a
READ COMMITTED session, `code`; a session that nobody interrupts does what `run` says. -/

namespace Transactions

open Fallible ReadCommitted Runs

variable {D D' K K' ε α β I γ : Type} {L W W' : Type*}

structure Part (D' D : Type) where
  get : D' → D
  put : D → D' → D'
  get_put : ∀ x d, get (put x d) = x
  put_put : ∀ x y d, put y (put x d) = put y d
  put_get : ∀ d, put (get d) d = d

/-- A statement may lock a row; what it writes and how the program goes on depend on the rows it sees. -/
inductive Txn (D K : Type) (W : Type*) (ε α : Type)
  | done (a : α)
  | throw (e : ε)
  | statement (row : Option K) (writes : D → List W) (next : D → Txn D K W ε α)

namespace Txn

def bind : Txn D K W ε α → (α → Txn D K W ε β) → Txn D K W ε β
  | .done a, f => f a
  | .throw e, _ => .throw e
  | .statement row writes next, f => .statement row writes (fun d => (next d).bind f)

instance : Monad (Txn D K W ε) where
  pure := .done
  bind := bind

def lift : Except ε α → Txn D K W ε α
  | .ok a => .done a
  | .error e => .throw e

instance : MonadLift (Except ε) (Txn D K W ε) where
  monadLift := lift

def ensure (p : Prop) [Decidable p] (e : ε) : Txn D K W ε Unit := lift (Fallible.ensure p e)

def require (o : Option α) (e : ε) : Txn D K W ε α := lift (Fallible.require o e)

def read (f : D → α) : Txn D K W ε α := .statement none (fun _ => []) (fun d => .done (f d))

def readLocked (row : K) (f : D → α) : Txn D K W ε α := .statement (some row) (fun _ => []) (fun d => .done (f d))

def write (w : W) : Txn D K W ε Unit := .statement none (fun _ => [w]) (fun _ => .done ())

def update (row : K) (w : W) : Txn D K W ε Unit := .statement (some row) (fun _ => [w]) (fun _ => .done ())

def claim (row : K) (taken : D → Bool) (e : ε) : Txn D K W ε Unit :=
  .statement (some row) (fun _ => []) (fun d => if taken d then .throw e else .done ())

def insert (row : K) (taken : D → Bool) (w : W) (e : ε) : Txn D K W ε Unit :=
  .statement (some row) (fun d => if taken d then [] else [w]) (fun d => if taken d then .throw e else .done ())

def run (apply : W → D → D) : Txn D K W ε α → D → Except ε α × D
  | .done a, d => (.ok a, d)
  | .throw e, d => (.error e, d)
  | .statement _ writes next, d => run apply (next d) ((writes d).foldl (fun d w => apply w d) d)

/-- All writes are committed if the program returns, and none if it throws. -/
def commit (apply : W → D → D) (p : Txn D K W ε α) (d : D) : Except ε α × D :=
  match run apply p d with
  | (.ok a, t) => (.ok a, t)
  | (.error e, _) => (.error e, d)

def exec (apply : W → D → D) (p : Txn D K W ε α) (d : D) : Except ε D :=
  match run apply p d with
  | (.ok _, t) => .ok t
  | (.error e, _) => .error e

section Bind

variable {e : ε} {f : α → Txn D K W ε β}

lemma bind_assoc (p : Txn D K W ε α) (f : α → Txn D K W ε β) (g : β → Txn D K W ε γ) :
    (p >>= f) >>= g = p >>= fun a => f a >>= g := by
  change (p.bind f).bind g = p.bind (fun a => (f a).bind g)
  induction p with
  | done a => rfl
  | throw e => rfl
  | statement row writes next ih => exact congrArg (Txn.statement row writes) (funext ih)

@[simp] lemma pure_bind (a : α) : ((pure a : Txn D K W ε α) >>= f) = f a := rfl

@[simp] lemma throw_bind : ((.throw e : Txn D K W ε α) >>= f) = .throw e := rfl

@[simp] lemma lift_ok_bind (a : α) : ((liftM (Except.ok a : Except ε α) : Txn D K W ε α) >>= f) = f a := rfl

@[simp] lemma require_some_bind (a : α) : ((require (some a) e : Txn D K W ε α) >>= f) = f a := rfl

@[simp] lemma require_none_bind : ((require none e : Txn D K W ε α) >>= f) = .throw e := rfl

lemma ensure_of {p : Prop} [Decidable p] (h : p) : (ensure p e : Txn D K W ε Unit) = pure () :=
  congrArg lift (if_pos h)

lemma ensure_not {p : Prop} [Decidable p] (h : ¬ p) : (ensure p e : Txn D K W ε Unit) = .throw e :=
  congrArg lift (if_neg h)

end Bind

section Run

variable {apply : W → D → D} {d t : D} {a : α} {b : β} {e : ε} {p : Txn D K W ε α} {f : α → Txn D K W ε β}

lemma run_bind : run apply (p >>= f) d =
    match run apply p d with
    | (.ok a, t) => run apply (f a) t
    | (.error e, t) => (.error e, t) := by
  change run apply (p.bind f) d = _
  induction p generalizing d with
  | done a => rfl
  | throw e => rfl
  | statement row writes next ih => exact ih d

lemma run_bind_ok : run apply (p >>= f) d = (.ok b, t) ↔
    ∃ a u, run apply p d = (.ok a, u) ∧ run apply (f a) u = (.ok b, t) := by
  rw [run_bind]
  rcases run apply p d with ⟨a | a, u⟩ <;> simp

lemma run_bind_error : run apply (p >>= f) d = (.error e, t) ↔
    run apply p d = (.error e, t) ∨ ∃ a u, run apply p d = (.ok a, u) ∧ run apply (f a) u = (.error e, t) := by
  rw [run_bind]
  rcases run apply p d with ⟨a | a, u⟩ <;> simp

@[simp] lemma run_pure : run apply (pure a : Txn D K W ε α) d = (.ok a, d) := rfl

@[simp] lemma run_throw : run apply (.throw e : Txn D K W ε α) d = (.error e, d) := rfl

@[simp] lemma run_lift {x : Except ε α} : run apply (liftM x : Txn D K W ε α) d = (x, d) := by
  cases x <;> rfl

@[simp] lemma run_ensure {p : Prop} [Decidable p] :
    run apply (ensure p e : Txn D K W ε Unit) d = (Fallible.ensure p e, d) := run_lift

@[simp] lemma run_require {o : Option α} : run apply (require o e : Txn D K W ε α) d = (Fallible.require o e, d) :=
  run_lift

@[simp] lemma run_read {f : D → α} : run apply (read f : Txn D K W ε α) d = (.ok (f d), d) := rfl

@[simp] lemma run_readLocked {row : K} {f : D → α} :
    run apply (readLocked row f : Txn D K W ε α) d = (.ok (f d), d) := rfl

@[simp] lemma run_write {w : W} : run apply (write w : Txn D K W ε Unit) d = (.ok (), apply w d) := rfl

@[simp] lemma run_update {row : K} {w : W} :
    run apply (update row w : Txn D K W ε Unit) d = (.ok (), apply w d) := rfl

@[simp] lemma run_claim {row : K} {taken : D → Bool} :
    run apply (claim row taken e : Txn D K W ε Unit) d = (if taken d then .error e else .ok (), d) := by
  simp only [claim, run, List.foldl_nil]
  split <;> rfl

@[simp] lemma run_insert {row : K} {taken : D → Bool} {w : W} :
    run apply (insert row taken w e : Txn D K W ε Unit) d =
      if taken d then (.error e, d) else (.ok (), apply w d) := by
  simp only [insert, run]
  split <;> rfl

lemma commit_eq_ok : commit apply p d = (.ok a, t) ↔ run apply p d = (.ok a, t) := by
  unfold commit
  rcases run apply p d with ⟨e | b, u⟩ <;> simp

lemma commit_error (h : commit apply p d = (.error e, t)) : t = d := by
  unfold commit at h
  rcases hrun : run apply p d with ⟨e | b, u⟩ <;> rw [hrun] at h
  · exact (congrArg Prod.snd h).symm
  · cases h

lemma exec_eq_ok : exec apply p d = .ok t ↔ ∃ a, run apply p d = (.ok a, t) := by
  unfold exec
  rcases run apply p d with ⟨a | a, u⟩ <;> simp

lemma exec_eq_error : exec apply p d = .error e ↔ ∃ t, run apply p d = (.error e, t) := by
  unfold exec
  rcases run apply p d with ⟨a | a, u⟩ <;> simp

end Run

def Writes (A : W → Prop) : Txn D K W ε α → Prop
  | .done _ => True
  | .throw _ => True
  | .statement _ writes next => ∀ d, (∀ w ∈ writes d, A w) ∧ (next d).Writes A

section Writes

variable {A : W → Prop} {apply : W → D → D} {p : Txn D K W ε α} {f : α → Txn D K W ε β} {d : D}

lemma Writes.bind (hp : p.Writes A) (hf : ∀ a, (f a).Writes A) : (p >>= f).Writes A := by
  change (p.bind f).Writes A
  induction p with
  | done a => exact hf a
  | throw e => trivial
  | statement row writes next ih => exact fun d => ⟨(hp d).1, ih d (hp d).2⟩

lemma Writes.pure (a : α) : (pure a : Txn D K W ε α).Writes A := trivial

lemma Writes.lift (x : Except ε α) : (liftM x : Txn D K W ε α).Writes A := by cases x <;> trivial

lemma Writes.ensure (p : Prop) [Decidable p] (e : ε) : (ensure p e : Txn D K W ε Unit).Writes A := Writes.lift _

lemma Writes.require (o : Option α) (e : ε) : (require o e : Txn D K W ε α).Writes A := Writes.lift _

lemma Writes.read (f : D → α) : (read f : Txn D K W ε α).Writes A := fun _ => ⟨nofun, trivial⟩

lemma Writes.readLocked (row : K) (f : D → α) : (readLocked row f : Txn D K W ε α).Writes A := fun _ => ⟨nofun, trivial⟩

lemma Writes.write {w : W} (h : A w) : (write w : Txn D K W ε Unit).Writes A :=
  fun _ => ⟨fun _ hv => List.mem_singleton.mp hv ▸ h, trivial⟩

lemma Writes.update {row : K} {w : W} (h : A w) : (update row w : Txn D K W ε Unit).Writes A :=
  fun _ => ⟨fun _ hv => List.mem_singleton.mp hv ▸ h, trivial⟩

lemma Writes.claim (row : K) (taken : D → Bool) (e : ε) : (claim row taken e : Txn D K W ε Unit).Writes A := by
  refine fun d => ⟨nofun, ?_⟩
  change Txn.Writes A (if taken d then .throw e else .done ())
  split <;> trivial

lemma Writes.insert {row : K} {taken : D → Bool} {w : W} {e : ε} (h : A w) :
    (insert row taken w e : Txn D K W ε Unit).Writes A := by
  refine fun d => ⟨fun v hv => ?_, ?_⟩
  · dsimp only at hv
    split at hv
    · exact absurd hv List.not_mem_nil
    · exact List.mem_singleton.mp hv ▸ h
  · change Txn.Writes A (if taken d then .throw e else .done ())
    split <;> trivial

lemma foldl_apply {P : D → Prop} (hA : ∀ w d, A w → P d → P (apply w d)) (ws : List W)
    (hws : ∀ w ∈ ws, A w) (hd : P d) : P (ws.foldl (fun d w => apply w d) d) := by
  induction ws generalizing d with
  | nil => exact hd
  | cons w ws ih =>
    obtain ⟨hw, hrest⟩ := List.forall_mem_cons.mp hws
    exact ih hrest (hA w d hw hd)

lemma Writes.run (apply : W → D → D) {P : D → Prop} (hp : p.Writes A)
    (hA : ∀ w d, A w → P d → P (apply w d)) (hd : P d) :
    P (p.run apply d).2 := by
  induction p generalizing d with
  | done a => exact hd
  | throw e => exact hd
  | statement row writes next ih => exact ih d (hp d).2 (foldl_apply hA (writes d) (hp d).1 hd)

lemma run_keeps {P : D → Prop} (hP : ∀ w d, P d → P (apply w d)) (p : Txn D K W ε α) (hd : P d) :
    P (p.run apply d).2 := by
  induction p generalizing d with
  | done a => exact hd
  | throw e => exact hd
  | statement row writes next ih =>
    exact ih d (foldl_apply (A := fun _ => True) (fun w d _ => hP w d) (writes d) (fun _ _ => trivial) hd)

lemma commit_keeps {P : D → Prop} (hP : ∀ w d, P d → P (apply w d)) (p : Txn D K W ε α) (hd : P d) :
    P (p.commit apply d).2 := by
  have hrun := run_keeps hP p hd
  unfold commit
  rcases h : p.run apply d with ⟨e | a, t⟩
  · exact hd
  · rw [h] at hrun
    exact hrun

lemma Writes.run_silent {x : Except ε α} {t : D} (hp : p.Writes (fun _ => False)) (h : p.run apply d = (x, t)) :
    t = d := by
  have hsame := hp.run apply (P := fun u => u = d) (fun _ _ hw => hw.elim) rfl
  rwa [h] at hsame

end Writes

def Establishes (apply : W → D → D) (R : D → Prop) (p : Txn D K W ε α) : Prop :=
  ∀ d a t, p.run apply d = (.ok a, t) → R t

lemma Establishes.bind {apply : W → D → D} {R : D → Prop} {p : Txn D K W ε α} {f : α → Txn D K W ε β}
    (hf : ∀ a, (f a).Establishes apply R) : (p >>= f).Establishes apply R := by
  intro d b t h
  obtain ⟨a, u, _, hrest⟩ := run_bind_ok.mp h
  exact hf a u b t hrest

lemma Establishes.ignore {apply : W → D → D} {R : D → Prop} {p : Txn D K W ε α} {b : β} (hp : p.Establishes apply R) :
    (p >>= fun _ => pure b).Establishes apply R := by
  intro d b' t h
  obtain ⟨a, u, hfirst, hrest⟩ := run_bind_ok.mp h
  obtain ⟨_, rfl⟩ := Prod.mk.inj hrest
  exact hp d a u hfirst

/-- The program does not see the difference that `h` makes to the rows. -/
def Blind (h : D → D) : Txn D K W ε α → Prop
  | .done _ => True
  | .throw _ => True
  | .statement _ writes next => ∀ d, writes (h d) = writes d ∧ next (h d) = next d ∧ (next d).Blind h

section Blind

variable {h : D → D} {apply : W → D → D} {p : Txn D K W ε α} {f : α → Txn D K W ε β} {d : D}

lemma Blind.bind (hp : p.Blind h) (hf : ∀ a, (f a).Blind h) : (p >>= f).Blind h := by
  change (p.bind f).Blind h
  induction p with
  | done a => exact hf a
  | throw e => trivial
  | statement row writes next ih =>
    intro d
    obtain ⟨hwrites, hnext, hblind⟩ := hp d
    exact ⟨hwrites, congrArg (fun p => p.bind f) hnext, ih d hblind⟩

lemma Blind.pure (a : α) : (pure a : Txn D K W ε α).Blind h := trivial

lemma Blind.lift (x : Except ε α) : (liftM x : Txn D K W ε α).Blind h := by cases x <;> trivial

lemma Blind.ensure (p : Prop) [Decidable p] (e : ε) : (ensure p e : Txn D K W ε Unit).Blind h := Blind.lift _

lemma Blind.require (o : Option α) (e : ε) : (require o e : Txn D K W ε α).Blind h := Blind.lift _

lemma Blind.read {f : D → α} (hf : ∀ d, f (h d) = f d) : (read f : Txn D K W ε α).Blind h :=
  fun d => ⟨rfl, congrArg _ (hf d), trivial⟩

lemma Blind.write (w : W) : (write w : Txn D K W ε Unit).Blind h := fun _ => ⟨rfl, rfl, trivial⟩

lemma Blind.update (row : K) (w : W) : (update row w : Txn D K W ε Unit).Blind h := fun _ => ⟨rfl, rfl, trivial⟩

lemma Blind.claim (row : K) {taken : D → Bool} (htaken : ∀ d, taken (h d) = taken d) (e : ε) :
    (claim row taken e : Txn D K W ε Unit).Blind h := by
  refine fun d => ⟨rfl, ?_, ?_⟩
  · simp only [htaken]
  · change Txn.Blind h (if taken d then .throw e else .done ())
    split <;> trivial

lemma Blind.run (hp : p.Blind h) (happly : ∀ w d, apply w (h d) = h (apply w d)) :
    p.run apply (h d) = ((p.run apply d).1, h (p.run apply d).2) := by
  have hfold (ws : List W) (d : D) :
      ws.foldl (fun d w => apply w d) (h d) = h (ws.foldl (fun d w => apply w d) d) := by
    induction ws generalizing d with
    | nil => rfl
    | cons w ws ih => rw [List.foldl_cons, List.foldl_cons, happly, ih]
  induction p generalizing d with
  | done a => rfl
  | throw e => rfl
  | statement row writes next ih =>
    obtain ⟨hwrites, hnext, hblind⟩ := hp d
    simp only [Txn.run]
    rw [hwrites, hnext, hfold]
    exact ih d hblind

end Blind

/-- The program does not see how rows that `R` relates differ. -/
def BlindTo (R : D → D → Prop) : Txn D K W ε α → Prop
  | .done _ => True
  | .throw _ => True
  | .statement _ writes next => ∀ d d', R d d' → writes d = writes d' ∧ next d = next d' ∧ (next d).BlindTo R

section BlindTo

variable {R : D → D → Prop} {apply : W → D → D} {p : Txn D K W ε α} {f : α → Txn D K W ε β} {d d' : D}

lemma BlindTo.bind (hp : p.BlindTo R) (hf : ∀ a, (f a).BlindTo R) : (p >>= f).BlindTo R := by
  change (p.bind f).BlindTo R
  induction p with
  | done a => exact hf a
  | throw e => trivial
  | statement row writes next ih =>
    intro d d' hd
    obtain ⟨hwrites, hnext, hblind⟩ := hp d d' hd
    exact ⟨hwrites, congrArg (fun p => p.bind f) hnext, ih d hblind⟩

lemma BlindTo.pure (a : α) : (pure a : Txn D K W ε α).BlindTo R := trivial

lemma BlindTo.read {f : D → α} (hf : ∀ d d', R d d' → f d = f d') : (read f : Txn D K W ε α).BlindTo R :=
  fun d d' hd => ⟨rfl, congrArg _ (hf d d' hd), trivial⟩

lemma BlindTo.ignore (f : D → β) (hp : p.BlindTo R) : ((Txn.read f : Txn D K W ε β) >>= fun _ => p).BlindTo R :=
  fun _ _ _ => ⟨rfl, rfl, hp⟩

lemma BlindTo.write (w : W) : (write w : Txn D K W ε Unit).BlindTo R := fun _ _ _ => ⟨rfl, rfl, trivial⟩

lemma BlindTo.update (row : K) (w : W) : (update row w : Txn D K W ε Unit).BlindTo R := fun _ _ _ => ⟨rfl, rfl, trivial⟩

end BlindTo

def embed (part : Part D' D) (row : K → K') (wrap : W → W') : Txn D K W ε α → Txn D' K' W' ε α
  | .done a => .done a
  | .throw e => .throw e
  | .statement r writes next => .statement (r.map row) (fun d => (writes (part.get d)).map wrap)
      (fun d => (next (part.get d)).embed part row wrap)

section Embed

variable {part : Part D' D} {row : K → K'} {wrap : W → W'} {apply : W → D → D} {apply' : W' → D' → D'}
  {p : Txn D K W ε α} {d : D'}

lemma foldl_embed (happly : ∀ w d, apply' (wrap w) d = part.put (apply w (part.get d)) d) (ws : List W) :
    (ws.map wrap).foldl (fun d w => apply' w d) d =
      part.put (ws.foldl (fun d w => apply w d) (part.get d)) d := by
  induction ws generalizing d with
  | nil => exact (part.put_get d).symm
  | cons w ws ih =>
    rw [List.map_cons, List.foldl_cons, List.foldl_cons, ih, happly, part.get_put, part.put_put]

lemma Writes.embed {A : W → Prop} {A' : W' → Prop} (hA : ∀ w, A w → A' (wrap w)) (hp : p.Writes A) :
    (p.embed part row wrap).Writes A' := by
  induction p with
  | done a => trivial
  | throw e => trivial
  | statement r writes next ih =>
    refine fun d => ⟨fun w hw => ?_, ih _ (hp _).2⟩
    obtain ⟨v, hv, rfl⟩ := List.mem_map.mp hw
    exact hA v ((hp _).1 v hv)

lemma run_embed (happly : ∀ w d, apply' (wrap w) d = part.put (apply w (part.get d)) d) :
    (p.embed part row wrap).run apply' d =
      ((p.run apply (part.get d)).1, part.put (p.run apply (part.get d)).2 d) := by
  induction p generalizing d with
  | done a => exact congrArg _ (part.put_get d).symm
  | throw e => exact congrArg _ (part.put_get d).symm
  | statement r writes next ih =>
    simp only [embed, run]
    rw [foldl_embed happly, ih, part.get_put, part.put_put]

end Embed

end Txn

inductive Frame (D K : Type) (W : Type*) (ε α : Type)
  | running (p : Txn D K W ε α)
  | answered (answer : Except ε α)

namespace Frame

def action : Frame D K W ε α → Action D K (Frame D K W ε α) W
  | .running (.done a) => .commit (.answered (.ok a))
  | .running (.throw e) => .rollback (.answered (.error e))
  | .running (.statement none writes next) => .run (fun d => (.running (next d), writes d))
  | .running (.statement (some row) writes next) => .lock row (fun d => (.running (next d), writes d))
  | .answered _ => .stop

def fail (lost : ε) : Frame D K W ε α → Frame D K W ε α
  | .running _ => .answered (.error lost)
  | .answered answer => .answered answer

lemma fail_answered (lost : ε) (f : Frame D K W ε α) : ∃ answer, f.fail lost = .answered answer := by
  cases f with
  | running p => exact ⟨_, rfl⟩
  | answered answer => exact ⟨answer, rfl⟩

lemma action_moves (row : Option K) (writes : D → List W) (next : D → Txn D K W ε α) (d : D) :
    (running (.statement row writes next)).action.moves d = some (.running (next d), writes d) := by
  cases row <;> rfl

end Frame

def code (apply : W → D → D) (lost : ε) : Code D K (Frame D K W ε α) W where
  action := Frame.action
  apply := apply
  fail := Frame.fail lost

/-- From the frame the session makes the statements of the program, and ends as it ends. -/
inductive Performs (c : Code D K L W) (answered : Except ε α → L) : L → Txn D K W ε α → Prop
  | done {l : L} {a : α} (h : c.action l = .commit (answered (.ok a))) : Performs c answered l (.done a)
  | throw {l : L} {e : ε} (h : c.action l = .rollback (answered (.error e))) : Performs c answered l (.throw e)
  | statement {l : L} {row : Option K} {writes : D → List W} {next : D → Txn D K W ε α} (frame : D → L)
      (h : ∀ d, (c.action l).moves d = some (frame d, writes d)) (rest : ∀ d, Performs c answered (frame d) (next d)) :
      Performs c answered l (.statement row writes next)
  | silent {l l' : L} {p : Txn D K W ε α} (h : ∀ d, (c.action l).moves d = some (l', []))
      (rest : Performs c answered l' p) : Performs c answered l p

section Sessions

variable {c : Code D K L W} {answered : Except ε α → L} {apply : W → D → D} {lost : ε} {p : Txn D K W ε α} {l : L}
  {d u : D} {ws : List W}

lemma Performs.moves {row : Option K} {writes : D → List W} {next : D → Txn D K W ε α}
    (h : ∀ d, ∃ l', (c.action l).moves d = some (l', writes d) ∧ Performs c answered l' (next d)) :
    Performs c answered l (.statement row writes next) := by
  choose frame hmoves hrest using h
  exact .statement frame hmoves hrest

lemma Performs.read {f : D → β} {k : β → Txn D K W ε α}
    (h : ∀ d, ∃ l', (c.action l).moves d = some (l', []) ∧ Performs c answered l' (k (f d))) :
    Performs c answered l (Txn.read f >>= k) := .moves h

lemma Performs.write {w : W} {l' : L} {k : Unit → Txn D K W ε α} (h : ∀ d, (c.action l).moves d = some (l', [w]))
    (rest : Performs c answered l' (k ())) : Performs c answered l (Txn.write w >>= k) :=
  .moves (fun d => ⟨l', h d, rest⟩)

lemma Performs.update {row : K} {w : W} {l' : L} {k : Unit → Txn D K W ε α}
    (h : ∀ d, (c.action l).moves d = some (l', [w])) (rest : Performs c answered l' (k ())) :
    Performs c answered l (Txn.update row w >>= k) := .moves (fun d => ⟨l', h d, rest⟩)

lemma Performs.insert {row : K} {taken : D → Bool} {w : W} {e : ε} {l' : L} (failed : L)
    {k : Unit → Txn D K W ε α} (h : ∀ d, (c.action l).moves d = if taken d then some (failed, []) else some (l', [w]))
    (hfailed : c.action failed = .rollback (answered (.error e))) (rest : Performs c answered l' (k ())) :
    Performs c answered l (Txn.insert row taken w e >>= k) := by
  refine .moves (fun d => ?_)
  rw [h d]
  dsimp only
  split
  · exact ⟨failed, rfl, .throw hfailed⟩
  · exact ⟨l', rfl, rest⟩

lemma Performs.alone_from (h : Performs c answered l p) (hu : c.applyAll ws d = u) :
    Alone c d ⟨l, ws⟩
      (match p.run c.apply u with
        | (.ok _, t) => t
        | (.error _, _) => d)
      (answered (p.run c.apply u).1) := by
  induction h generalizing ws u with
  | done h =>
    subst hu
    exact .commit h
  | throw h => exact .rollback h
  | @statement l row writes next frame h rest ih =>
    subst hu
    have hwritten := c.applyAll_append ws (writes (c.applyAll ws d)) d
    exact .writes (h _) (ih _ hwritten)
  | silent h rest ih => exact .reads (h _) (ih hu)

theorem Performs.alone (h : Performs c answered l p) (d : D) :
    Alone c d ⟨l, []⟩ (p.commit c.apply d).2 (answered (p.commit c.apply d).1) := by
  have halone := h.alone_from (c.applyAll_nil d)
  unfold Txn.commit
  rcases hrun : p.run c.apply d with ⟨e | a, t⟩ <;> rwa [hrun] at halone

lemma performs_code (p : Txn D K W ε α) : Performs (code apply lost) Frame.answered (.running p) p := by
  induction p with
  | done a => exact .done rfl
  | throw e => exact .throw rfl
  | statement row writes next ih =>
    exact .statement (fun d => .running (next d)) (fun d => Frame.action_moves row writes next d) ih

lemma alone_commit (p : Txn D K W ε α) (d : D) :
    Alone (code apply lost) d ⟨.running p, []⟩ (p.commit apply d).2 (.answered (p.commit apply d).1) :=
  (performs_code p).alone d

end Sessions

/-- The program takes the marks from `g` to one that `Q` allows; `move` says how a statement may change the mark. -/
def Txn.Follows (good : D → Prop) (move : γ → Option K → D → List W → γ → Prop) :
    Txn D K W ε α → γ → (α → γ → Prop) → Prop
  | .done a, g, Q => Q a g
  | .throw _, _, _ => True
  | .statement row writes next, g, Q => ∀ d, good d → ∃ g', move g row d (writes d) g' ∧ (next d).Follows good move g' Q

section Follows

variable {good : D → Prop} {move : γ → Option K → D → List W → γ → Prop} {p : Txn D K W ε α}
  {f : α → Txn D K W ε β} {g : γ}

lemma Txn.Follows.mono {Q Q' : α → γ → Prop} (h : p.Follows good move g Q) (hQ : ∀ a g', Q a g' → Q' a g') :
    p.Follows good move g Q' := by
  induction p generalizing g with
  | done a => exact hQ a g h
  | throw e => trivial
  | statement row writes next ih =>
    intro d hd
    obtain ⟨g', hmove, hnext⟩ := h d hd
    exact ⟨g', hmove, ih d hnext⟩

lemma Txn.Follows.bind {Q : β → γ → Prop} (h : p.Follows good move g (fun a g' => (f a).Follows good move g' Q)) :
    (p >>= f).Follows good move g Q := by
  change (Txn.bind p f).Follows good move g Q
  induction p generalizing g with
  | done a => exact h
  | throw e => trivial
  | statement row writes next ih =>
    intro d hd
    obtain ⟨g', hmove, hnext⟩ := h d hd
    exact ⟨g', hmove, ih d hnext⟩

end Follows

section Marks

variable [DecidableEq I] [DecidableEq K] {apply : W → D → D} {lost : ε} {good : D → Prop}
  {move : γ → Option K → D → List W → γ → Prop} {idle : γ} {final : γ → Prop}
  {J : D → (K → Option I) → (I → List W) → (I → γ) → Prop} {requests : I → Txn D K W ε α} {d₀ : D}
  {s t : State D K I (Frame D K W ε α) W} {e : Event I} {es : List (Event I)}

def taking (row : Option K) (i : I) (owner : K → Option I) : K → Option I :=
  row.elim owner (fun k => Function.update owner k (some i))

def releasing (i : I) (owner : K → Option I) : K → Option I :=
  fun k => if owner k = some i then none else owner k

omit [DecidableEq I] in
lemma taking_self {row : Option K} {i : I} {owner : K → Option I} {k : K} (h : owner k = some i) :
    taking row i owner k = some i := by
  cases row with
  | none => exact h
  | some r =>
    by_cases hr : k = r
    · subst hr
      exact Function.update_self ..
    · exact (Function.update_of_ne hr ..).trans h

omit [DecidableEq I] in
lemma taking_other {row : Option K} {i j : I} {owner : K → Option I} {k : K} (hij : j ≠ i)
    (hfree : ∀ k ∈ row, owner k = none ∨ owner k = some i) (h : owner k = some j) : taking row i owner k = some j := by
  cases row with
  | none => exact h
  | some r =>
    have hr : k ≠ r := by
      rintro rfl
      rcases hfree k rfl with hnone | hi
      · exact absurd (h.symm.trans hnone) nofun
      · exact hij (Option.some.inj (h.symm.trans hi))
    exact (Function.update_of_ne hr ..).trans h

omit [DecidableEq K] in
lemma releasing_other {i j : I} {owner : K → Option I} {k : K} (hij : j ≠ i) (h : owner k = some j) :
    releasing i owner k = some j := by
  have hi : owner k ≠ some i := fun hi => hij (Option.some.inj (h.symm.trans hi))
  exact (if_neg hi).trans h

/-- What the marks of the sessions say of the rows, the locks and the uncommitted writes. -/
structure Marking (apply : W → D → D) (good : D → Prop) (move : γ → Option K → D → List W → γ → Prop) (idle : γ)
    (J : D → (K → Option I) → (I → List W) → (I → γ) → Prop) : Prop where
  good : ∀ d owner ws g i, J d owner ws g → good ((ws i).foldl (fun d w => apply w d) d)
  move : ∀ d owner ws g i row vs g', J d owner ws g → (∀ k ∈ row, owner k = none ∨ owner k = some i) →
    move (g i) row ((ws i).foldl (fun d w => apply w d) d) vs g' →
    J d (taking row i owner) (Function.update ws i (ws i ++ vs)) (Function.update g i g')
  commit : ∀ d owner ws g i, J d owner ws g → J ((ws i).foldl (fun d w => apply w d) d) (releasing i owner)
    (Function.update ws i []) (Function.update g i idle)
  rollback : ∀ d owner ws g i, J d owner ws g → J d (releasing i owner) (Function.update ws i [])
    (Function.update g i idle)

/-- Marks that a transaction may commit with only once they are `final`. -/
structure MarkingTo (apply : W → D → D) (good : D → Prop) (move : γ → Option K → D → List W → γ → Prop) (idle : γ)
    (final : γ → Prop) (J : D → (K → Option I) → (I → List W) → (I → γ) → Prop) : Prop where
  good : ∀ d owner ws g i, J d owner ws g → good ((ws i).foldl (fun d w => apply w d) d)
  move : ∀ d owner ws g i row vs g', J d owner ws g → (∀ k ∈ row, owner k = none ∨ owner k = some i) →
    move (g i) row ((ws i).foldl (fun d w => apply w d) d) vs g' →
    J d (taking row i owner) (Function.update ws i (ws i ++ vs)) (Function.update g i g')
  commit : ∀ d owner ws g i, J d owner ws g → final (g i) → J ((ws i).foldl (fun d w => apply w d) d) (releasing i owner)
    (Function.update ws i []) (Function.update g i idle)
  rollback : ∀ d owner ws g i, J d owner ws g → J d (releasing i owner) (Function.update ws i [])
    (Function.update g i idle)

def Marked (good : D → Prop) (move : γ → Option K → D → List W → γ → Prop) (final : γ → Prop)
    (J : D → (K → Option I) → (I → List W) → (I → γ) → Prop) (s : State D K I (Frame D K W ε α) W) : Prop :=
  ∃ g, J s.committed s.owner (fun i => (s.session i).writes) g ∧
    ∀ i p, (s.session i).frame = .running p → p.Follows good move (g i) (fun _ => final)

omit [DecidableEq K] in
lemma marked_update {i : I} {x : Session (Frame D K W ε α) W} {g : I → γ} {g' : γ}
    (hsession : t.session = Function.update s.session i x)
    (hJ : J t.committed t.owner (Function.update (fun j => (s.session j).writes) i x.writes) (Function.update g i g'))
    (hs : ∀ j p, (s.session j).frame = .running p → p.Follows good move (g j) (fun _ => final))
    (hx : ∀ p, x.frame = .running p → p.Follows good move g' (fun _ => final)) : Marked good move final J t := by
  refine ⟨Function.update g i g', ?_, fun j p hp => ?_⟩
  · have hwrites : (fun j => (t.session j).writes) = Function.update (fun j => (s.session j).writes) i x.writes := by
      funext j
      rw [hsession]
      by_cases hj : j = i
      · subst hj
        simp only [Function.update_self]
      · simp only [Function.update_of_ne hj]
    rw [hwrites]
    exact hJ
  · rw [hsession] at hp
    by_cases hj : j = i
    · subst hj
      rw [Function.update_self] at hp ⊢
      exact hx p hp
    · rw [Function.update_of_ne hj] at hp ⊢
      exact hs j p hp

lemma MarkingTo.step (hJ : MarkingTo apply good move idle final J) (hs : Marked good move final J s)
    (h : step (code apply lost) s e = some t) : Marked good move final J t := by
  obtain ⟨g, hj, hf⟩ := hs
  have hrollback (i : I) (answer : Except ε α) : Marked good move final J (s.finish i s.committed (.answered answer)) :=
    marked_update (i := i) rfl (hJ.rollback _ _ _ g i hj) hf (by rintro _ ⟨⟩)
  cases e with
  | fail i =>
    obtain rfl := Option.some.inj h
    obtain ⟨answer, hanswer⟩ := Frame.fail_answered lost (s.session i).frame
    rw [show (code apply lost).fail (s.session i).frame = .answered answer from hanswer]
    exact hrollback i answer
  | advance i =>
    rcases hi : (s.session i).frame with p | answer
    · cases p with
      | done a =>
        simp only [ReadCommitted.step, code, hi, Frame.action, Option.some.injEq] at h
        subst h
        exact marked_update (i := i) rfl (hJ.commit _ _ _ g i hj (hf i _ hi)) hf (by rintro _ ⟨⟩)
      | throw e =>
        simp only [ReadCommitted.step, code, hi, Frame.action, Option.some.injEq] at h
        subst h
        exact hrollback i _
      | statement row writes next =>
        obtain ⟨g', hmove, hnext⟩ := hf i _ hi _ (hJ.good _ _ _ g i hj)
        cases row with
        | none =>
          simp only [ReadCommitted.step, code, hi, Frame.action, Option.some.injEq] at h
          subst h
          refine marked_update (i := i) rfl (hJ.move _ _ _ g i none _ g' hj (by rintro _ ⟨⟩) hmove) hf (fun p hp => ?_)
          obtain rfl := Frame.running.inj hp
          exact hnext
        | some row =>
          simp only [ReadCommitted.step, code, hi, Frame.action, Option.ite_none_right_eq_some, Option.some.injEq] at h
          obtain ⟨hfree, rfl⟩ := h
          refine marked_update (i := i) rfl (hJ.move _ _ _ g i (some row) _ g' hj ?_ hmove) hf (fun p hp => ?_)
          · intro k hk
            obtain rfl := Option.some.inj hk
            exact hfree
          · obtain rfl := Frame.running.inj hp
            exact hnext
    · simp only [ReadCommitted.step, code, hi, Frame.action, reduceCtorEq] at h

theorem MarkingTo.run (hJ : MarkingTo apply good move idle final J)
    (h₀ : J d₀ (fun _ => none) (fun _ => []) (fun _ => idle))
    (hrequests : ∀ i, (requests i).Follows good move idle (fun _ => final))
    (h : Run (Enabled (ReadCommitted.step (code apply lost))) (begin d₀ (fun i => .running (requests i))) es s) :
    ∃ g, J s.committed s.owner (fun i => (s.session i).writes) g := by
  have hmarked : Marked good move final J s := by
    refine h.invariant (fun _ _ _ ha he => hJ.step ha he) ⟨fun _ => idle, h₀, fun i p hp => ?_⟩
    obtain rfl := Frame.running.inj hp
    exact hrequests i
  obtain ⟨g, hg, _⟩ := hmarked
  exact ⟨g, hg⟩

theorem Marking.run (hJ : Marking apply good move idle J) (h₀ : J d₀ (fun _ => none) (fun _ => []) (fun _ => idle))
    (hrequests : ∀ i, (requests i).Follows good move idle (fun _ _ => True))
    (h : Run (Enabled (ReadCommitted.step (code apply lost))) (begin d₀ (fun i => .running (requests i))) es s) :
    ∃ g, J s.committed s.owner (fun i => (s.session i).writes) g := by
  have hto : MarkingTo apply good move idle (fun _ => True) J :=
    ⟨hJ.good, hJ.move, fun d owner ws g i hj _ => hJ.commit d owner ws g i hj, hJ.rollback⟩
  exact hto.run h₀ hrequests h

end Marks

end Transactions
