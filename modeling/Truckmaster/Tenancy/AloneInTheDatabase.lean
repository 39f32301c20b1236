import Truckmaster.Library.Noninterference
import Truckmaster.Tenancy.TenantIsolation

/-! An organization's transactions are answered as if its rows and the shared ones were the only rows and its
connections the only ones in use. -/

namespace Truckmaster.Tenancy

open Common RowSecurity Runs Noninterference

variable {n : ℕ} {δ α : Type} {organizationId : Uuid} {constraints : Constraints (Fin n) Key (Row δ)}

def ShownTo (organizationId : Uuid) (k : Key) (r : Row δ) : Bool :=
  Shared k r ∨ k.table.protection ≠ .open ∧ r.organizationId = some organizationId

namespace Pool

def alone (organizationId : Uuid) (rows : Database δ) : Pool n δ := .new n (restrict (ShownTo organizationId) rows)

def Written (p : Pool n δ) (k : Key) : Prop := ∃ c, (p.connections c).holds k = true

end Pool

def Pool.logsOf (organizationId : Uuid) (p : Pool n δ) (c : Fin n) : List (Write Key (Row δ)) :=
  (((p.connections c).session.filter (fun x => decide (x.caller.Of organizationId))).map Session.log).getD []

/-- The constraints judge what the organization writes by what it is shown, and what they write over is shown to it exactly
where one of its own statements sets them off. -/
structure Bounded (organizationId : Uuid) (constraints : Constraints (Fin n) Key (Row δ)) (p : Pool n δ) (c : Fin n) (caller : Caller)
    (ws : List (Write Key (Row δ))) : Prop where
  judged : caller.Of organizationId →
    constraints p.rows p.logs c ws = constraints (restrict (ShownTo organizationId) p.rows) (p.logsOf organizationId) c ws
  unlocked : ∀ acts, constraints p.rows p.logs c ws = .stand acts → ∀ w ∈ acts, p.locked c w.1 = false
  within : caller.Of organizationId → ∀ acts, constraints p.rows p.logs c ws = .stand acts →
    ∀ w ∈ acts, ∀ r, w.2 = some r → ShownTo organizationId w.1 r = true
  away : ¬ caller.Of organizationId → ∀ acts, constraints p.rows p.logs c ws = .stand acts → ∀ w ∈ acts,
    restrict (ShownTo organizationId) p.rows w.1 = none ∧ ∀ r, w.2 = some r → ShownTo organizationId w.1 r = false

/-- The pool hands out idle connections. Inserted rows have ids that are not in use. The organization is not created during the
run. Transactions for one user or one invitation read only, and those of others do not write shared rows. -/
structure Discreet (organizationId : Uuid) (constraints : Constraints (Fin n) Key (Row δ)) (p : Pool n δ) (e : Event n δ α) : Prop where
  idle : e.action = .begin → (p.connections e.connection).session = none
  created : ∀ text, e.action = .setOrganization text → castUuid text ≠ some organizationId
  fresh : ∀ s x, e.action = .statement s → (p.connections e.connection).session = some x →
    ∀ k ∈ s.inserts (seen policy e.caller.context (pending p.rows x.log)), p.rows k = none ∧ ¬ p.Written k
  bounded : ∀ s x ws, e.action = .statement s → (p.connections e.connection).session = some x →
    s.execute policy e.caller.context (pending p.rows x.log) (p.locked e.connection) = .wrote ws →
      Bounded organizationId constraints p e.connection e.caller ws
  reads : ∀ s, e.action = .statement s → ¬ e.caller.Of organizationId → (∀ text, e.caller ≠ .tenant text) →
    ∃ read, s = .select read
  shared : ∀ s x ws, e.action = .statement s → ¬ e.caller.Of organizationId →
    (p.connections e.connection).session = some x → (p.serve constraints e).2 = .outcome (.wrote ws) → ∀ w ∈ ws,
      (∀ old, pending p.rows x.log w.1 = some old → ¬ Shared w.1 old) ∧ ∀ new, w.2 = some new → ¬ Shared w.1 new

section Shown

variable {caller : Caller} {rows : Database δ} {k : Key} {r : Row δ}

lemma policy_own (h : caller.Of organizationId) (rows : Database δ) :
    policy caller.context rows = ShownTo (δ := δ) organizationId := by
  funext k r
  rw [Bool.eq_iff_iff, policy_iff, ShownTo, decide_eq_true_iff]
  cases caller with
  | tenant text =>
    have hcast : castUuid text = some organizationId := h
    simp only [Caller.Permits, hcast]
    exact or_congr_right ⟨fun h => ⟨h.1, h.2.2⟩, fun h => ⟨h.1, by rw [h.2]; rfl, h.2⟩⟩
  | user userId => exact h.elim
  | invitation tokenHash => exact h.elim
  | bare => exact h.elim

lemma not_shown (hother : ¬ caller.Of organizationId) (htenant : (∃ text, caller = .tenant text) ∨ caller = .bare)
    (h : policy caller.context rows k r = true) (hshared : ¬ Shared k r) : ShownTo organizationId k r = false := by
  rw [policy_iff] at h
  rw [ShownTo, decide_eq_false_iff_not]
  rintro (hs | ⟨_, horg⟩)
  · exact hshared hs
  · rcases h with hs | hpermits
    · exact hshared hs
    · rcases htenant with ⟨text, rfl⟩ | rfl
      · obtain ⟨_, _, hcast⟩ := hpermits
        exact hother (hcast.symm.trans horg)
      · exact hpermits

end Shown

inductive Mirrors (organizationId : Uuid) : Option (Session δ) → Option (Session δ) → Prop
  | idle : Mirrors organizationId none none
  | other {x : Session δ} : ¬ x.caller.Of organizationId → Mirrors organizationId (some x) none
  | own {x y : Session δ} : x.caller.Of organizationId → y.caller = x.caller → y.log = x.log → y.failed = x.failed →
      Mirrors organizationId (some x) (some y)

structure Apart (organizationId : Uuid) (s : Pool n δ) (w : Write Key (Row δ)) : Prop where
  old : restrict (ShownTo organizationId) s.rows w.1 = none
  new : ∀ r, w.2 = some r → ShownTo organizationId w.1 r = false
  keys : ∀ c x, (s.connections c).session = some x → x.caller.Of organizationId → w.1 ∉ x.log.map Prod.fst

structure Alongside (organizationId : Uuid) (s t : Pool n δ) : Prop where
  settled : s.Settled
  settledAlone : t.Settled
  rows : t.rows = restrict (ShownTo organizationId) s.rows
  sessions : ∀ c, Mirrors organizationId (s.connections c).session (t.connections c).session
  own : ∀ c x, (s.connections c).session = some x → x.caller.Of organizationId →
    ∀ w ∈ x.log, ∀ r, w.2 = some r → ShownTo organizationId w.1 r = true
  others : ∀ c x, (s.connections c).session = some x → ¬ x.caller.Of organizationId →
    ∀ w ∈ x.log, Apart organizationId s w

lemma alongside_new (n : ℕ) (organizationId : Uuid) (rows : Database δ) :
    Alongside organizationId (Pool.new n rows) (Pool.alone organizationId rows) :=
  ⟨Pool.settled_new n rows, Pool.settled_new n _, rfl, fun _ => .idle, by rintro c x ⟨⟩, by rintro c x ⟨⟩⟩

namespace Alongside

variable {s t s' t' : Pool n δ} {c : Fin n} {x y : Session δ}

lemma mirror (h : Alongside organizationId s t) (hx : (s.connections c).session = some x)
    (hof : x.caller.Of organizationId) : ∃ y, (t.connections c).session = some y ∧ y.caller = x.caller ∧
      y.log = x.log ∧ y.failed = x.failed := by
  have hmirrors := h.sessions c
  rw [hx] at hmirrors
  generalize (t.connections c).session = o at hmirrors
  cases hmirrors with
  | other hother => exact absurd hof hother
  | own _ hcaller hlog hfailed => exact ⟨_, rfl, hcaller, hlog, hfailed⟩

lemma mirrored (h : Alongside organizationId s t) (hy : (t.connections c).session = some y) :
    ∃ x, (s.connections c).session = some x ∧ x.caller.Of organizationId ∧ y.log = x.log := by
  have hmirrors := h.sessions c
  rw [hy] at hmirrors
  generalize (s.connections c).session = o at hmirrors
  cases hmirrors with
  | own hof _ hlog _ => exact ⟨_, rfl, hof, hlog⟩

lemma alone_idle (h : Alongside organizationId s t)
    (hx : ∀ x, (s.connections c).session = some x → ¬ x.caller.Of organizationId) :
    (t.connections c).session = none := by
  cases hy : (t.connections c).session with
  | none => rfl
  | some y =>
    obtain ⟨x, hs, hof, _⟩ := h.mirrored hy
    exact absurd hof (hx x hs)

lemma logs_eq (h : Alongside organizationId s t) : t.logs = s.logsOf organizationId := by
  funext c
  have hmirrors := h.sessions c
  unfold Pool.logs Pool.logsOf
  generalize (s.connections c).session = o at hmirrors
  generalize (t.connections c).session = o' at hmirrors
  cases hmirrors with
  | idle => rfl
  | other hother => rw [Option.filter_some_neg (by simpa using hother), Option.map_none]
  | own hof _ hlog _ => rw [Option.filter_some_pos (by simpa using hof), Option.map_some, Option.map_some, hlog]

lemma pending_rows (h : Alongside organizationId s t) (hx : (s.connections c).session = some x)
    (hof : x.caller.Of organizationId) :
    pending t.rows x.log = restrict (ShownTo organizationId) (pending s.rows x.log) := by
  rw [h.rows]
  exact (restrict_pending (h.own c x hx hof)).symm

lemma seen_eq (h : Alongside organizationId s t) (hx : (s.connections c).session = some x)
    (hof : x.caller.Of organizationId) : seen policy x.caller.context (pending s.rows x.log) =
      seen policy x.caller.context (pending t.rows x.log) := by
  unfold seen
  rw [policy_own hof, policy_own hof, h.pending_rows hx hof, restrict_restrict]

lemma holds_alone (h : Alongside organizationId s t) {k : Key} (hk : (t.connections c).holds k = true) :
    (s.connections c).holds k = true := by
  unfold Connection.holds at *
  obtain ⟨y, hy, hkey⟩ := (Option.any_eq_true _ _).mp hk
  obtain ⟨x, hx, _, hlog⟩ := h.mirrored hy
  rw [hx, Option.any_some, ← hlog]
  exact hkey

lemma not_locked {p : Pool n δ} {k : Key} (h : ¬ p.Written k) (c : Fin n) : p.locked c k = false := by
  refine decide_eq_false ?_
  rintro ⟨c', _, hk⟩
  exact h ⟨c', hk⟩

lemma locked_eq (h : Alongside organizationId s t) (hx : (s.connections c).session = some x)
    (hof : x.caller.Of organizationId) {k : Key}
    (hk : (seen policy x.caller.context (pending s.rows x.log) k).isSome = true) : s.locked c k = t.locked c k := by
  have hother (c' : Fin n) (hc : c' ≠ c) : (s.connections c').holds k = (t.connections c').holds k := by
    rw [Bool.eq_iff_iff]
    refine ⟨fun hs => ?_, h.holds_alone⟩
    obtain ⟨y, hy, hkey⟩ := (Option.any_eq_true _ _).mp hs
    by_cases hyof : y.caller.Of organizationId
    · obtain ⟨z, hz, _, hlog, _⟩ := h.mirror hy hyof
      unfold Connection.holds
      rw [hz, Option.any_some, hlog]
      exact hkey
    · obtain ⟨w, hw, rfl⟩ := List.mem_map.mp (of_decide_eq_true hkey)
      have hapart := h.others c' y hy hyof w hw
      rw [seen, policy_own hof] at hk
      have hnone : restrict (ShownTo organizationId) (pending s.rows x.log) w.1 = none := by
        unfold restrict
        rw [pending_of_notMem (hapart.keys c x hx hof)]
        exact hapart.old
      rw [hnone] at hk
      cases hk
  unfold Pool.locked
  rw [decide_eq_decide]
  exact exists_congr (fun c' => and_congr_right (fun hc => by rw [hother c' hc]))

lemma execute_eq (h : Alongside organizationId s t) (hx : (s.connections c).session = some x)
    (hof : x.caller.Of organizationId) {st : Statement Key (Row δ) α}
    (hfresh : ∀ k ∈ st.inserts (seen policy x.caller.context (pending s.rows x.log)), s.rows k = none ∧ ¬ s.Written k) :
    st.execute policy x.caller.context (pending s.rows x.log) (s.locked c) =
      st.execute policy x.caller.context (pending t.rows x.log) (t.locked c) := by
  refine Statement.execute_congr (h.seen_eq hx hof) (by rw [policy_own hof, policy_own hof])
    (fun k hk => h.locked_eq hx hof hk) (fun k hk => ?_)
  obtain ⟨hnone, hwritten⟩ := hfresh k hk
  have halone : ¬ t.Written k := by
    rintro ⟨c', hc'⟩
    exact hwritten ⟨c', h.holds_alone hc'⟩
  have hkey : k ∉ x.log.map Prod.fst := by
    intro hmem
    refine hwritten ⟨c, ?_⟩
    unfold Connection.holds
    rw [hx, Option.any_some]
    exact decide_eq_true hmem
  refine ⟨not_locked hwritten c, not_locked halone c, ?_, ?_⟩
  · rw [pending_of_notMem hkey, hnone]
  · rw [pending_of_notMem hkey, h.rows, restrict, hnone]
    rfl

lemma put_own (h : Alongside organizationId s t) (hof : x.caller.Of organizationId) (hcaller : y.caller = x.caller)
    (hlog : y.log = x.log) (hfailed : y.failed = x.failed) (hleft : (s.put c x).Settled) (hright : (t.put c y).Settled)
    (hown : ∀ w ∈ x.log, ∀ r, w.2 = some r → ShownTo organizationId w.1 r = true)
    (hkeys : ∀ c' z, c' ≠ c → (s.connections c').session = some z → ¬ z.caller.Of organizationId →
      ∀ w ∈ z.log, w.1 ∉ x.log.map Prod.fst) :
    Alongside organizationId (s.put c x) (t.put c y) := by
  refine ⟨hleft, hright, h.rows, fun c' => ?_, fun c' z hz hzof => ?_, fun c' z hz hzof w hw => ?_⟩
  · rw [Pool.put_connections, Pool.put_connections]
    split
    next => exact .own hof hcaller hlog hfailed
    next => exact h.sessions c'
  · rw [Pool.put_connections] at hz
    split at hz
    next =>
      cases hz
      exact hown
    next => exact h.own c' z hz hzof
  · rw [Pool.put_connections] at hz
    split at hz
    next =>
      cases hz
      exact absurd hof hzof
    next hc =>
      obtain ⟨hold, hnew, hk⟩ := h.others c' z hz hzof w hw
      refine ⟨hold, hnew, fun c'' v hv hvof => ?_⟩
      rw [Pool.put_connections] at hv
      split at hv
      next =>
        cases hv
        exact hkeys c' z hc hz hzof w hw
      next => exact hk c'' v hv hvof

lemma put_other (h : Alongside organizationId s t) (hother : ¬ x.caller.Of organizationId)
    (halone : (t.connections c).session = none) (hleft : (s.put c x).Settled)
    (hlog : ∀ w ∈ x.log, Apart organizationId s w) : Alongside organizationId (s.put c x) t := by
  have hin {c' : Fin n} {z : Session δ} (hz : ((s.put c x).connections c').session = some z)
      (hzof : z.caller.Of organizationId) : (s.connections c').session = some z := by
    rw [Pool.put_connections] at hz
    split at hz
    next =>
      cases hz
      exact absurd hzof hother
    next => exact hz
  refine ⟨hleft, h.settledAlone, h.rows, fun c' => ?_, fun c' z hz hzof => h.own c' z (hin hz hzof) hzof,
    fun c' z hz hzof w hw => ?_⟩
  · rw [Pool.put_connections]
    split
    next heq =>
      rw [heq, halone]
      exact .other hother
    next => exact h.sessions c'
  · have hapart : Apart organizationId s w := by
      rw [Pool.put_connections] at hz
      split at hz
      next =>
        cases hz
        exact hlog w hw
      next => exact h.others c' z hz hzof w hw
    exact ⟨hapart.old, hapart.new, fun c'' v hv hvof => hapart.keys c'' v (hin hv hvof) hvof⟩

lemma close_left {p : Pool n δ} {c' : Fin n} {z : Session δ} (hz : ((p.close c x).connections c').session = some z) :
    (p.connections c').session = some z := by
  rw [Pool.close_connections] at hz
  split at hz
  next => cases hz
  next => exact hz

lemma close_own (h : Alongside organizationId s t) : Alongside organizationId (s.close c x) (t.close c y) := by
  refine ⟨h.settled.close, h.settledAlone.close, h.rows, fun c' => ?_, fun c' z hz => h.own c' z (close_left hz),
    fun c' z hz hzof w hw => ?_⟩
  · rw [Pool.close_connections, Pool.close_connections]
    split
    next => exact .idle
    next => exact h.sessions c'
  · obtain ⟨hold, hnew, hk⟩ := h.others c' z (close_left hz) hzof w hw
    exact ⟨hold, hnew, fun c'' v hv => hk c'' v (close_left hv)⟩

lemma close_other (h : Alongside organizationId s t) (halone : (t.connections c).session = none) :
    Alongside organizationId (s.close c x) t := by
  refine ⟨h.settled.close, h.settledAlone, h.rows, fun c' => ?_, fun c' z hz => h.own c' z (close_left hz),
    fun c' z hz hzof w hw => ?_⟩
  · rw [Pool.close_connections]
    split
    next heq =>
      rw [heq, halone]
      exact .idle
    next => exact h.sessions c'
  · obtain ⟨hold, hnew, hk⟩ := h.others c' z (close_left hz) hzof w hw
    exact ⟨hold, hnew, fun c'' v hv => hk c'' v (close_left hv)⟩

lemma with_rows {rows rows' : Database δ} (h : Alongside organizationId s t)
    (hrows : rows' = restrict (ShownTo organizationId) rows)
    (hold : ∀ c x, (s.connections c).session = some x → ¬ x.caller.Of organizationId →
      ∀ w ∈ x.log, restrict (ShownTo organizationId) rows w.1 = none) :
    Alongside organizationId { s with rows := rows } { t with rows := rows' } :=
  ⟨h.settled, h.settledAlone, hrows, h.sessions, h.own, fun c x hx hother w hw =>
    ⟨hold c x hx hother w hw, (h.others c x hx hother w hw).new, (h.others c x hx hother w hw).keys⟩⟩

lemma commit_own (h : Alongside organizationId s t) (hx : (s.connections c).session = some x)
    (hof : x.caller.Of organizationId) (hlog : y.log = x.log) :
    Alongside organizationId (s.commit c x) (t.commit c y) := by
  refine (h.close_own (c := c) (x := x) (y := y)).with_rows ?_ (fun c' z hz hzof w hw => ?_)
  · rw [hlog]
    exact h.pending_rows hx hof
  · obtain ⟨hold, _, hk⟩ := h.others c' z (close_left hz) hzof w hw
    unfold restrict
    rw [pending_of_notMem (hk c x hx hof)]
    exact hold

lemma commit_other (h : Alongside organizationId s t) (hx : (s.connections c).session = some x)
    (hother : ¬ x.caller.Of organizationId) (halone : (t.connections c).session = none) :
    Alongside organizationId (s.commit c x) t := by
  have hrows : restrict (ShownTo organizationId) (pending s.rows x.log) = restrict (ShownTo organizationId) s.rows :=
    restrict_pending_outside (fun w hw => (h.others c x hx hother w hw).old)
      (fun w hw => (h.others c x hx hother w hw).new)
  refine (h.close_other (x := x) halone).with_rows (h.rows.trans hrows.symm) (fun c' z hz hzof w hw => ?_)
  rw [hrows]
  exact (h.others c' z (close_left hz) hzof w hw).old

lemma notMem_of_unlocked {k : Key} (hlocked : s.locked c k = false) {c' : Fin n} {z : Session δ}
    (hz : (s.connections c').session = some z) (hc : c' ≠ c) : k ∉ z.log.map Prod.fst := by
  intro hmem
  refine of_decide_eq_false hlocked ⟨c', hc, ?_⟩
  unfold Connection.holds
  rw [hz, Option.any_some]
  exact decide_eq_true hmem

lemma other_connection {c' : Fin n} {z : Session δ} (hx : (s.connections c).session = some x)
    (hz : (s.connections c').session = some z) (h : ¬ (x.caller.Of organizationId ↔ z.caller.Of organizationId)) : c' ≠ c := by
  rintro rfl
  obtain rfl := Option.some.inj (hx.symm.trans hz)
  exact h Iff.rfl

lemma fail_own (h : Alongside organizationId s t) (hx : (s.connections c).session = some x)
    (hy : (t.connections c).session = some y) (hof : x.caller.Of organizationId) (hcaller : y.caller = x.caller)
    (hlog : y.log = x.log) : Alongside organizationId (s.fail c x) (t.fail c y) := by
  have hleft := (h.settled c).2 x hx
  have hright := (h.settledAlone c).2 y hy
  exact h.put_own (x := { x with failed := true }) (y := { y with failed := true }) hof hcaller hlog rfl
    (h.settled.put hleft) (h.settledAlone.put hright) (h.own c x hx hof)
    (fun c' z _ hz hzof w hw => (h.others c' z hz hzof w hw).keys c x hx hof)

lemma conclude_own (h : Alongside organizationId s t) (hx : (s.connections c).session = some x)
    (hy : (t.connections c).session = some y) (hof : x.caller.Of organizationId) (hcaller : y.caller = x.caller)
    (hlog : y.log = x.log) (hfailed : y.failed = x.failed) {o : Outcome Key (Row δ) α}
    (hnew : ∀ ws, o = .wrote ws → ∀ w ∈ ws, (∀ r, w.2 = some r → ShownTo organizationId w.1 r = true) ∧ s.locked c w.1 = false)
    (hbounded : ∀ ws, o = .wrote ws → Bounded organizationId constraints s c x.caller ws) :
    (s.conclude constraints c x o).2 = (t.conclude constraints c y o).2 ∧
      Alongside organizationId (s.conclude constraints c x o).1 (t.conclude constraints c y o).1 := by
  have hleft := (h.settled c).2 x hx
  have hright := (h.settledAlone c).2 y hy
  have hfail := h.fail_own hx hy hof hcaller hlog
  cases o with
  | read result => exact ⟨rfl, h⟩
  | wrote ws =>
    have hb := hbounded ws rfl
    unfold Pool.conclude
    dsimp only
    rw [h.rows, h.logs_eq, ← hb.judged hof]
    cases hkeys : constraints s.rows s.logs c ws with
    | stand acts =>
      have hadded : ∀ w ∈ ws ++ acts, (∀ r, w.2 = some r → ShownTo organizationId w.1 r = true) ∧ s.locked c w.1 = false := by
        intro w hw
        rcases List.mem_append.mp hw with hw | hw
        · exact hnew ws rfl w hw
        · exact ⟨hb.within hof acts hkeys w hw, hb.unlocked acts hkeys w hw⟩
      refine ⟨rfl, h.put_own (x := { x with log := x.log ++ (ws ++ acts) }) (y := { y with log := y.log ++ (ws ++ acts) }) hof
        hcaller (congrArg (fun l => l ++ (ws ++ acts)) hlog) hfailed (h.settled.put hleft) (h.settledAlone.put hright)
        (fun w hw => ?_) (fun c' z hc hz hzof w hw hmem => ?_)⟩
      · rcases List.mem_append.mp hw with hw | hw
        · exact h.own c x hx hof w hw
        · exact (hadded w hw).1
      · rw [List.map_append, List.mem_append] at hmem
        rcases hmem with hmem | hmem
        · exact (h.others c' z hz hzof w hw).keys c x hx hof hmem
        · obtain ⟨v, hv, hkey⟩ := List.mem_map.mp hmem
          exact notMem_of_unlocked (hadded v hv).2 hz hc (hkey ▸ List.mem_map_of_mem hw)
    | violated => exact ⟨rfl, hfail⟩
    | waits => exact ⟨rfl, h⟩
  | denied => exact ⟨rfl, hfail⟩
  | duplicate => exact ⟨rfl, hfail⟩
  | violated => exact ⟨rfl, hfail⟩
  | waits => exact ⟨rfl, h⟩

lemma settings_own {caller : Caller} (hof : caller.Of organizationId) (before : Settings) :
    ∃ settings, caller.settings before = some settings := by
  cases caller with
  | tenant text =>
    have hcast : castUuid text = some organizationId := hof
    by_cases hmatches : UUID_RE text = true
    · exact ⟨_, if_pos hmatches⟩
    · rw [castUuid, if_neg hmatches] at hcast
      cases hcast
  | user userId => exact hof.elim
  | invitation tokenHash => exact hof.elim
  | bare => exact hof.elim

lemma opened_own {e : Event n δ α} (h : Alongside organizationId s t) (hof : e.caller.Of organizationId)
    (hs : (s.connections e.connection).session = none) (ht : (t.connections e.connection).session = none) :
    (s.serve constraints e).2 = (t.serve constraints e).2 ∧ Alongside organizationId (s.serve constraints e).1 (t.serve constraints e).1 := by
  unfold Pool.serve
  rw [hs, ht]
  dsimp only
  cases e.action with
  | begin =>
    obtain ⟨left, hleft⟩ := settings_own hof (s.connections e.connection).settings
    obtain ⟨right, hright⟩ := settings_own hof (t.connections e.connection).settings
    rw [hleft, hright]
    exact ⟨rfl, h.put_own hof rfl rfl rfl (h.settled.put hleft) (h.settledAlone.put hright) (by simp) (by simp)⟩
  | setOrganization text => exact ⟨rfl, h⟩
  | statement st => exact ⟨rfl, h⟩
  | commit => exact ⟨rfl, h⟩
  | rollback => exact ⟨rfl, h⟩

lemma execute_own (h : Alongside organizationId s t) (hx : (s.connections c).session = some x)
    (hy : (t.connections c).session = some y) (hof : x.caller.Of organizationId) (hcaller : y.caller = x.caller)
    (hlog : y.log = x.log) (hfailed : y.failed = x.failed) {st : Statement Key (Row δ) α}
    (hfresh : ∀ k ∈ st.inserts (seen policy x.caller.context (pending s.rows x.log)), s.rows k = none ∧ ¬ s.Written k)
    (hbounded : ∀ ws, st.execute policy x.caller.context (pending s.rows x.log) (s.locked c) = .wrote ws →
      Bounded organizationId constraints s c x.caller ws) :
    (s.execute constraints c x st).2 = (t.execute constraints c y st).2 ∧
      Alongside organizationId (s.execute constraints c x st).1 (t.execute constraints c y st).1 := by
  have heq := h.execute_eq hx hof hfresh
  unfold Pool.execute
  rw [h.settled.context hx, h.settledAlone.context hy, hcaller, hlog]
  dsimp only
  rw [← heq]
  have hconclude := h.conclude_own hx hy hof hcaller hlog hfailed (fun ws ho w hw => ?_) hbounded
  · exact ⟨congrArg Answer.outcome hconclude.1, hconclude.2⟩
  · obtain ⟨_, hnew, hlocked⟩ := Statement.execute_wrote ho hw
    rw [policy_own hof] at hnew
    exact ⟨hnew, hlocked⟩

lemma serve_own {e : Event n δ α} (h : Alongside organizationId s t) (hd : Discreet organizationId constraints s e)
    (hof : e.caller.Of organizationId) :
    (s.serve constraints e).2 = (t.serve constraints e).2 ∧ Alongside organizationId (s.serve constraints e).1 (t.serve constraints e).1 := by
  cases hx : (s.connections e.connection).session with
  | none =>
    refine h.opened_own hof hx (h.alone_idle (fun x hs => ?_))
    rw [hx] at hs
    cases hs
  | some x =>
    by_cases hxof : x.caller.Of organizationId
    · obtain ⟨y, hy, hcaller, hlog, hfailed⟩ := h.mirror hx hxof
      unfold Pool.serve
      rw [hx, hy]
      dsimp only
      rw [hcaller, hfailed]
      split
      next heq =>
        cases haction : e.action with
        | begin => exact ⟨rfl, h⟩
        | setOrganization text =>
          have hbare : ¬ (x.caller = .bare ∧ UUID_RE text = true) := by
            rintro ⟨hbare, _⟩
            rw [hbare] at hxof
            exact hxof
          dsimp only
          split
          next => exact ⟨rfl, h⟩
          next => exact ⟨rfl, h⟩
        | statement st =>
          dsimp only
          split
          next => exact ⟨rfl, h⟩
          next =>
            exact h.execute_own hx hy hxof hcaller hlog hfailed (heq ▸ hd.fresh st x haction hx)
              (fun ws ho => heq ▸ hd.bounded st x ws haction hx (heq ▸ ho))
        | commit =>
          dsimp only
          split
          next => exact ⟨rfl, h.close_own⟩
          next => exact ⟨rfl, h.commit_own hx hxof hlog⟩
        | rollback => exact ⟨rfl, h.close_own⟩
      next => exact ⟨rfl, h⟩
    · have hne : x.caller ≠ e.caller := fun heq => hxof (heq ▸ hof)
      have ht : (t.connections e.connection).session = none := by
        refine h.alone_idle (fun z hz => ?_)
        rw [hx] at hz
        cases hz
        exact hxof
      unfold Pool.serve
      rw [hx, ht]
      dsimp only
      rw [if_neg hne]
      cases haction : e.action with
      | begin =>
        have hidle := hd.idle haction
        rw [hx] at hidle
        cases hidle
      | setOrganization text => exact ⟨rfl, h⟩
      | statement st => exact ⟨rfl, h⟩
      | commit => exact ⟨rfl, h⟩
      | rollback => exact ⟨rfl, h⟩

lemma wrote_apart {e : Event n δ α} (h : Alongside organizationId s t) (hd : Discreet organizationId constraints s e)
    (hx : (s.connections e.connection).session = some x) (hcaller : x.caller = e.caller)
    (hother : ¬ e.caller.Of organizationId) {st : Statement Key (Row δ) α} (hst : e.action = .statement st)
    {ws : List (Write Key (Row δ))}
    (ho : st.execute policy e.caller.context (pending s.rows x.log) (s.locked e.connection) = .wrote ws)
    (hanswer : (s.serve constraints e).2 = .outcome (.wrote ws)) : ∀ w ∈ ws, Apart organizationId s w := by
  have hxother : ¬ x.caller.Of organizationId := hcaller ▸ hother
  have htenant : (∃ text, e.caller = .tenant text) ∨ e.caller = .bare := by
    by_contra hno
    obtain ⟨hnot, _⟩ := not_or.mp hno
    obtain ⟨read, rfl⟩ := hd.reads st hst hother (fun text heq => hnot ⟨text, heq⟩)
    cases ho
  intro w hw
  obtain ⟨hold, hnew, hlocked⟩ := Statement.execute_wrote ho hw
  obtain ⟨hsharedOld, hsharedNew⟩ := hd.shared st x ws hst hother hx hanswer w hw
  refine ⟨?_, fun r hr => not_shown hother htenant (hnew r hr) (hsharedNew r hr), fun c' z hz hzof hmem => ?_⟩
  · rcases pending_cases s.rows x.log w.1 with ⟨heq, _⟩ | ⟨v, hv, hkey, _⟩
    · rw [restrict_eq_none]
      intro r hr
      exact not_shown hother htenant (hold r (heq.trans hr)) (hsharedOld r (heq.trans hr))
    · exact hkey ▸ (h.others _ x hx hxother v hv).old
  · exact notMem_of_unlocked hlocked hz (other_connection hx hz (fun hiff => hxother (hiff.mpr hzof))) hmem

lemma next_other {e : Event n δ α} (h : Alongside organizationId s t) (hd : Discreet organizationId constraints s e)
    (hother : ¬ e.caller.Of organizationId) : Alongside organizationId (s.next constraints e) t := by
  have halone {x : Session δ} (hx : (s.connections e.connection).session = some x) (hcaller : x.caller = e.caller) :
      (t.connections e.connection).session = none := by
    refine h.alone_idle (fun z hz => ?_)
    obtain rfl := Option.some.inj (hx.symm.trans hz)
    exact hcaller ▸ hother
  have heffect : Effect constraints s e (s.next constraints e) := s.next_effect e
  have hsettled := h.settled.effect heffect
  generalize hnext : s.next constraints e = s' at heffect hsettled
  cases heffect with
  | nothing => exact h
  | opened hx _ =>
    refine h.put_other hother (h.alone_idle (fun z hz => ?_)) hsettled (by simp)
    rw [hx] at hz
    cases hz
  | @adopted x text hx hcaller haction hbare _ =>
    have hxother : ¬ x.caller.Of organizationId := hcaller ▸ hother
    exact h.put_other (hd.created text haction) (halone hx hcaller) hsettled (h.others _ x hx hxother)
  | @wrote x context st ws acts hx hcaller hfailed hst hcontext ho hkeys =>
    have hxother : ¬ x.caller.Of organizationId := hcaller ▸ hother
    obtain rfl := Option.some.inj ((h.settled.context hx).symm.trans hcontext)
    have hanswer : (s.serve constraints e).2 = .outcome (.wrote ws) := by
      rw [Pool.serve_statement_eq hx hcaller hfailed hst, Pool.execute, hcontext]
      dsimp only
      rw [ho, Pool.conclude, hkeys]
    refine h.put_other hxother (halone hx hcaller) hsettled (fun w hw => ?_)
    rcases List.mem_append.mp hw with hw | hw
    · exact h.others _ x hx hxother w hw
    · rcases List.mem_append.mp hw with hw | hw
      · exact h.wrote_apart hd hx hcaller hother hst (hcaller ▸ ho) hanswer w hw
      · have hbounded := hd.bounded st x ws hst hx (hcaller ▸ ho)
        obtain ⟨hold, hnew⟩ := hbounded.away hother acts hkeys w hw
        exact ⟨hold, hnew, fun c' z hz hzof => notMem_of_unlocked (hbounded.unlocked acts hkeys w hw) hz
          (other_connection hx hz (fun hiff => hxother (hiff.mpr hzof)))⟩
  | @failed x hx hcaller =>
    have hxother : ¬ x.caller.Of organizationId := hcaller ▸ hother
    exact h.put_other (x := { x with failed := true }) hxother (halone hx hcaller) hsettled (h.others _ x hx hxother)
  | ended hx hcaller => exact h.close_other (halone hx hcaller)
  | committed hx hcaller _ => exact h.commit_other hx (hcaller ▸ hother) (halone hx hcaller)

lemma unwinding (constraints : Constraints (Fin n) Key (Row δ)) (α : Type) (organizationId : Uuid) :
    Unwinding (Pool.serve (α := α) constraints) (Discreet organizationId constraints) (fun e => decide (e.caller.Of organizationId))
      (Alongside organizationId) where
  answered h hd hmine := (h.serve_own hd (of_decide_eq_true hmine)).1
  kept h hd hmine := (h.serve_own hd (of_decide_eq_true hmine)).2
  ignored h hd hmine := h.next_other hd (of_decide_eq_false hmine)

end Alongside

/-- An organization's calls are answered as they are without the rows of the others and without their calls. -/
theorem answered_as_if_alone {rows : Database δ} {events : List (Event n δ α)} {p : Pool n δ}
    (hrun : Run (Guarded (Total (Pool.next constraints)) (Discreet organizationId constraints)) (Pool.new n rows) events p) :
    answers (Pool.serve constraints) (fun e => decide (e.caller.Of organizationId)) (Pool.new n rows) events =
      answers (Pool.serve constraints) (fun e => decide (e.caller.Of organizationId)) (Pool.alone organizationId rows)
        (events.filter (fun e => decide (e.caller.Of organizationId))) :=
  (Alongside.unwinding constraints α organizationId).answers_eq (alongside_new n organizationId rows) hrun

namespace PoolSample

def unshared (k : Key) (row : Option (Row ℕ)) : Bool := row.all (fun r => !decide (Shared k r))

def bounded (p : Pool 2 ℕ) (c : Fin 2) (caller : Caller) (ws : List (Write Key (Row ℕ))) : Bool :=
  let own := decide (caller.Of basinId)
  let verdict := userKeys p.rows p.logs c ws
  (!own || verdict = userKeys (restrict (ShownTo basinId) p.rows) (p.logsOf basinId) c ws) &&
    match verdict with
    | .stand acts => acts.all (fun w => !p.locked c w.1 && w.2.all (fun r => ShownTo basinId w.1 r == own) &&
        (own || (restrict (ShownTo basinId) p.rows w.1).isNone))
    | _ => true

def discreet (p : Pool 2 ℕ) (e : Event 2 ℕ ℕ) : Bool :=
  match e.action, (p.connections e.connection).session, e.caller with
  | .begin, session, _ => session.isNone
  | .setOrganization _, _, _ => false
  | .statement s, some x, .tenant text =>
    let rows := pending p.rows x.log
    let context := (Caller.tenant text).context
    x.settings.context = some context && (s.inserts (seen policy context rows)).all (fun k =>
        (p.rows k).isNone && (List.finRange 2).all (fun c => !(p.connections c).holds k)) &&
      match s.execute policy context rows (p.locked e.connection) with
      | .wrote ws => bounded p e.connection e.caller ws &&
          ((Caller.tenant text).Of basinId || ws.all (fun w => unshared w.1 (rows w.1) && unshared w.1 w.2))
      | _ => true
  | .statement _, _, _ => false
  | _, _, _ => true

lemma unshared_spec {k : Key} {row : Option (Row ℕ)} (h : unshared k row = true) (r : Row ℕ) (hr : row = some r) :
    ¬ Shared k r := by
  subst hr
  simpa [unshared] using h

lemma bounded_spec {p : Pool 2 ℕ} {c : Fin 2} {caller : Caller} {ws : List (Write Key (Row ℕ))}
    (h : bounded p c caller ws = true) : Bounded basinId userKeys p c caller ws := by
  obtain ⟨hjudged, hacts⟩ := Bool.and_eq_true_iff.mp h
  have hact (acts : List (Write Key (Row ℕ))) (hstand : userKeys p.rows p.logs c ws = .stand acts) (w : Write Key (Row ℕ))
      (hw : w ∈ acts) : p.locked c w.1 = false ∧ (∀ r, w.2 = some r → ShownTo basinId w.1 r = decide (caller.Of basinId)) ∧
        (caller.Of basinId ∨ restrict (ShownTo basinId) p.rows w.1 = none) := by
    rw [hstand] at hacts
    obtain ⟨hboth, hold⟩ := Bool.and_eq_true_iff.mp (List.all_eq_true.mp hacts w hw)
    obtain ⟨hfree, hnew⟩ := Bool.and_eq_true_iff.mp hboth
    refine ⟨by simpa using hfree, fun r hr => ?_, by simpa using hold⟩
    rw [hr] at hnew
    simpa using hnew
  refine ⟨fun hof => by simpa [hof] using hjudged, fun acts hstand w hw => (hact acts hstand w hw).1, ?_, ?_⟩
  · intro hof acts hstand w hw r hr
    rw [(hact acts hstand w hw).2.1 r hr]
    exact decide_eq_true hof
  · intro hother acts hstand w hw
    obtain ⟨_, hnew, hold⟩ := hact acts hstand w hw
    exact ⟨hold.resolve_left hother, fun r hr => (hnew r hr).trans (decide_eq_false hother)⟩

lemma discreet_of_quiet {p : Pool 2 ℕ} {e : Event 2 ℕ ℕ}
    (hidle : e.action = .begin → (p.connections e.connection).session = none)
    (hcreated : ∀ text, e.action ≠ .setOrganization text) (hstatement : ∀ s, e.action ≠ .statement s) :
    Discreet basinId userKeys p e :=
  ⟨hidle, fun text h => absurd h (hcreated text), fun s _ h => absurd h (hstatement s),
    fun s _ _ h => absurd h (hstatement s), fun s h => absurd h (hstatement s), fun s _ _ h => absurd h (hstatement s)⟩

lemma discreet_statement {p : Pool 2 ℕ} {c : Fin 2} {caller : Caller} {s : Statement Key (Row ℕ) ℕ}
    (h : discreet p ⟨c, caller, .statement s⟩ = true) : ∃ x text, (p.connections c).session = some x ∧ caller = .tenant text ∧
      x.settings.context = some caller.context ∧
      (∀ k ∈ s.inserts (seen policy caller.context (pending p.rows x.log)), p.rows k = none ∧ ¬ p.Written k) ∧
      ∀ ws, s.execute policy caller.context (pending p.rows x.log) (p.locked c) = .wrote ws →
        bounded p c caller ws = true ∧ (caller.Of basinId ∨
          ∀ w ∈ ws, unshared w.1 (pending p.rows x.log w.1) = true ∧ unshared w.1 w.2 = true) := by
  unfold discreet at h
  cases hx : (p.connections c).session with
  | none =>
    rw [hx] at h
    cases h
  | some x =>
    rw [hx] at h
    cases caller with
    | tenant text =>
      obtain ⟨hquiet, hwrote⟩ := Bool.and_eq_true_iff.mp h
      obtain ⟨hcontext, hfresh⟩ := Bool.and_eq_true_iff.mp hquiet
      refine ⟨x, text, rfl, rfl, of_decide_eq_true hcontext, fun k hk => ?_, fun ws ho => ?_⟩
      · obtain ⟨hnone, hfree⟩ := Bool.and_eq_true_iff.mp (List.all_eq_true.mp hfresh k hk)
        refine ⟨Option.isNone_iff_eq_none.mp hnone, ?_⟩
        rintro ⟨c', hc'⟩
        have hother := List.all_eq_true.mp hfree c' (List.mem_finRange c')
        rw [hc'] at hother
        cases hother
      · dsimp only at hwrote
        rw [ho] at hwrote
        obtain ⟨hbounded, hshared⟩ := Bool.and_eq_true_iff.mp hwrote
        refine ⟨hbounded, (Bool.or_eq_true_iff.mp hshared).imp of_decide_eq_true (fun hall w hw => ?_)⟩
        exact Bool.and_eq_true_iff.mp (List.all_eq_true.mp hall w hw)
    | user userId => cases h
    | invitation tokenHash => cases h
    | bare => cases h

lemma discreet_spec {p : Pool 2 ℕ} {e : Event 2 ℕ ℕ} (h : discreet p e = true) : Discreet basinId userKeys p e := by
  obtain ⟨c, caller, action⟩ := e
  cases action with
  | begin => exact discreet_of_quiet (fun _ => Option.isNone_iff_eq_none.mp h) (fun _ => nofun) (fun _ => nofun)
  | setOrganization text => cases h
  | statement s =>
    obtain ⟨x, text, hx, htenant, hcaller, hfresh, hwrote⟩ := discreet_statement h
    refine ⟨nofun, fun _ => nofun, ?_, ?_, ?_, ?_⟩
    · rintro _ y ⟨⟩ hy
      cases hx.symm.trans hy
      exact hfresh
    · rintro _ y ws ⟨⟩ hy ho
      cases hx.symm.trans hy
      exact bounded_spec (hwrote ws ho).1
    · rintro _ ⟨⟩ _ hnot
      exact absurd htenant (hnot text)
    · rintro _ y ws ⟨⟩ hother hy hanswer w hw
      cases hx.symm.trans hy
      obtain ⟨z, context, hz, _, hcontext, ho⟩ := Pool.serve_outcome hanswer
      cases hx.symm.trans hz
      cases hcaller.symm.trans hcontext
      obtain ⟨hwrote', _⟩ := Pool.conclude_wrote ho
      obtain ⟨hold, hnew⟩ := (hwrote ws hwrote').2.resolve_left hother w hw
      exact ⟨unshared_spec hold, unshared_spec hnew⟩
  | commit => exact discreet_of_quiet nofun (fun _ => nofun) (fun _ => nofun)
  | rollback => exact discreet_of_quiet nofun (fun _ => nofun) (fun _ => nofun)

end PoolSample

open PoolSample in
theorem answered_as_if_alone_sample :
    answers (Pool.serve userKeys) (fun e => decide (e.caller.Of basinId)) (Pool.new 2 rows) events =
      answers (Pool.serve userKeys) (fun e => decide (e.caller.Of basinId)) (Pool.alone basinId rows)
        (events.filter (fun e => decide (e.caller.Of basinId))) := by
  have hrun : Run (Guarded (Total (Pool.next userKeys)) (fun p e => discreet p e = true)) (Pool.new 2 rows) events
      (events.foldl (Pool.next userKeys) (Pool.new 2 rows)) := run_total_checked (by decide +kernel)
  exact answered_as_if_alone (hrun.mono (fun p e q h => ⟨h.1, discreet_spec h.2⟩))

end Truckmaster.Tenancy
