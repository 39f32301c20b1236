import Truckmaster.Imports.ImportBatches
import Truckmaster.Library.Runs

namespace Truckmaster.Imports

open Common Runs Tables

variable {s t : ImportState} {job job' : ImportJob} {phase phase' : JobPhase} {answer : Answer} {now : Instant}
  {row : ImportBatchRow} {rest : List ImportBatchRow} {e : ImportEvent}

namespace JobPhase

def pending : JobPhase → List Uuid
  | .resolveParent row rest => row.id :: rest.map ImportBatchRow.id
  | .commitEntity row _ rest => row.id :: rest.map ImportBatchRow.id
  | .markRow _ (.imported _) rest => rest.map ImportBatchRow.id
  | .markRow rowId _ rest => rowId :: rest.map ImportBatchRow.id
  | _ => []

def inFlight : JobPhase → Option Uuid
  | .markRow rowId (.imported _) _ => some rowId
  | _ => none

def listed : JobPhase → Bool
  | .resolveParent _ _ => true
  | .commitEntity _ _ _ => true
  | .markRow _ _ _ => true
  | .finalizeBatch => true
  | .processed => true
  | _ => false

def idle (phase : JobPhase) : Prop := phase.pending = [] ∧ phase.inFlight = none

end JobPhase

namespace ImportState

def createdBy (s : ImportState) (rowId : Uuid) : List ImportedEntity := s.entities.filter (fun e => e.rowId == rowId)

structure Counted (s : ImportState) : Prop where
  sum : s.count .imported + s.count .failed + s.count .skipped + s.count .invalid = s.batch.totalRows
  imported : s.batch.importedRowCount = some (s.count .imported)
  failed : s.batch.failedRowCount = some (s.count .failed)
  skipped : s.batch.skippedRowCount = some (s.count .skipped)
  invalid : s.batch.invalidRowCount = s.count .invalid

/-- A row has at most one entity, is IMPORTED exactly if it has one unless an attempt is just between the two
transactions, and a COMPLETE batch has counted its rows. -/
structure ExactlyOnce (s : ImportState) : Prop where
  once : ∀ rowId, (s.createdBy rowId).length ≤ 1
  imported : ∀ row ∈ s.rows.rows, (∀ job ∈ s.jobs, job.phase.inFlight ≠ some row.id) →
    (row.status = .imported ↔ s.createdBy row.id ≠ [])
  counted : s.batch.status = .complete → s.Counted

structure Validated (s : ImportState) : Prop where
  status : s.batch.status = .validated
  rows : ∀ row ∈ s.rows.rows, row.status = .valid ∨ row.status = .invalid
  total : s.rows.rows.length = s.batch.totalRows
  invalid : s.count .invalid = s.batch.invalidRowCount
  entities : s.entities = []
  enqueuing : s.enqueuing = 0
  jobs : s.jobs = []

/-- No attempt dies, and no database call fails, between the creation of an entity and the mark of its row; and no
skipped row is made VALID again. -/
def Careful (s : ImportState) : ImportEvent → Prop
  | .updateRow n => ∀ u ∈ s.updating[n]?, u.acknowledgeDuplicate = true →
    ∀ row ∈ s.rows.rows, row.id = u.rowId → row.status ≠ .skipped
  | .advance n .error _ => ∀ job ∈ s.jobs[n]?, job.phase.inFlight = none
  | .die n => ∀ job ∈ s.jobs[n]?, job.phase.inFlight = none
  | _ => True

structure Progress (s : ImportState) (phase : JobPhase) : Prop where
  pending : phase.pending.Nodup
  fresh : ∀ id ∈ phase.pending, ∃ row ∈ s.rows.rows, row.id = id ∧ row.status = .valid
  flying : ∀ id ∈ phase.inFlight, id ∉ phase.pending ∧ (∃ row ∈ s.rows.rows, row.id = id ∧ row.status = .valid) ∧
    (s.createdBy id).length = 1
  imported : ∀ row ∈ s.rows.rows, phase.inFlight ≠ some row.id → (row.status = .imported ↔ s.createdBy row.id ≠ [])
  once : ∀ rowId, (s.createdBy rowId).length ≤ 1
  covered : phase.listed = true → ∀ row ∈ s.rows.rows, row.status = .valid →
    row.id ∈ phase.pending ∨ phase.inFlight = some row.id
  total : s.rows.rows.length = s.batch.totalRows
  invalid : s.count .invalid = s.batch.invalidRowCount

lemma nextRow_spec (entityType : ImportEntityType) (rows : List ImportBatchRow) :
    (nextRow entityType rows).pending = rows.map ImportBatchRow.id ∧ (nextRow entityType rows).inFlight = none ∧
      (nextRow entityType rows).listed = true := by
  cases rows with
  | nil => exact ⟨rfl, rfl, rfl⟩
  | cons row rest =>
    simp only [nextRow]
    split_ifs <;> exact ⟨rfl, rfl, rfl⟩

lemma Progress.restart (h : s.Progress phase) (hflight : phase.inFlight = none) (hidle : phase'.idle)
    (hlisted : phase'.listed = false) : s.Progress phase' where
  pending := hidle.1 ▸ List.nodup_nil
  fresh _ hid := absurd (hidle.1 ▸ hid) List.not_mem_nil
  flying _ hid := absurd (hidle.2.symm.trans hid) nofun
  imported row hrow _ := h.imported row hrow (hflight ▸ nofun)
  once := h.once
  covered hl := absurd (hlisted.symm.trans hl) nofun
  total := h.total
  invalid := h.invalid

lemma Progress.same (h : s.Progress phase) (hpending : phase'.pending = phase.pending)
    (hflight : phase'.inFlight = phase.inFlight) (hlisted : phase'.listed = phase.listed) : s.Progress phase' where
  pending := hpending ▸ h.pending
  fresh := hpending ▸ h.fresh
  flying := hflight ▸ hpending ▸ h.flying
  imported := hflight ▸ h.imported
  once := h.once
  covered := hflight ▸ hpending ▸ hlisted ▸ h.covered
  total := h.total
  invalid := h.invalid

lemma attemptFailed_idle (job : ImportJob) : job.attemptFailed.phase.idle ∧ job.attemptFailed.phase.listed = false := by
  unfold ImportJob.attemptFailed
  split <;> exact ⟨⟨rfl, rfl⟩, rfl⟩

lemma Progress.list (h : s.Progress .findRows) :
    s.Progress (nextRow s.batch.entityType s.eligibleRows) := by
  have hperm := List.perm_insertionSort ImportBatchRow.byRowNumber
    (s.rows.rows.filter (fun row => row.status == .valid))
  have hmem (row : ImportBatchRow) : row ∈ s.eligibleRows ↔ row ∈ s.rows.rows ∧ row.status = .valid := by
    rw [eligibleRows, hperm.mem_iff, List.mem_filter, beq_iff_eq]
  obtain ⟨hpending, hflight, hlisted⟩ := nextRow_spec s.batch.entityType s.eligibleRows
  constructor
  · rw [hpending]
    exact (hperm.map _).nodup_iff.mpr (s.rows.nodup.sublist (List.filter_sublist.map _))
  · rw [hpending]
    intro id hid
    obtain ⟨row, hrow, rfl⟩ := List.mem_map.mp hid
    exact ⟨row, ((hmem row).mp hrow).1, rfl, ((hmem row).mp hrow).2⟩
  · rw [hflight]
    nofun
  · exact fun row hrow _ => h.imported row hrow nofun
  · exact h.once
  · intro _ row hrow hvalid
    rw [hpending]
    exact Or.inl (List.mem_map_of_mem ((hmem row).mpr ⟨hrow, hvalid⟩))
  · exact h.total
  · exact h.invalid

lemma createdBy_create (row : ImportBatchRow) (parentId : Option Uuid) (entityId id : Uuid) :
    (s.create row parentId entityId).createdBy id = s.createdBy id ++
      if row.id = id then [⟨entityId, row.id, row.mappedData, parentId, s.batch.createdByUserId⟩] else [] := by
  rw [createdBy, create, List.filter_append]
  refine congrArg _ ?_
  by_cases hid : row.id = id <;> simp [hid]

lemma Progress.not_created (h : s.Progress phase) {id : Uuid} (hid : id ∈ phase.pending) : s.createdBy id = [] := by
  obtain ⟨row, hrow, rfl, hvalid⟩ := h.fresh id hid
  by_contra hcreated
  have hother : phase.inFlight ≠ some row.id := fun hflight => (h.flying row.id hflight).1 hid
  have himported := (h.imported row hrow hother).mpr hcreated
  exact absurd (hvalid.symm.trans himported) nofun

lemma Progress.create {parentId : Option Uuid} (h : s.Progress (.commitEntity row parentId rest)) (entityId : Uuid) :
    (s.create row parentId entityId).Progress (.markRow row.id (.imported entityId) rest) := by
  have hnone : s.createdBy row.id = [] := h.not_created List.mem_cons_self
  obtain ⟨hnot, hnodup⟩ := List.nodup_cons.mp h.pending
  have hothers (id : Uuid) (hid : row.id ≠ id) : (s.create row parentId entityId).createdBy id = s.createdBy id := by
    rw [createdBy_create, if_neg hid, List.append_nil]
  have hone : ((s.create row parentId entityId).createdBy row.id).length = 1 := by
    rw [createdBy_create, if_pos rfl, hnone]
    rfl
  constructor
  · exact hnodup
  · exact fun id hid => h.fresh id (List.mem_cons_of_mem _ hid)
  · intro id hid
    obtain rfl := Option.some.inj hid
    exact ⟨hnot, h.fresh row.id List.mem_cons_self, hone⟩
  · intro other hother hflight
    rw [hothers other.id (fun hid => hflight (congrArg some hid))]
    exact h.imported other hother nofun
  · intro id
    by_cases hid : row.id = id
    · subst hid
      exact hone.le
    · rw [hothers id hid]
      exact h.once id
  · intro _ other hother hvalid
    rcases h.covered rfl other hother hvalid with hmem | hflight
    · rcases List.mem_cons.mp hmem with hid | hrest
      · exact Or.inr (congrArg some hid.symm)
      · exact Or.inl hrest
    · cases hflight
  · exact h.total
  · exact h.invalid

lemma marked_status (result : RowResult) (now : Instant) (row : ImportBatchRow) :
    (row.marked result now).status =
      match result with
      | .imported _ => .imported
      | .failed _ => .failed
      | .skipped _ => .skipped := by
  cases result <;> rfl

structure Marking (s : ImportState) (rowId : Uuid) (result : RowResult) (now : Instant) (rest : List ImportBatchRow) :
    Prop where
  row : ∃ row ∈ s.rows.rows, row.id = rowId ∧ row.status = .valid
  notNext : rowId ∉ rest.map ImportBatchRow.id
  nodup : (rest.map ImportBatchRow.id).Nodup
  next : ∀ id ∈ rest.map ImportBatchRow.id, ∃ row ∈ s.rows.rows, row.id = id ∧ row.status = .valid
  created : ∀ row : ImportBatchRow, (row.marked result now).status = .imported ↔ s.createdBy rowId ≠ []
  others : ∀ row ∈ s.rows.rows, row.id ≠ rowId → (row.status = .imported ↔ s.createdBy row.id ≠ [])
  covered : ∀ row ∈ s.rows.rows, row.status = .valid → row.id = rowId ∨ row.id ∈ rest.map ImportBatchRow.id

lemma Progress.marking {rowId : Uuid} {result : RowResult} (h : s.Progress (.markRow rowId result rest))
    (now : Instant) : s.Marking rowId result now rest := by
  by_cases hresult : ∃ entityId, result = .imported entityId
  · obtain ⟨entityId, rfl⟩ := hresult
    obtain ⟨hnot, hrow, hone⟩ := h.flying rowId rfl
    refine ⟨hrow, hnot, h.pending, h.fresh, fun row => ?_, fun row hrow hid => ?_, fun row hrow hvalid => ?_⟩
    · refine ⟨fun _ hnone => ?_, fun _ => rfl⟩
      rw [hnone] at hone
      cases hone
    · exact h.imported row hrow (fun hflight => hid (Option.some.inj hflight).symm)
    · rcases h.covered rfl row hrow hvalid with hrest | hflight
      · exact Or.inr hrest
      · exact Or.inl (Option.some.inj hflight).symm
  · have hpending : (JobPhase.markRow rowId result rest).pending = rowId :: rest.map ImportBatchRow.id := by
      cases result with
      | imported entityId => exact absurd ⟨entityId, rfl⟩ hresult
      | _ => rfl
    have hflight : (JobPhase.markRow rowId result rest).inFlight = none := by
      cases result with
      | imported entityId => exact absurd ⟨entityId, rfl⟩ hresult
      | _ => rfl
    obtain ⟨hnot, hnodup⟩ := List.nodup_cons.mp (hpending ▸ h.pending)
    have hmem (id : Uuid) (hid : id ∈ rowId :: rest.map ImportBatchRow.id) := h.fresh id (hpending ▸ hid)
    have hnone : s.createdBy rowId = [] := h.not_created (hpending ▸ List.mem_cons_self)
    refine ⟨hmem rowId List.mem_cons_self, hnot, hnodup, fun id hid => hmem id (List.mem_cons_of_mem _ hid),
      fun row => ?_, fun row hrow _ => h.imported row hrow (hflight ▸ nofun), fun row hrow hvalid => ?_⟩
    · refine ⟨fun himported => ?_, fun hne => absurd hnone hne⟩
      rw [marked_status] at himported
      cases result with
      | imported entityId => exact absurd ⟨entityId, rfl⟩ hresult
      | _ => cases himported
    · rcases h.covered rfl row hrow hvalid with hrest | hother
      · exact List.mem_cons.mp (hpending ▸ hrest)
      · exact absurd (hflight.symm.trans hother) nofun

lemma Marking.count_invalid {rowId : Uuid} {result : RowResult} (h : s.Marking rowId result now rest) :
    (s.mark rowId result now).count .invalid = s.count .invalid := by
  obtain ⟨row, hrow, rfl, hvalid⟩ := h.row
  have hcount := s.rows.countP_update hrow (.marked result now) (ImportBatchRow.marked_id result now)
    (fun row => row.status == .invalid)
  have hbefore : (row.status == .invalid) = false := by rw [hvalid]; rfl
  have hafter : ((row.marked result now).status == .invalid) = false := by
    rw [marked_status]
    cases result <;> rfl
  rw [hbefore, hafter] at hcount
  exact hcount

lemma Progress.mark {rowId : Uuid} {result : RowResult} (h : s.Progress (.markRow rowId result rest)) (now : Instant) :
    (s.mark rowId result now).Progress (nextRow s.batch.entityType rest) := by
  have hm := h.marking now
  obtain ⟨hpending, hflight, _⟩ := nextRow_spec s.batch.entityType rest
  have hmem (row : ImportBatchRow) : row ∈ (s.mark rowId result now).rows.rows ↔
      (∃ old ∈ s.rows.rows, old.id = rowId ∧ old.marked result now = row) ∨ row ∈ s.rows.rows ∧ row.id ≠ rowId :=
    s.rows.mem_update rowId (.marked result now) (ImportBatchRow.marked_id result now)
  constructor
  · exact hpending ▸ hm.nodup
  · rw [hpending]
    intro id hid
    obtain ⟨row, hrow, rfl, hvalid⟩ := hm.next id hid
    exact ⟨row, (hmem row).mpr (Or.inr ⟨hrow, fun heq => hm.notNext (heq ▸ hid)⟩), rfl, hvalid⟩
  · rw [hflight]
    nofun
  · intro row hrow _
    rcases (hmem row).mp hrow with ⟨old, _, rfl, rfl⟩ | ⟨hold, hne⟩
    · rw [ImportBatchRow.marked_id]
      exact hm.created old
    · exact hm.others row hold hne
  · exact h.once
  · intro _ row hrow hvalid
    rw [hpending]
    rcases (hmem row).mp hrow with ⟨old, _, rfl, rfl⟩ | ⟨hold, hne⟩
    · rw [marked_status] at hvalid
      cases result <;> cases hvalid
    · exact Or.inl ((hm.covered row hold hvalid).resolve_left hne)
  · have hlength : (s.mark rowId result now).rows.rows.length = s.rows.rows.length := by
      rw [ImportState.mark, Table.update_rows, List.length_map]
    exact hlength.trans h.total
  · exact hm.count_invalid.trans h.invalid

structure Keeps (s t : ImportState) : Prop where
  rows : t.rows.rows.map (fun row => (row.id, row.status)) = s.rows.rows.map (fun row => (row.id, row.status))
  entities : t.entities = s.entities
  totalRows : t.batch.totalRows = s.batch.totalRows
  invalidRowCount : t.batch.invalidRowCount = s.batch.invalidRowCount

lemma Keeps.symm (h : s.Keeps t) : t.Keeps s :=
  ⟨h.rows.symm, h.entities.symm, h.totalRows.symm, h.invalidRowCount.symm⟩

lemma Keeps.mem (h : s.Keeps t) (hrow : row ∈ t.rows.rows) :
    ∃ old ∈ s.rows.rows, old.id = row.id ∧ old.status = row.status := by
  have hmem := List.mem_map_of_mem (f := fun row => (row.id, row.status)) hrow
  rw [h.rows] at hmem
  obtain ⟨old, hold, heq⟩ := List.mem_map.mp hmem
  exact ⟨old, hold, congrArg Prod.fst heq, congrArg Prod.snd heq⟩

lemma Keeps.count (h : s.Keeps t) (status : ImportRowStatus) : t.count status = s.count status := by
  have hcount (s : ImportState) : s.count status =
      (s.rows.rows.map (fun row => (row.id, row.status))).countP (fun p => p.2 == status) := by
    rw [List.countP_map]
    rfl
  rw [hcount, hcount, h.rows]

lemma Keeps.createdBy (h : s.Keeps t) (rowId : Uuid) : t.createdBy rowId = s.createdBy rowId :=
  congrArg (List.filter (fun e : ImportedEntity => e.rowId == rowId)) h.entities

lemma Keeps.refl_of (hrows : t.rows = s.rows) (hentities : t.entities = s.entities)
    (htotal : t.batch.totalRows = s.batch.totalRows) (hinvalid : t.batch.invalidRowCount = s.batch.invalidRowCount) :
    s.Keeps t := ⟨hrows ▸ rfl, hentities, htotal, hinvalid⟩

lemma Progress.of_keeps (h : s.Progress phase) (hkeeps : s.Keeps t) : t.Progress phase := by
  have hvalid (id : Uuid) (hid : ∃ row ∈ s.rows.rows, row.id = id ∧ row.status = .valid) :
      ∃ row ∈ t.rows.rows, row.id = id ∧ row.status = .valid := by
    obtain ⟨row, hrow, rfl, hstatus⟩ := hid
    obtain ⟨new, hnew, hid, hsame⟩ := hkeeps.symm.mem hrow
    exact ⟨new, hnew, hid, hsame.trans hstatus⟩
  constructor
  · exact h.pending
  · exact fun id hid => hvalid id (h.fresh id hid)
  · intro id hid
    obtain ⟨hnot, hrow, hone⟩ := h.flying id hid
    exact ⟨hnot, hvalid id hrow, hkeeps.createdBy id ▸ hone⟩
  · intro row hrow hflight
    obtain ⟨old, hold, hid, hstatus⟩ := hkeeps.mem hrow
    rw [hkeeps.createdBy, ← hid, ← hstatus]
    exact h.imported old hold (hid ▸ hflight)
  · exact fun rowId => hkeeps.createdBy rowId ▸ h.once rowId
  · intro hlisted row hrow hstatus
    obtain ⟨old, hold, hid, hsame⟩ := hkeeps.mem hrow
    exact hid ▸ h.covered hlisted old hold (hsame.trans hstatus)
  · have hlength := congrArg List.length hkeeps.rows
    rw [List.length_map, List.length_map] at hlength
    exact hlength.trans (h.total.trans hkeeps.totalRows.symm)
  · exact (hkeeps.count .invalid).trans (h.invalid.trans hkeeps.invalidRowCount.symm)

lemma Progress.failed (h : s.Progress job.phase) (hflight : job.phase.inFlight = none)
    (hanswered : s.answered job now .error = some (t, job')) : t.Progress job'.phase := by
  have hrestart : s.Progress job.attemptFailed.phase :=
    h.restart hflight (attemptFailed_idle job).1 (attemptFailed_idle job).2
  cases hphase : job.phase with
  | commitEntity row parentId rest =>
    simp only [answered, hphase, Option.some.injEq, Prod.mk.injEq] at hanswered
    obtain ⟨rfl, rfl⟩ := hanswered
    exact (hphase ▸ h).same rfl rfl rfl
  | markRow rowId result rest =>
    cases result with
    | imported entityId =>
      rw [hphase] at hflight
      cases hflight
    | _ =>
      simp only [answered, hphase, Option.some.injEq, Prod.mk.injEq] at hanswered
      obtain ⟨rfl, rfl⟩ := hanswered
      exact hrestart
  | markBatchFailed =>
    simp only [answered, hphase, Option.some.injEq, Prod.mk.injEq] at hanswered
    obtain ⟨rfl, rfl⟩ := hanswered
    exact h.restart hflight ⟨rfl, rfl⟩ rfl
  | waiting => simp [answered, hphase] at hanswered
  | processed => simp [answered, hphase] at hanswered
  | completed => simp [answered, hphase] at hanswered
  | failed => simp [answered, hphase] at hanswered
  | _ =>
    simp only [answered, hphase, Option.some.injEq, Prod.mk.injEq] at hanswered
    obtain ⟨rfl, rfl⟩ := hanswered
    exact hrestart

lemma Progress.done (h : s.Progress job.phase) (hanswered : s.answered job now .done = some (t, job')) :
    t.Progress job'.phase := by
  cases hphase : job.phase with
  | findBatch =>
    simp only [answered, hphase, Option.some.injEq, Prod.mk.injEq] at hanswered
    obtain ⟨rfl, rfl⟩ := hanswered
    exact (hphase ▸ h).restart rfl ⟨rfl, rfl⟩ rfl
  | findRows =>
    simp only [answered, hphase, Option.some.injEq, Prod.mk.injEq] at hanswered
    obtain ⟨rfl, rfl⟩ := hanswered
    exact (hphase ▸ h).list
  | markRow rowId result rest =>
    simp only [answered, hphase, Option.some.injEq, Prod.mk.injEq] at hanswered
    obtain ⟨rfl, rfl⟩ := hanswered
    exact (hphase ▸ h).mark now
  | finalizeBatch =>
    simp only [answered, hphase, Option.some.injEq, Prod.mk.injEq] at hanswered
    obtain ⟨rfl, rfl⟩ := hanswered
    have hprocessed : s.Progress .processed := (hphase ▸ h).same rfl rfl rfl
    exact hprocessed.of_keeps (.refl_of rfl rfl rfl rfl)
  | processed =>
    simp only [answered, hphase, Option.some.injEq, Prod.mk.injEq] at hanswered
    obtain ⟨rfl, rfl⟩ := hanswered
    exact (hphase ▸ h).restart rfl ⟨rfl, rfl⟩ rfl
  | markBatchFailed =>
    simp only [answered, hphase, Option.some.injEq, Prod.mk.injEq] at hanswered
    obtain ⟨rfl, rfl⟩ := hanswered
    have hcompleted : s.Progress .completed := (hphase ▸ h).restart rfl ⟨rfl, rfl⟩ rfl
    exact hcompleted.of_keeps (.refl_of rfl rfl rfl rfl)
  | _ => simp [answered, hphase] at hanswered

lemma Progress.result (h : s.Progress job.phase) (hanswered : s.answered job now answer = some (t, job'))
    (hdone : answer ≠ .done) (herror : answer ≠ .error) : t.Progress job'.phase := by
  cases hphase : job.phase with
  | resolveParent row rest =>
    cases answer with
    | parent result =>
      cases result with
      | _ =>
        simp only [answered, hphase, Option.some.injEq, Prod.mk.injEq] at hanswered
        obtain ⟨rfl, rfl⟩ := hanswered
        exact (hphase ▸ h).same rfl rfl rfl
    | done => exact absurd rfl hdone
    | error => exact absurd rfl herror
    | _ => simp [answered, hphase] at hanswered
  | commitEntity row parentId rest =>
    cases answer with
    | created entityId =>
      simp only [answered, hphase, Option.some.injEq, Prod.mk.injEq] at hanswered
      obtain ⟨rfl, rfl⟩ := hanswered
      exact (hphase ▸ h).create entityId
    | refused message =>
      simp only [answered, hphase, Option.some.injEq, Prod.mk.injEq] at hanswered
      obtain ⟨rfl, rfl⟩ := hanswered
      exact (hphase ▸ h).same rfl rfl rfl
    | done => exact absurd rfl hdone
    | error => exact absurd rfl herror
    | _ => simp [answered, hphase] at hanswered
  | _ =>
    cases answer with
    | done => exact absurd rfl hdone
    | error => exact absurd rfl herror
    | _ => simp [answered, hphase] at hanswered

lemma Progress.answered (h : s.Progress job.phase) (hcareful : answer = .error → job.phase.inFlight = none)
    (hanswered : s.answered job now answer = some (t, job')) : t.Progress job'.phase := by
  by_cases herror : answer = .error
  · subst herror
    exact h.failed (hcareful rfl) hanswered
  · by_cases hdone : answer = .done
    · subst hdone
      exact h.done hanswered
    · exact h.result hanswered hdone herror

lemma answered_frame (h : s.answered job now answer = some (t, job')) :
    t.jobs = s.jobs ∧ t.enqueuing = s.enqueuing ∧
      (t.batch = s.batch ∨ t.batch.status = .failed ∨ t = s.finalized now ∧ job'.phase = .processed) := by
  simp only [ImportState.answered] at h
  split at h
  all_goals cases h
  any_goals exact ⟨rfl, rfl, Or.inl rfl⟩
  · exact ⟨rfl, rfl, Or.inr (Or.inr ⟨rfl, rfl⟩)⟩
  · exact ⟨rfl, rfl, Or.inr (Or.inl rfl)⟩

lemma sum_count (rows : List ImportBatchRow) :
    rows.countP (fun row => row.status == .imported) + rows.countP (fun row => row.status == .failed) +
      rows.countP (fun row => row.status == .skipped) + rows.countP (fun row => row.status == .invalid) +
      rows.countP (fun row => row.status == .valid) = rows.length := by
  induction rows with
  | nil => rfl
  | cons row rows ih =>
    simp only [List.countP_cons, List.length_cons]
    cases row.status <;> simp <;> omega

structure Settled (s : ImportState) : Prop where
  progress : s.Progress .processed
  idle : ∀ job ∈ s.jobs, job.phase.idle
  counters : s.batch.status = .complete → s.batch.importedRowCount = some (s.count .imported) ∧
    s.batch.failedRowCount = some (s.count .failed) ∧ s.batch.skippedRowCount = some (s.count .skipped)

lemma Progress.sum (h : s.Progress .processed) :
    s.count .imported + s.count .failed + s.count .skipped + s.count .invalid = s.batch.totalRows := by
  have hnone : s.count .valid = 0 := by
    rw [count, List.countP_eq_zero]
    intro row hrow hvalid
    rcases h.covered rfl row hrow (beq_iff_eq.mp hvalid) with hmem | hflight
    · cases hmem
    · cases hflight
  have hsum := sum_count s.rows.rows
  rw [h.total] at hsum
  exact (Nat.add_zero _).symm.trans (hnone ▸ hsum)

structure Single (s : ImportState) : Prop where
  status : s.batch.status ≠ .complete
  job : s.jobs = [] ∧ s.enqueuing ≤ 1 ∧ (s.batch.status = .validated → s.enqueuing = 0) ∧ s.Progress .waiting ∨
    ∃ job, s.jobs = [job] ∧ s.enqueuing = 0 ∧ s.batch.status ≠ .validated ∧ s.Progress job.phase

lemma Validated.single (h : s.Validated) : s.Single where
  status hcomplete := absurd (h.status.symm.trans hcomplete) nofun
  job := by
    have hnone (id : Uuid) : s.createdBy id = [] := by rw [createdBy, h.entities, List.filter_nil]
    refine Or.inl ⟨h.jobs, h.enqueuing ▸ Nat.zero_le 1, fun _ => h.enqueuing, ?_⟩
    refine ⟨List.nodup_nil, nofun, nofun, fun row hrow _ => ?_, fun id => ?_, nofun, h.total, h.invalid⟩
    · rw [hnone]
      refine ⟨fun himported => ?_, fun hne => absurd rfl hne⟩
      rcases h.rows row hrow with hstatus | hstatus <;> cases hstatus.symm.trans himported
    · rw [hnone]
      exact Nat.zero_le 1

lemma acknowledged_status (u : RowUpdate) (h : u.acknowledgeDuplicate = true → row.status ≠ .skipped) :
    (row.acknowledged u).status = row.status := by
  unfold ImportBatchRow.acknowledged
  split
  next hreset => exact absurd hreset.1 (h hreset.2)
  · rfl

lemma keeps_updateRow {n : ℕ} (hcareful : s.Careful (.updateRow n)) (h : s.step (.updateRow n) = some t) :
    s.Keeps t ∧ t.jobs = s.jobs ∧ t.enqueuing = s.enqueuing ∧ t.batch = s.batch := by
  obtain ⟨u, hu, h⟩ := Option.bind_eq_some_iff.mp h
  obtain rfl := Option.some.inj h
  refine ⟨⟨?_, rfl, rfl, rfl⟩, rfl, rfl, rfl⟩
  rw [Table.update_rows, List.map_map]
  refine List.map_congr_left (fun row hrow => ?_)
  rw [Function.comp_apply]
  split_ifs with hid
  · rw [ImportBatchRow.acknowledged_id, acknowledged_status u (fun hack => hcareful u hu hack row hrow hid)]
  · rfl

lemma Settled.of_keeps (h : s.Settled) (hkeeps : s.Keeps t) (hidle : ∀ job ∈ t.jobs, job.phase.idle)
    (hbatch : t.batch.status = .complete → t.batch = s.batch) : t.Settled where
  progress := h.progress.of_keeps hkeeps
  idle := hidle
  counters hcomplete := by
    rw [hkeeps.count, hkeeps.count, hkeeps.count, hbatch hcomplete]
    exact h.counters (hbatch hcomplete ▸ hcomplete)

lemma answered_idle (hidle : job.phase.idle) (h : s.answered job now answer = some (t, job')) :
    s.Keeps t ∧ job'.phase.inFlight = none := by
  cases hphase : job.phase with
  | resolveParent row rest => exact absurd (hphase ▸ hidle.1) nofun
  | commitEntity row parentId rest => exact absurd (hphase ▸ hidle.1) nofun
  | markRow rowId result rest =>
    rw [hphase] at hidle
    cases result with
    | imported entityId => exact absurd hidle.2 nofun
    | failed message => exact absurd hidle.1 nofun
    | skipped message => exact absurd hidle.1 nofun
  | _ =>
    simp only [ImportState.answered, hphase] at h
    cases answer
    all_goals cases h
    all_goals refine ⟨.refl_of rfl rfl rfl rfl, ?_⟩
    all_goals first | exact (attemptFailed_idle job).1.2 | exact (nextRow_spec _ _).2.1 | rfl

lemma Settled.no_valid (h : s.Settled) (hrow : row ∈ s.rows.rows) : row.status ≠ .valid := by
  intro hvalid
  rcases h.progress.covered rfl row hrow hvalid with hmem | hflight
  · cases hmem
  · cases hflight

lemma Settled.answered (h : s.Settled) (hidle : job.phase.idle)
    (hanswered : s.answered job now answer = some (t, job')) :
    s.Keeps t ∧ job'.phase.idle ∧ (t.batch.status = .complete → t.batch = s.batch ∨ t = s.finalized now) := by
  obtain ⟨hkeeps, hflight⟩ := answered_idle hidle hanswered
  have hbefore : s.Progress job.phase := by
    refine ⟨hidle.1 ▸ List.nodup_nil, hidle.1 ▸ nofun, hidle.2 ▸ nofun, fun row hrow _ => ?_, h.progress.once,
      fun _ row hrow hvalid => absurd hvalid (h.no_valid hrow), h.progress.total, h.progress.invalid⟩
    exact h.progress.imported row hrow nofun
  have hafter := hbefore.answered (fun _ => hidle.2) hanswered
  refine ⟨hkeeps, ⟨?_, hflight⟩, fun hcomplete => ?_⟩
  · refine List.eq_nil_iff_forall_not_mem.mpr (fun id hid => ?_)
    obtain ⟨row, hrow, _, hvalid⟩ := hafter.fresh id hid
    obtain ⟨old, hold, _, hsame⟩ := hkeeps.mem hrow
    exact h.no_valid hold (hsame.trans hvalid)
  · rcases (answered_frame hanswered).2.2 with hbatch | hfailed | ⟨hfinalized, _⟩
    · exact Or.inl hbatch
    · cases hcomplete.symm.trans hfailed
    · exact Or.inr hfinalized

lemma Settled.setJob (h : s.Settled) (n : ℕ) (hidle : job.phase.idle) : (s.setJob n job).Settled :=
  h.of_keeps (.refl_of rfl rfl rfl rfl)
    (fun other hother => (List.mem_or_eq_of_mem_set hother).elim (h.idle other) (fun heq => heq ▸ hidle)) (fun _ => rfl)

lemma Settled.step (h : s.Settled) (hcareful : s.Careful e) (hstep : s.step e = some t) : t.Settled := by
  cases e with
  | requestUpdateRow rowId acknowledgeDuplicate =>
    obtain ⟨_, heq⟩ := Option.ite_none_right_eq_some.mp hstep
    obtain rfl := Option.some.inj heq
    exact h.of_keeps (.refl_of rfl rfl rfl rfl) h.idle (fun _ => rfl)
  | updateRow n =>
    obtain ⟨hkeeps, hjobs, _, hbatch⟩ := keeps_updateRow hcareful hstep
    exact h.of_keeps hkeeps (hjobs ▸ h.idle) (fun _ => hbatch)
  | commit actingUserId =>
    obtain ⟨_, heq⟩ := Option.ite_none_right_eq_some.mp hstep
    obtain rfl := Option.some.inj heq
    exact h.of_keeps (.refl_of rfl rfl rfl rfl) h.idle nofun
  | addCommitJob added =>
    obtain ⟨_, heq⟩ := Option.ite_none_right_eq_some.mp hstep
    obtain rfl := Option.some.inj heq
    refine h.of_keeps (.refl_of rfl rfl rfl rfl) (fun job hjob => ?_) (fun _ => rfl)
    cases added with
    | false => exact h.idle job hjob
    | true =>
      rcases List.mem_append.mp hjob with hold | hnew
      · exact h.idle job hold
      · exact List.mem_singleton.mp hnew ▸ ⟨rfl, rfl⟩
  | start n =>
    obtain ⟨job, _, hstep⟩ := Option.bind_eq_some_iff.mp hstep
    obtain ⟨_, heq⟩ := Option.ite_none_right_eq_some.mp hstep
    obtain rfl := Option.some.inj heq
    exact h.setJob n ⟨rfl, rfl⟩
  | advance n answer now =>
    obtain ⟨job, hjob, hstep⟩ := Option.bind_eq_some_iff.mp hstep
    obtain ⟨⟨next, job'⟩, hanswered, heq⟩ := Option.bind_eq_some_iff.mp hstep
    obtain rfl := Option.some.inj heq
    obtain ⟨hkeeps, hidle, hbatch⟩ := h.answered (h.idle job (List.mem_of_getElem? hjob)) hanswered
    have hjobs := (answered_frame hanswered).1
    have hnext : next.Settled := by
      refine ⟨h.progress.of_keeps hkeeps, hjobs ▸ h.idle, fun hcomplete => ?_⟩
      rcases hbatch hcomplete with hsame | rfl
      · rw [hkeeps.count, hkeeps.count, hkeeps.count, hsame]
        exact h.counters (hsame ▸ hcomplete)
      · exact ⟨rfl, rfl, rfl⟩
    exact hnext.setJob n hidle
  | die n =>
    obtain ⟨job, _, hstep⟩ := Option.bind_eq_some_iff.mp hstep
    obtain ⟨_, heq⟩ := Option.ite_none_right_eq_some.mp hstep
    obtain rfl := Option.some.inj heq
    exact h.setJob n ⟨rfl, rfl⟩

lemma only_job {n : ℕ} (hjobs : s.jobs = [job]) (hjob : s.jobs[n]? = some job') : n = 0 ∧ job' = job := by
  rw [hjobs, List.getElem?_singleton] at hjob
  split at hjob
  next hn => exact ⟨hn, (Option.some.inj hjob).symm⟩
  · cases hjob

lemma setJob_only {n : ℕ} (hjobs : s.jobs = [job]) (hjob : s.jobs[n]? = some job) (job' : ImportJob) :
    (s.setJob n job').jobs = [job'] := by
  rw [(only_job hjobs hjob).1, ImportState.setJob, hjobs]
  rfl

lemma Single.of_keeps (h : s.Single) (hkeeps : s.Keeps t) (hjobs : t.jobs = s.jobs)
    (henqueuing : t.enqueuing = s.enqueuing) (hbatch : t.batch = s.batch) : t.Single where
  status := hbatch ▸ h.status
  job := by
    rw [hjobs, henqueuing, hbatch]
    rcases h.job with ⟨hnone, hone, hvalidated, hprogress⟩ | ⟨job, hjob, hzero, hstatus, hprogress⟩
    · exact Or.inl ⟨hnone, hone, hvalidated, hprogress.of_keeps hkeeps⟩
    · exact Or.inr ⟨job, hjob, hzero, hstatus, hprogress.of_keeps hkeeps⟩

lemma Single.the_job {n : ℕ} (h : s.Single) (hjob : s.jobs[n]? = some job) :
    s.jobs = [job] ∧ s.enqueuing = 0 ∧ s.batch.status ≠ .validated ∧ s.Progress job.phase := by
  rcases h.job with ⟨hnone, _⟩ | ⟨only, hjobs, hzero, hstatus, hprogress⟩
  · rw [hnone, List.getElem?_nil] at hjob
    cases hjob
  · obtain ⟨_, rfl⟩ := only_job hjobs hjob
    exact ⟨hjobs, hzero, hstatus, hprogress⟩

lemma Single.setJob {n : ℕ} (h : s.Single) (hjob : s.jobs[n]? = some job) (hprogress : s.Progress job'.phase) :
    (s.setJob n job').Single where
  status := h.status
  job := by
    obtain ⟨hjobs, hzero, hstatus, _⟩ := h.the_job hjob
    exact Or.inr ⟨job', setJob_only hjobs hjob job', hzero, hstatus, hprogress.of_keeps (.refl_of rfl rfl rfl rfl)⟩

lemma Single.advance {n : ℕ} (h : s.Single) (hcareful : s.Careful (.advance n answer now))
    (hstep : s.step (.advance n answer now) = some t) : t.Single ∨ t.Settled := by
  obtain ⟨job, hjob, hstep⟩ := Option.bind_eq_some_iff.mp hstep
  obtain ⟨⟨next, job'⟩, hanswered, heq⟩ := Option.bind_eq_some_iff.mp hstep
  obtain rfl := Option.some.inj heq
  obtain ⟨hjobs, hzero, hstatus, hprogress⟩ := h.the_job hjob
  obtain ⟨hsame, henqueuing, hbatch⟩ := answered_frame hanswered
  have hafter : next.Progress job'.phase := by
    refine hprogress.answered (fun herror => ?_) hanswered
    subst herror
    exact hcareful job hjob
  have honly : (next.setJob n job').jobs = [job'] := setJob_only (hsame ▸ hjobs) (hsame ▸ hjob) job'
  have hkept : (next.setJob n job').Progress job'.phase := hafter.of_keeps (.refl_of rfl rfl rfl rfl)
  rcases hbatch with hkeep | hfailed | ⟨hfinalized, hprocessed⟩
  · exact Or.inl ⟨hkeep ▸ h.status, Or.inr ⟨job', honly, henqueuing.trans hzero, hkeep ▸ hstatus, hkept⟩⟩
  · have hended (status : ImportBatchStatus) (hne : .failed ≠ status) : next.batch.status ≠ status := hfailed ▸ hne
    exact Or.inl ⟨hended _ nofun, Or.inr ⟨job', honly, henqueuing.trans hzero, hended _ nofun, hkept⟩⟩
  · have hidle : job'.phase.idle := hprocessed ▸ ⟨rfl, rfl⟩
    refine Or.inr ⟨hprocessed ▸ hkept, fun only hmem => ?_, fun _ => ?_⟩
    · rw [honly, List.mem_singleton] at hmem
      exact hmem ▸ hidle
    · rw [hfinalized]
      exact ⟨rfl, rfl, rfl⟩

lemma Single.step (h : s.Single) (hcareful : s.Careful e) (hstep : s.step e = some t) : t.Single ∨ t.Settled := by
  cases e with
  | requestUpdateRow rowId acknowledgeDuplicate =>
    obtain ⟨_, heq⟩ := Option.ite_none_right_eq_some.mp hstep
    obtain rfl := Option.some.inj heq
    exact Or.inl (h.of_keeps (.refl_of rfl rfl rfl rfl) rfl rfl rfl)
  | updateRow n =>
    obtain ⟨hkeeps, hjobs, henqueuing, hbatch⟩ := keeps_updateRow hcareful hstep
    exact Or.inl (h.of_keeps hkeeps hjobs henqueuing hbatch)
  | commit actingUserId =>
    obtain ⟨hstatus, heq⟩ := Option.ite_none_right_eq_some.mp hstep
    obtain rfl := Option.some.inj heq
    have hvalidated := hstatus.resolve_right h.status
    rcases h.job with ⟨hnone, _, hzero, hprogress⟩ | ⟨_, _, _, hother, _⟩
    · refine Or.inl ⟨nofun, Or.inl ⟨hnone, ?_, nofun, hprogress.of_keeps (.refl_of rfl rfl rfl rfl)⟩⟩
      exact (congrArg (· + 1) (hzero hvalidated)).le
    · exact absurd hvalidated hother
  | addCommitJob added =>
    obtain ⟨hpositive, heq⟩ := Option.ite_none_right_eq_some.mp hstep
    obtain rfl := Option.some.inj heq
    rcases h.job with ⟨hnone, hone, hvalidated, hprogress⟩ | ⟨_, _, hzero, _⟩
    · have hzero : s.enqueuing - 1 = 0 := Nat.sub_eq_zero_of_le hone
      have hstatus : s.batch.status ≠ .validated := fun hstatus => hpositive.ne' (hvalidated hstatus)
      have hkept : ∀ jobs, Progress { s with enqueuing := s.enqueuing - 1, jobs := jobs } .waiting :=
        fun jobs => hprogress.of_keeps (.refl_of rfl rfl rfl rfl)
      cases added with
      | false => exact Or.inl ⟨h.status, Or.inl ⟨hnone, hzero ▸ Nat.zero_le 1, fun _ => hzero, hkept _⟩⟩
      | true =>
        have honly (job : ImportJob) : s.jobs ++ [job] = [job] := by rw [hnone, List.nil_append]
        exact Or.inl ⟨h.status, Or.inr ⟨_, honly _, hzero, hstatus, hkept _⟩⟩
    · exact absurd hzero hpositive.ne'
  | start n =>
    obtain ⟨job, hjob, hstep⟩ := Option.bind_eq_some_iff.mp hstep
    obtain ⟨hphase, heq⟩ := Option.ite_none_right_eq_some.mp hstep
    obtain rfl := Option.some.inj heq
    have hprogress := (h.the_job hjob).2.2.2
    exact Or.inl (h.setJob hjob (hprogress.restart (hphase ▸ rfl) ⟨rfl, rfl⟩ rfl))
  | advance n answer now => exact h.advance hcareful hstep
  | die n =>
    obtain ⟨job, hjob, hstep⟩ := Option.bind_eq_some_iff.mp hstep
    obtain ⟨_, heq⟩ := Option.ite_none_right_eq_some.mp hstep
    obtain rfl := Option.some.inj heq
    have hprogress := (h.the_job hjob).2.2.2
    exact Or.inl (h.setJob hjob (hprogress.restart (hcareful job hjob) ⟨rfl, rfl⟩ rfl))

lemma Single.exactlyOnce (h : s.Single) : s.ExactlyOnce where
  once := by
    rcases h.job with ⟨_, _, _, hprogress⟩ | ⟨_, _, _, _, hprogress⟩ <;> exact hprogress.once
  imported row hrow hflight := by
    rcases h.job with ⟨_, _, _, hprogress⟩ | ⟨job, hjobs, _, _, hprogress⟩
    · exact hprogress.imported row hrow nofun
    · exact hprogress.imported row hrow (hflight job (hjobs ▸ List.mem_singleton_self job))
  counted hcomplete := absurd hcomplete h.status

lemma Settled.exactlyOnce (h : s.Settled) : s.ExactlyOnce where
  once := h.progress.once
  imported row hrow _ := h.progress.imported row hrow nofun
  counted hcomplete := by
    obtain ⟨himported, hfailed, hskipped⟩ := h.counters hcomplete
    exact ⟨h.progress.sum, himported, hfailed, hskipped, h.progress.invalid.symm⟩

end ImportState

open ImportState

theorem imported_exactly_once {es : List ImportEvent} (hs : s.Validated)
    (h : Run (Guarded (Enabled step) Careful) s es t) : t.ExactlyOnce := by
  have hend : t.Single ∨ t.Settled := by
    refine h.invariant (P := fun t => t.Single ∨ t.Settled) (fun a e b ha he => ?_) (Or.inl hs.single)
    rcases ha with hsingle | hsettled
    · exact hsingle.step he.2 he.1
    · exact Or.inr (hsettled.step he.2 he.1)
  exact hend.elim Single.exactlyOnce Settled.exactlyOnce

instance (s : ImportState) : (e : ImportEvent) → Decidable (s.Careful e)
  | .updateRow n => inferInstanceAs (Decidable (∀ u ∈ s.updating[n]?, u.acknowledgeDuplicate = true →
      ∀ row ∈ s.rows.rows, row.id = u.rowId → row.status ≠ .skipped))
  | .advance n .error _ => inferInstanceAs (Decidable (∀ job ∈ s.jobs[n]?, job.phase.inFlight = none))
  | .die n => inferInstanceAs (Decidable (∀ job ∈ s.jobs[n]?, job.phase.inFlight = none))
  | .advance _ .done _ => .isTrue trivial
  | .advance _ (.parent _) _ => .isTrue trivial
  | .advance _ (.created _) _ => .isTrue trivial
  | .advance _ (.refused _) _ => .isTrue trivial
  | .requestUpdateRow _ _ => .isTrue trivial
  | .commit _ => .isTrue trivial
  | .addCommitJob _ => .isTrue trivial
  | .start _ => .isTrue trivial

namespace Sample

def batch : ImportBatch where
  id := 1
  entityType := .driver
  totalRows := 3
  validRowCount := 2
  invalidRowCount := 1
  createdByUserId := 9

def validated : ImportState where
  batch := batch
  rows := ⟨[{ id := 11, rowNumber := 1, parentLegalName := some "Carrier" },
    { id := 12, rowNumber := 2, parentLegalName := some "Carrier", duplicateWarning := true },
    { id := 13, rowNumber := 3, status := .invalid, errors := ["First name is required."] }], by decide⟩

def committed : List ImportEvent := [.commit 9, .addCommitJob true, .start 0]

def ends (answer : Answer) : ImportEvent := .advance 0 answer 60

def creates (entityId : Uuid) : List ImportEvent :=
  [ends .done, ends .done, ends (.parent (.ok 5)), ends (.created entityId)]

/-- The first attempt dies before it creates anything, the second one does the rest, and the batch is committed again. -/
def diesInTime : List ImportEvent :=
  committed ++ [ends .done, ends .done, .die 0, .start 0] ++ creates 21 ++ List.replicate 4 (ends .done) ++
    [.commit 9, .addCommitJob true, .start 1] ++ List.replicate 3 (.advance 1 .done 70)

def diesBetween : List ImportEvent :=
  committed ++ creates 21 ++ [.die 0, .start 0] ++ creates 22 ++ List.replicate 4 (ends .done)

lemma validated_ok : validated.Validated := ⟨rfl, by decide, rfl, rfl, rfl, rfl, rfl⟩

end Sample

open Sample

theorem imported_exactly_once_sample : ∃ t, Run (Enabled step) validated diesInTime t ∧ t.ExactlyOnce ∧
    t.batch.status = .complete ∧ (t.createdBy 11).length = 1 ∧ t.jobs.length = 2 := by
  have hend : (diesInTime.foldlM (checked step Careful) validated).any
      (fun t => t.batch.status = .complete ∧ (t.createdBy 11).length = 1 ∧ t.jobs.length = 2) = true := by decide
  obtain ⟨t, ht, hall⟩ := (Option.any_eq_true _ _).mp hend
  have hguarded := run_checked ht
  exact ⟨t, hguarded.unguarded, imported_exactly_once validated_ok hguarded, of_decide_eq_true hall⟩

theorem driver_imported_twice : ∃ t, validated.Validated ∧ Run (Enabled step) validated diesBetween t ∧
    t.batch.status = .complete ∧ (t.createdBy 11).length = 2 := by
  have hend : (diesBetween.foldlM step validated).any
      (fun t => t.batch.status = .complete ∧ (t.createdBy 11).length = 2) = true := by decide
  obtain ⟨t, ht, hall⟩ := (Option.any_eq_true _ _).mp hend
  exact ⟨t, validated_ok, (run_enabled_iff _ _ _ _).mpr ht, of_decide_eq_true hall⟩

end Truckmaster.Imports
