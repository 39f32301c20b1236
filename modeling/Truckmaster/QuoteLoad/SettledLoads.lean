import Truckmaster.Billing.Invoices
import Truckmaster.CarrierPay.CarrierPayments
import Truckmaster.QuoteLoad.Lifecycle

namespace Truckmaster.QuoteLoad

open Common Fallible LoadStatusDerivationService DispatchTrackingService Runs

variable {c : Call} {rows rows' : LoadRows} {calls : List Call}

lemma closed_step (hs : Served rows c rows') (h : rows.load.status = .closed) : rows'.load.status = .closed := by
  rcases served_cases hs with rfl | hok
  · exact h
  · rcases (exec_effect hok).underivable (by rw [h]; decide) with hedge | hsame
    · rw [h] at hedge
      exact absurd hedge Edge.not_from_closed
    · rw [hsame, h]

lemma closed_run (h : Run Served rows calls rows') (hstatus : rows.load.status = .closed) :
    rows'.load.status = .closed :=
  h.invariant (P := fun rows => rows.load.status = .closed) (fun _ _ _ hclosed hs => closed_step hs hclosed) hstatus

lemma cancelled_step (hs : Served rows c rows') (h : rows.load.status = .cancelled) (hop : c.op ≠ .closeLoad) :
    rows'.load.status = .cancelled := by
  rcases served_cases hs with rfl | hok
  · exact h
  · rcases (exec_effect hok).underivable (by rw [h]; decide) with hedge | hsame
    · rw [h] at hedge
      exact absurd hedge.from_cancelled hop
    · rw [hsame, h]

lemma closeLoad_step (hs : Served rows c rows') (h : rows.load.status ≠ .closed) (hop : c.op = .closeLoad) :
    rows'.load.status = .closed := by
  obtain ⟨closed, checklist, hclose, hclosed⟩ := LoadService.closeLoad_accepts c.request h
  have hexec : c.exec rows = .ok closed := by
    rw [Call.exec, Call.execOn, hop]
    exact congrArg (Prod.fst <$> ·) hclose
  rw [← show attempt Call.exec rows c = rows' from hs, attempt_of_ok hexec, hclosed]

lemma cancelled_run (h : Run Served rows calls rows') (hstatus : rows.load.status = .cancelled) :
    (rows'.load.status = .cancelled ∧ ∀ c ∈ calls, c.op ≠ .closeLoad) ∨
      (rows'.load.status = .closed ∧ ∃ c ∈ calls, c.op = .closeLoad) := by
  induction h with
  | nil => exact Or.inl ⟨hstatus, by simp⟩
  | @cons rows mid rows' c calls hs hrun ih =>
    by_cases hop : c.op = .closeLoad
    · have hclosed := closeLoad_step hs (by rw [hstatus]; decide) hop
      exact Or.inr ⟨closed_run hrun hclosed, c, List.mem_cons_self, hop⟩
    · rcases ih (cancelled_step hs hstatus hop) with ⟨hsame, hnone⟩ | ⟨hclosed, hsome⟩
      · exact Or.inl ⟨hsame, List.forall_mem_cons.mpr ⟨hop, hnone⟩⟩
      · obtain ⟨d, hd, hdop⟩ := hsome
        exact Or.inr ⟨hclosed, d, List.mem_cons_of_mem c hd, hdop⟩

theorem settled_loads_stay (h : Run Served rows calls rows') :
    (rows.load.status = .closed → rows'.load.status = .closed) ∧
    (rows.load.status = .cancelled →
      (rows'.load.status = .cancelled ↔ ∀ c ∈ calls, c.op ≠ .closeLoad) ∧
      (rows'.load.status ∉ Billing.InvoiceService.billableStatuses ↔ ∀ c ∈ calls, c.op ≠ .closeLoad) ∧
      (rows'.load.status ∉ CarrierPay.CarrierPaymentService.payableStatuses ↔
        ∀ c ∈ calls, c.op ≠ .closeLoad)) := by
  refine ⟨closed_run h, fun hstatus => ?_⟩
  rcases cancelled_run h hstatus with ⟨hsame, hnone⟩ | ⟨hclosed, d, hd, hdop⟩
  · rw [hsame]
    exact ⟨iff_of_true rfl hnone, iff_of_true (by decide) hnone, iff_of_true (by decide) hnone⟩
  · have hnot : ¬ ∀ c ∈ calls, c.op ≠ .closeLoad := fun hall => hall d hd hdop
    rw [hclosed]
    exact ⟨iff_of_false (by decide) hnot, iff_of_false (by decide) hnot, iff_of_false (by decide) hnot⟩

theorem settled_loads_stay_sample :
    (Sample.serve (Sample.serve Sample.booked 2 [.cancelLoad { reason := "Gone" }]) 3 [.beginSourcing]).load.status =
      .cancelled := by
  have hstay := settled_loads_stay
    (Sample.serve_run (Sample.serve Sample.booked 2 [.cancelLoad { reason := "Gone" }]) 3 [.beginSourcing])
  refine (hstay.2 (by decide)).1.mpr (fun c hc => ?_)
  rw [List.mem_singleton.mp hc]
  exact fun h => LoadOp.noConfusion h

theorem cancelled_load_closes :
    (Sample.serve Sample.booked 2 [.cancelLoad { reason := "Gone" }]).load.status = .cancelled ∧
    (Sample.serve Sample.booked 2 [.cancelLoad { reason := "Gone" }, .closeLoad]).load.status = .closed ∧
    (Sample.serve Sample.booked 2 [.cancelLoad { reason := "Gone" }, .closeLoad]).load.status ∈
      Billing.InvoiceService.billableStatuses ∧
    (Sample.serve Sample.booked 2 [.cancelLoad { reason := "Gone" }, .closeLoad]).load.status ∈
      CarrierPay.CarrierPaymentService.payableStatuses := by decide

end Truckmaster.QuoteLoad
