import PaxPivot.Application.ReliabilityWindow
import PaxPivot.Infrastructure.ObservationStore

/-!
# The history a report reads

`source_report` of `tooling.py` reads the newest rows of a source, up to a limit,
and measures them. A cut in front of the window loses nothing, and a cut inside it
makes the window look clipped.
-/

namespace PaxPivot

/-! ## Reading a history -/

/-- The rows of a source, newest first: `ORDER BY observed_at DESC, recorded_at DESC,
observation_id DESC`. -/
def historyOf (rows : List ObservationRow) (sourceId : UUID) : List SourceObservation :=
  ((rows.filter fun r => r.sourceId = sourceId).insertionSort fun a b => b.order ≤ a.order).map
    (·.observation)

/-- `list_for_source`. -/
def listForSource (rows : List ObservationRow) (sourceId : UUID) (limit : Nat) :
    List SourceObservation :=
  (historyOf rows sourceId).take limit

theorem observedAt_of_order {a b : ObservationRow} (h : a.order ≤ b.order) :
    a.observation.observedAt ≤ b.observation.observedAt :=
  Prod.Lex.monotone_fst _ _ h

theorem historyOf_sorted (rows : List ObservationRow) (sourceId : UUID) :
    (historyOf rows sourceId).Pairwise fun a b => b.observedAt ≤ a.observedAt := by
  have total : Std.Total fun a b : ObservationRow => b.order ≤ a.order :=
    ⟨fun a b => le_total _ _⟩
  have trans : IsTrans ObservationRow fun a b => b.order ≤ a.order :=
    ⟨fun a b c hab hbc => hbc.trans hab⟩
  unfold historyOf
  rw [List.pairwise_map]
  exact (List.pairwise_insertionSort _ _).imp observedAt_of_order

/-- The last row of a history is its oldest. -/
theorem exists_oldest {history : List SourceObservation} {o : SourceObservation}
    (sorted : history.Pairwise fun a b => b.observedAt ≤ a.observedAt) (ho : o ∈ history) :
    ∃ oldest ∈ history.getLast?, oldest.observedAt ≤ o.observedAt := by
  have nonempty : history ≠ [] := List.ne_nil_of_mem ho
  refine ⟨history.getLast nonempty, List.getLast_mem_getLast? nonempty, ?_⟩
  rw [← List.dropLast_append_getLast nonempty] at sorted ho
  rcases List.mem_append.1 ho with ho | ho
  · exact (List.pairwise_append.1 sorted).2.2 o ho _ List.mem_cons_self
  · rw [List.mem_singleton.1 ho]

/-! ## Cutting a history -/

section Cut

variable {kept dropped : List SourceObservation} {cadence : Option ℕ+} {start now : Int}

/-- A cut in front of the window loses nothing of it. -/
theorem reliability_append
    (sorted : (kept ++ dropped).Pairwise fun a b => b.observedAt ≤ a.observedAt)
    {oldest : SourceObservation} (holdest : oldest ∈ kept.getLast?)
    (before : oldest.observedAt < start) :
    reliability kept cadence start now = reliability (kept ++ dropped) cadence start now := by
  have mem : oldest ∈ kept := List.mem_of_getLast? holdest
  have older : ∀ o ∈ dropped, o.observedAt < start := by
    intro o ho
    have := (List.pairwise_append.1 sorted).2.2 oldest mem o ho
    omega
  refine reliability_congr ?_ ?_ fun _ => ?_
  · unfold SameWindow
    have none : dropped.filter (fun o => start ≤ o.observedAt && o.observedAt ≤ now) = [] := by
      apply List.filter_eq_nil_iff.2
      intro o ho
      have := older o ho
      simp only [Bool.and_eq_true, decide_eq_true_eq, not_and]
      omega
    rw [List.filter_append, none, List.append_nil]
  · have clipped : ∀ observations, oldest ∈ observations →
        isClipped observations start now = false := by
      intro observations hmem
      rw [← Bool.not_eq_true, isClipped_iff]
      rintro ⟨-, all⟩
      exact absurd (all oldest hmem) (by omega)
    rw [clipped kept mem, clipped (kept ++ dropped) (List.mem_append_left _ mem)]
  · exact iff_of_false (List.ne_nil_of_mem mem) (List.ne_nil_of_mem (List.mem_append_left _ mem))

/-- A history that passes starts in front of the window. -/
theorem exists_before_of_pass (pass : (reliability kept cadence start now).verdict = .pass) :
    ∃ o ∈ kept, o.observedAt < start := by
  by_cases unmeasured : cadence = none ∨ kept = []
  · rw [reliability_unmeasured unmeasured] at pass
    cases pass
  · obtain ⟨hcadence, observed⟩ := not_or.1 unmeasured
    obtain ⟨cadence, rfl⟩ := Option.ne_none_iff_exists'.1 hcadence
    rw [reliability_measured observed] at pass
    obtain ⟨-, clipped, -, hashed, -⟩ := gateVerdict_pass_iff.1 pass
    by_contra none
    simp only [not_exists, not_and, not_lt] at none
    have read : successfulReads kept start now ≠ [] := by
      intro h
      simp [h] at hashed
    obtain ⟨o, ho⟩ := List.exists_mem_of_ne_nil _ read
    obtain ⟨hmem, window, -⟩ := mem_successfulReads.1 ho
    have : isClipped kept start now = true := isClipped_iff.2 ⟨⟨o, hmem, window⟩, none⟩
    rw [clipped] at this
    cases this

end Cut

/-- **A truncated history is safe to report.** Cut in front of the window it gives the
whole report; and what passes on it passes on the whole history. -/
theorem truncated_report_safe (rows : List ObservationRow) (sourceId : UUID) (limit : Nat)
    (cadence : Option ℕ+) (start now : Int) :
    ((∃ oldest ∈ (listForSource rows sourceId limit).getLast?, oldest.observedAt < start) →
      reliability (listForSource rows sourceId limit) cadence start now =
        reliability (historyOf rows sourceId) cadence start now) ∧
    ((reliability (listForSource rows sourceId limit) cadence start now).verdict = .pass →
      (reliability (historyOf rows sourceId) cadence start now).verdict = .pass) := by
  have split : listForSource rows sourceId limit ++ (historyOf rows sourceId).drop limit =
      historyOf rows sourceId := List.take_append_drop _ _
  have sorted := historyOf_sorted rows sourceId
  rw [← split] at sorted ⊢
  refine ⟨fun ⟨oldest, holdest, before⟩ => reliability_append sorted holdest before, fun pass => ?_⟩
  obtain ⟨o, ho, before⟩ := exists_before_of_pass pass
  obtain ⟨oldest, holdest, last⟩ := exists_oldest (List.pairwise_append.1 sorted).1 ho
  rw [← reliability_append sorted holdest (by omega)]
  exact pass

end PaxPivot
