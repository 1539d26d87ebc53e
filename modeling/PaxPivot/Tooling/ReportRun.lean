import PaxPivot.Application.ReliabilityGate
import PaxPivot.Application.RunSafety
import PaxPivot.Infrastructure.Providers.Firecrawl
import PaxPivot.Infrastructure.Repositories
import PaxPivot.Tooling.SourceReport

/-!
# The report of a registry

`source_report` of `tooling.py` with `report_scope` and `report_exit_code`: it measures the sources
that a run of `check_sources` would read, each from its own history, and lists every other one with
the reason that the run would give. A source that fell silent raises the alarm.
-/

namespace PaxPivot

/-! ## The report -/

/-- The sources that are measured, and every other one with the reason it is not. -/
def reportScope (switches : List KillSwitch) (providerId : String) :
    List Source → List Source × List (Source × Identifier)
  | [] => ([], [])
  | source :: rest =>
    let (measured, notMeasured) := reportScope switches providerId rest
    match skipReason source providerId switches with
    | none => (source :: measured, notMeasured)
    | some reason => (measured, (source, reason) :: notMeasured)

def reportExitCode (results : List SourceReliability) : Nat :=
  if results.any (·.verdict = .stop) then 1
  else if results.any (·.recorded ≠ 0) then 0 else 2

def historyLimit : Nat := 10000

/-- A line of the report; `truncated` is its note about the history. -/
structure MeasuredSource where
  source : Source
  result : SourceReliability
  truncated : Bool

structure ReliabilityReport where
  start : Int
  now : Int
  measured : List MeasuredSource
  notMeasured : List (Source × Identifier)
  exitCode : Nat

/-- `histories`: one row more than the limit tells a history at the limit from a longer one. -/
def Database.readHistory (db : Database) (sourceId : UUID) : List SourceObservation :=
  listForSource db.observations sourceId (historyLimit + 1)

def Database.measure (db : Database) (start now : Int) (source : Source) : MeasuredSource :=
  let history := db.readHistory source.sourceId
  { source
    result := reliability history source.cadenceMinutes start now
    truncated := history.length > historyLimit }

def sourceReport (db : Database) (days now : Int) : ReliabilityReport :=
  let start := now - days * (24 * 60 * 60 * 1000000)
  let (inScope, notMeasured) := reportScope db.listEngaged firecrawlId.text db.listSources
  let measured := inScope.map (db.measure start now)
  { start
    now
    measured
    notMeasured
    exitCode := reportExitCode (measured.map (·.result)) }

/-- `SourceCheckRun.skipped`. -/
def SourceCheckRun.skipped (run : SourceCheckRun) : List SourceCheckOutcome :=
  run.outcomes.filter (·.outcome = .skipped)

/-! ## The scope -/

section Scope

variable {switches : List KillSwitch} {providerId : String} {checks : List Check}

/-- **The scope is what the checks of a run read**, in the order of the registry. -/
theorem reportScope_checks (sound : ∀ c ∈ checks, c.Sound providerId switches) :
    let scope := reportScope switches providerId (checks.map (·.source))
    (checks.map (·.outcome)).filter (·.outcome = .skipped) =
        scope.2.map (fun s => skippedOutcome s.1 s.2) ∧
      ((checks.map (·.outcome)).filter (·.outcome ≠ .skipped)).map (·.sourceId) =
        scope.1.map (·.sourceId) := by
  induction checks with
  | nil => exact ⟨rfl, rfl⟩
  | cons c rest ih =>
    obtain ⟨skipped, read⟩ := ih fun c hc => sound c (List.mem_cons_of_mem _ hc)
    have head := sound c List.mem_cons_self
    have id := head.sourceId
    simp only [List.map_cons, reportScope]
    cases head with
    | skipped source reason skip =>
      rw [skip, List.filter_cons_of_pos (by rfl), List.filter_cons_of_neg (by simp [skippedOutcome]), skipped,
        read]
      exact ⟨rfl, rfl⟩
    | refused source answer e attempt judged =>
      have tried : (refusalOutcome source e).outcome ≠ .skipped := by
        unfold refusalOutcome
        dsimp only
        split <;> decide
      rw [attempt, List.filter_cons_of_neg (by simpa using tried),
        List.filter_cons_of_pos (by simpa using tried), List.map_cons, read, id, skipped]
      exact ⟨rfl, rfl⟩
    | recorded source o attempt judged =>
      rw [attempt, List.filter_cons_of_neg (by simp [recordedOutcome]),
        List.filter_cons_of_pos (by rfl), List.map_cons, read, skipped]
      exact ⟨rfl, rfl⟩

end Scope

/-! ## The alarm -/

section Alarm

variable {observations : List SourceObservation} {start now x : Int}

theorem reportExitCode_cases (results : List SourceReliability) :
    (reportExitCode results = 1 ↔ ∃ r ∈ results, r.verdict = .stop) ∧
      (reportExitCode results = 2 ↔
        (∀ r ∈ results, r.verdict ≠ .stop) ∧ ∀ r ∈ results, r.recorded = 0) := by
  have stops : results.any (·.verdict = .stop) = true ↔ ∃ r ∈ results, r.verdict = .stop := by simp
  have records : results.any (·.recorded ≠ 0) = true ↔ ∃ r ∈ results, r.recorded ≠ 0 := by simp
  unfold reportExitCode
  rw [← stops]
  split
  case isTrue stopped =>
    refine ⟨iff_of_true rfl stopped, iff_of_false (by decide) fun h => ?_⟩
    obtain ⟨r, hr, stop⟩ := stops.1 stopped
    exact h.1 r hr stop
  case isFalse going =>
    have none : ∀ r ∈ results, r.verdict ≠ .stop := fun r hr stop => going (stops.2 ⟨r, hr, stop⟩)
    split
    case isTrue recorded =>
      obtain ⟨r, hr, some⟩ := records.1 recorded
      exact ⟨iff_of_false (by decide) going, iff_of_false (by decide) fun h => some (h.2 r hr)⟩
    case isFalse silent =>
      refine ⟨iff_of_false (by decide) going, iff_of_true rfl ⟨none, fun r hr => ?_⟩⟩
      by_contra some
      exact silent (records.2 ⟨r, hr, some⟩)

theorem reliability_recorded (observations : List SourceObservation) (cadence : Option ℕ+)
    (start now : Int) :
    (reliability observations cadence start now).recorded =
      (insideWindow observations start now).length := by
  unfold reliability
  dsimp only
  split <;> rfl

/-- A measurement starts no later than an observation that lies before its end. -/
theorem measuredFrom_le (later : start ≤ x) (before : x ≤ now)
    (observed : ∃ o ∈ observations, o.observedAt ≤ x) :
    measuredFrom observations start now ≤ x := by
  cases h : isClipped observations start now with
  | false =>
    rw [measuredFrom_of_not_clipped h]
    exact later
  | true =>
    obtain ⟨o, ho, old⟩ := observed
    have inside := (isClipped_iff.1 h).2 o ho
    exact ((measuredFrom_of_clipped h).2 ⟨o, ho, ⟨inside, old.trans before⟩, rfl⟩).trans old

/-- A source that need not stop was read before the end of the policy's gap. -/
theorem read_of_going {cadence : ℕ+} (window : stopGap < now - start)
    (going : (reliability observations (some cadence) start now).verdict ≠ .stop)
    (observed : ∃ o ∈ observations, stopGap < now - o.observedAt) :
    ∃ o ∈ observations, o.retrieval = .succeeded ∧ now - stopGap ≤ o.observedAt ∧
      o.observedAt < now := by
  have positive : 0 ≤ stopGap := by decide
  have nonempty : observations ≠ [] := by
    obtain ⟨o, ho, -⟩ := observed
    exact List.ne_nil_of_mem ho
  rw [ne_eq, stop_iff nonempty (by omega), not_or] at going
  have began : (reliability observations (some cadence) start now).start ≤ now - stopGap - 1 := by
    rw [reliability_measured nonempty]
    refine measuredFrom_le (by omega) (by omega) ?_
    obtain ⟨o, ho, old⟩ := observed
    exact ⟨o, ho, by omega⟩
  have heard := going.2
  unfold SilentTooLong at heard
  by_contra silent
  refine heard ⟨now - stopGap - 1, now, began, le_rfl, by omega, fun o ho read between => ?_⟩
  exact silent ⟨o, ho, read, by omega, between.2⟩

end Alarm

/-! ## The whole report -/

section Report

variable {db : Database} {days now : Int}

theorem mem_readHistory {id : UUID} {o : SourceObservation} (h : o ∈ db.readHistory id) :
    ∃ r ∈ db.observations, r.sourceId = id ∧ r.observation = o := by
  obtain ⟨r, hr, rfl⟩ := List.mem_map.1 (List.mem_of_mem_take h)
  have mem := (List.mem_insertionSort _).1 hr
  exact ⟨r, List.mem_of_mem_filter mem, by simpa using List.of_mem_filter mem, rfl⟩

theorem sourceReport_measured {m : MeasuredSource} (h : m ∈ (sourceReport db days now).measured) :
    m = db.measure (sourceReport db days now).start now m.source := by
  obtain ⟨source, -, rfl⟩ := List.mem_map.1 h
  rfl

/-- **The report of a registry.** It measures the sources that a run over the same snapshot would
read, and lists every other one as the run would report it. Its exit code is 1 when a measured
source must stop, and 2 when none must and nothing of them was observed in the window. Where it
is not 1, every measured source with a cadence whose history reaches further back than the
policy's gap was read within that gap. -/
theorem source_report_true (db : Database) (days now : Int) :
    let report := sourceReport db days now
    (∀ (σ ε ρ : Type) (provider : SourceProvider σ) (observations : SourceObservationRepository ε ρ)
        (began : Int) (w w' : World σ ρ) (run : SourceCheckRun),
      provider.providerId = firecrawlId.text →
      runSourceChecks db.listSources observations db.listEngaged provider began w = .ok (run, w') →
      run.skipped = report.notMeasured.map (fun s => skippedOutcome s.1 s.2) ∧
        (run.outcomes.filter (·.outcome ≠ .skipped)).map (·.sourceId) =
          report.measured.map (·.source.sourceId)) ∧
    (report.exitCode = 1 ↔ ∃ m ∈ report.measured, m.result.verdict = .stop) ∧
    (report.exitCode = 2 ↔ (∀ m ∈ report.measured, m.result.verdict ≠ .stop) ∧
      ∀ m ∈ report.measured, ∀ o ∈ db.readHistory m.source.sourceId,
        ¬ (report.start ≤ o.observedAt ∧ o.observedAt ≤ now)) ∧
    (1 ≤ days → report.exitCode ≠ 1 → ∀ m ∈ report.measured, m.source.cadenceMinutes ≠ none →
      (∃ o ∈ db.readHistory m.source.sourceId, stopGap < now - o.observedAt) →
      ∃ r ∈ db.observations, r.sourceId = m.source.sourceId ∧
        r.observation.retrieval = .succeeded ∧ now - stopGap ≤ r.observation.observedAt ∧
        r.observation.observedAt < now) := by
  intro report
  have codes := reportExitCode_cases (report.measured.map (·.result))
  have code : report.exitCode = reportExitCode (report.measured.map (·.result)) := rfl
  rw [← code] at codes
  simp only [List.mem_map, exists_exists_and_eq_and, forall_exists_index, and_imp,
    forall_apply_eq_imp_iff₂] at codes
  refine ⟨?_, codes.1, codes.2.trans (and_congr_right fun _ => ?_), ?_⟩
  · intro σ ε ρ provider observations began w w' run same h
    obtain ⟨checks, sources, outcomes, sound, -⟩ := runSourceChecks_spec h
    rw [same] at sound
    obtain ⟨skipped, read⟩ := reportScope_checks sound
    rw [sources] at skipped read
    rw [SourceCheckRun.skipped, outcomes]
    refine ⟨skipped, read.trans ?_⟩
    show _ = List.map _ (List.map _ _)
    rw [List.map_map]
    rfl
  · refine forall₂_congr fun m hm => ?_
    rw [sourceReport_measured hm]
    show (reliability _ _ _ _).recorded = 0 ↔ _
    rw [reliability_recorded, List.length_eq_zero_iff, List.eq_nil_iff_forall_not_mem]
    simp only [mem_insideWindow, not_and]
    rfl
  · intro week going m hm cadenced old
    obtain ⟨cadence, hcadence⟩ := Option.ne_none_iff_exists'.1 cadenced
    have verdict : m.result.verdict ≠ .stop := fun stop => going (codes.1.2 ⟨m, hm, stop⟩)
    rw [sourceReport_measured hm] at verdict
    have verdict : (reliability (db.readHistory m.source.sourceId) m.source.cadenceMinutes
      report.start now).verdict ≠ .stop := verdict
    rw [hcadence] at verdict
    have start : report.start = now - days * (24 * 60 * 60 * 1000000) := rfl
    have gap : stopGap = 18 * 60 * 60 * 1000000 + 30 * 60 * 1000000 := by decide
    obtain ⟨o, ho, read, recent, past⟩ := read_of_going (by rw [gap, start]; omega) verdict old
    obtain ⟨r, hr, source, rfl⟩ := mem_readHistory ho
    exact ⟨r, hr, source, read, recent, past⟩

end Report

end PaxPivot
