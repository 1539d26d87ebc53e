import PaxPivot.Application.RunSafety

/-!
# How a provider's failure is reported

`check_source` recovers from an error code who refused: the pipeline, whose codes
are `forbidden` and `invalid_input`, or the provider. The two agree exactly as
long as the provider uses other codes.
-/

namespace PaxPivot

/-- One of the two codes the pipeline refuses with. -/
def RefusalCoded (e : ApplicationError) : Prop := e.code = .forbidden ∨ e.code = .invalidInput

instance (e : ApplicationError) : Decidable (RefusalCoded e) :=
  inferInstanceAs (Decidable (_ ∨ _))

/-- `record_observation` refuses what the provider returned. -/
def RefusedObservation (source : Source) (providerId : String) (switches : List KillSwitch)
    (o : SourceObservation) : Prop :=
  o.provenance.providerId.text ≠ providerId ∨
    (validateAgainstPolicy source o switches).isSome = true

/-- The outcome names what the provider's answer was. -/
structure Reported (source : Source) (providerId : String) (switches : List KillSwitch)
    (answer : Result SourceObservation) (outcome : CheckOutcome) : Prop where
  failure : outcome = .providerFailure ↔ ∃ e, answer = .error e
  rejection : outcome = .rejected ↔
    ∃ o, answer = .ok o ∧ RefusedObservation source providerId switches o

/-- The provider's answers when it is asked about `sources` in turn. -/
def providerAnswers {σ : Type} (provider : SourceProvider σ) :
    List Source → σ → List (Source × Result SourceObservation)
  | [], _ => []
  | source :: rest, state =>
    (source, (provider.observe source.identity state).1) ::
      providerAnswers provider rest (provider.observe source.identity state).2

/-- The sources a run asks about. -/
def attempted (sources : List Source) (providerId : String) (switches : List KillSwitch) :
    List Source :=
  sources.filter fun source => (skipReason source providerId switches).isNone

variable {σ ε ρ : Type} {provider : SourceProvider σ}
  {observations : SourceObservationRepository ε ρ} {switches : List KillSwitch}

theorem refusedObservation_iff {source : Source} {providerId : String} {o : SourceObservation} :
    RefusedObservation source providerId switches o ↔
      ∃ e, judgeAnswer source providerId switches (.ok o) = .error e := by
  unfold RefusedObservation
  simp only [judgeAnswer]
  by_cases hprovider : o.provenance.providerId.text = providerId
  · simp only [hprovider, ne_eq, not_true_eq_false, false_or, ↓reduceIte]
    cases validateAgainstPolicy source o switches <;> simp
  · simp [hprovider]

/-! ## One check -/

section Reports

variable {source : Source} {providerId : String} {outcome : CheckOutcome}

/-- A failure is reported as a provider failure. -/
theorem reported_error_iff {e : ApplicationError} :
    Reported source providerId switches (.error e) outcome ↔ outcome = .providerFailure := by
  constructor
  · intro r
    exact r.failure.2 ⟨e, rfl⟩
  · rintro rfl
    refine ⟨⟨fun _ => ⟨e, rfl⟩, fun _ => rfl⟩, ?_⟩
    constructor
    · intro hrejected
      cases hrejected
    · rintro ⟨o, ho, -⟩
      cases ho

/-- An observation is never reported as a failure, and as a rejection when it is refused. -/
theorem reported_ok_iff {o : SourceObservation} :
    Reported source providerId switches (.ok o) outcome ↔
      outcome ≠ .providerFailure ∧
        (outcome = .rejected ↔ RefusedObservation source providerId switches o) := by
  constructor
  · intro r
    constructor
    · intro hfailed
      obtain ⟨e, he⟩ := r.failure.1 hfailed
      cases he
    · rw [r.rejection]
      simp
  · rintro ⟨hfailed, hrejected⟩
    constructor
    · refine ⟨fun h => absurd h hfailed, ?_⟩
      rintro ⟨e, he⟩
      cases he
    · rw [hrejected]
      simp

end Reports

/-- A check reports its answer unless it is a failure with a refusal's code. -/
theorem Check.Sound.reported_iff {c : Check} {providerId : String}
    (h : c.Sound providerId switches) {answer : Result SourceObservation}
    (ha : c.answer = some answer) :
    Reported c.source providerId switches answer c.outcome.outcome ↔
      ∀ e, answer = .error e → ¬ RefusalCoded e := by
  cases h with
  | skipped source reason skip => cases ha
  | refused source given e attempt judged =>
    cases ha
    cases answer with
    | error failure =>
      simp only [judgeAnswer, Except.error.injEq] at judged
      subst judged
      rw [reported_error_iff]
      constructor
      · intro hfailed e he hcode
        cases he
        have houtcome : (refusalOutcome source failure).outcome = .rejected := if_pos hcode
        rw [houtcome] at hfailed
        cases hfailed
      · intro hno
        exact if_neg (hno failure rfl)
    | ok o =>
      have houtcome : (refusalOutcome source e).outcome = .rejected :=
        if_pos (judgeAnswer_error_code judged)
      have refused := refusedObservation_iff.2 ⟨e, judged⟩
      rw [reported_ok_iff, houtcome]
      simp [refused]
  | recorded source o attempt judged =>
    cases ha
    have accepted : ¬ RefusedObservation source providerId switches o := by
      rw [refusedObservation_iff, judged]
      rintro ⟨e, he⟩
      cases he
    rw [reported_ok_iff]
    simp [accepted, recordedOutcome]

/-! ## A whole run -/

/-- The source a check asked about, with the answer. -/
def Check.answered (c : Check) : Option (Source × Result SourceObservation) :=
  c.answer.map fun a => (c.source, a)

theorem Check.Sound.attempted_iff {c : Check} {providerId : String}
    (h : c.Sound providerId switches) :
    (skipReason c.source providerId switches).isNone = c.answer.isSome := by
  cases h with
  | skipped source reason skip => simp [skip]
  | refused source answer e attempt judged => simp [attempt]
  | recorded source o attempt judged => simp [attempt]

/-- A source is attempted when its check has an answer. -/
theorem Check.Sound.attempted_cons {c : Check} {providerId : String}
    (h : c.Sound providerId switches) (sources : List Source) :
    attempted (c.source :: sources) providerId switches =
      if c.answer.isSome then c.source :: attempted sources providerId switches
      else attempted sources providerId switches := by
  unfold attempted
  rw [List.filter_cons, h.attempted_iff]

/-- The answers of a run are the provider's answers about the attempted sources. -/
theorem Effects.answers {checks : List Check} {w w' : World σ ρ}
    (sound : ∀ c ∈ checks, c.Sound provider.providerId switches)
    (h : Effects provider observations checks w w') :
    providerAnswers provider (attempted (checks.map (·.source)) provider.providerId switches)
        w.provider = checks.filterMap Check.answered := by
  induction h with
  | nil w => rfl
  | cons head tail ih =>
    rename_i c cs w w₁ w₂
    have later := ih fun c' h' => sound c' (List.mem_cons_of_mem c h')
    rw [List.map_cons, (sound c (by simp)).attempted_cons]
    cases ha : c.answer with
    | none =>
      rw [if_neg (by simp), List.filterMap_cons_none (by simp [Check.answered, ha]),
        ← head.notAsked ha, later]
    | some a =>
      rw [if_pos (by simp), List.filterMap_cons_some (b := (c.source, a))
        (by simp [Check.answered, ha]), providerAnswers, head.asked a ha, later]

theorem exitCode_eq_three_iff {run : SourceCheckRun} :
    exitCode (some run) = 3 ↔ ∃ outcome ∈ run.outcomes, outcome.outcome = .providerFailure := by
  show (if run.providerFailures ≠ [] then 3 else 0) = 3 ↔ _
  unfold SourceCheckRun.providerFailures
  simp

/-- The answers of a run's checks, each with the source it is about. -/
theorem mem_answered_iff {checks : List Check} {q : Source × Result SourceObservation} :
    q ∈ checks.filterMap Check.answered ↔
      ∃ c ∈ checks, c.answer = some q.2 ∧ c.source = q.1 := by
  simp only [List.mem_filterMap, Check.answered, Option.map_eq_some_iff]
  constructor
  · rintro ⟨c, hc, a, ha, rfl⟩
    exact ⟨c, hc, ha, rfl⟩
  · rintro ⟨c, hc, ha, hsource⟩
    exact ⟨c, hc, q.2, ha, by rw [hsource]⟩

/-- **Failures are reported exactly when no provider failure carries a refusal's
code.** In every finished run each attempted source's outcome names what its
provider answered, and the exit code is 3 exactly when some answer was a failure,
if and only if no failing answer is coded `forbidden` or `invalid_input`. -/
theorem failures_reported_iff (registry : Registry) (switches : List KillSwitch)
    (provider : SourceProvider σ) (observations : SourceObservationRepository ε ρ) (now : Int)
    (w w' : World σ ρ) (run : SourceCheckRun)
    (h : runSourceChecks registry.sources observations switches provider now w = .ok (run, w')) :
    ((∀ p ∈ providerAnswers provider
          (attempted registry.sources provider.providerId switches) w.provider,
        ∀ outcome ∈ run.outcomes, outcome.sourceId = p.1.sourceId →
          Reported p.1 provider.providerId switches p.2 outcome.outcome) ∧
      (exitCode (some run) = 3 ↔ ∃ p ∈ providerAnswers provider
          (attempted registry.sources provider.providerId switches) w.provider,
        ∃ e, p.2 = .error e)) ↔
    ∀ p ∈ providerAnswers provider
        (attempted registry.sources provider.providerId switches) w.provider,
      ∀ e, p.2 = .error e → ¬ RefusalCoded e := by
  obtain ⟨checks, hsources, houtcomes, sound, effects⟩ := runSourceChecks_spec h
  rw [← hsources, effects.answers sound]
  constructor
  · rintro ⟨hreported, -⟩ p hp
    obtain ⟨c, hc, ha, hsource⟩ := mem_answered_iff.1 hp
    have := hreported p hp c.outcome (houtcomes ▸ List.mem_map_of_mem hc)
      (by rw [(sound c hc).sourceId, hsource])
    rw [← hsource] at this
    exact ((sound c hc).reported_iff ha).1 this
  · intro hcodes
    have hcheck : ∀ c ∈ checks, ∀ a, c.answer = some a →
        Reported c.source provider.providerId switches a c.outcome.outcome := fun c hc a ha =>
      ((sound c hc).reported_iff ha).2 (hcodes (c.source, a) (mem_answered_iff.2 ⟨c, hc, ha, rfl⟩))
    refine ⟨?_, ?_⟩
    · intro p hp outcome houtcome hid
      obtain ⟨c, hc, ha, hsource⟩ := mem_answered_iff.1 hp
      rw [houtcomes] at houtcome
      rw [← hsource] at hid ⊢
      rw [outcome_eq hsources sound hc houtcome hid]
      exact hcheck c hc p.2 ha
    · rw [exitCode_eq_three_iff, houtcomes]
      constructor
      · rintro ⟨outcome, houtcome, hfailed⟩
        obtain ⟨c, hc, rfl⟩ := List.mem_map.1 houtcome
        cases ha : c.answer with
        | none =>
          have := (sound c hc).asked_iff
          rw [ha, hfailed] at this
          exact absurd this (by decide)
        | some a =>
          exact ⟨(c.source, a), mem_answered_iff.2 ⟨c, hc, ha, rfl⟩,
            (hcheck c hc a ha).failure.1 hfailed⟩
      · rintro ⟨p, hp, e, he⟩
        obtain ⟨c, hc, ha, -⟩ := mem_answered_iff.1 hp
        exact ⟨c.outcome, List.mem_map_of_mem hc, (hcheck c hc p.2 ha).failure.2 ⟨e, he⟩⟩

/-- `source_provider.artifact_parent_missing`, as the Firecrawl adapter returns it. -/
def artifactParentMissing : ApplicationError :=
  { code := .invalidInput, messageKey := .lit "source_provider.artifact_parent_missing"
    retryable := false }

/-- A provider that cannot find its artifact's parent page. -/
def parentlessProvider : SourceProvider Unit where
  providerId := "synthetic-adapter"
  observe _ state := (.error artifactParentMissing, state)

/-- A provider failure with the code of a refusal is reported as a rejection, and
the scheduler sees success. -/
theorem parent_missing_reported_as_rejection :
    ∃ run w', runSourceChecks [fixtureSource 1] historyRepository [] parentlessProvider 0
        ⟨(), []⟩ = .ok (run, w') ∧
      skipReason (fixtureSource 1) parentlessProvider.providerId [] = none ∧
      (parentlessProvider.observe (fixtureSource 1).identity ()).1 = .error artifactParentMissing ∧
      run.outcomes.map (·.outcome) = [.rejected] ∧ exitCode (some run) = 0 :=
  ⟨_, _, rfl, by decide, rfl, by decide, by decide⟩

/-- A provider that is down. -/
def unreachableProvider : SourceProvider Unit where
  providerId := "synthetic-adapter"
  observe _ state :=
    (.error { code := .unavailable, messageKey := .lit "source_provider.firecrawl_unreachable"
              retryable := true }, state)

theorem unreachable_reported :
    ∃ run w', runSourceChecks [fixtureSource 1] historyRepository [] unreachableProvider 0
      ⟨(), []⟩ = .ok (run, w') ∧ exitCode (some run) = 3 := by
  refine ⟨_, _, rfl, ((failures_reported_iff ⟨[fixtureSource 1], by decide⟩ []
    unreachableProvider historyRepository 0 ⟨(), []⟩ _ _ rfl).2 ?_).2.2 ?_⟩
  · intro p hp e he
    obtain rfl := List.mem_singleton.1 hp
    cases he
    decide
  · exact ⟨_, List.mem_singleton.2 rfl, _, rfl⟩

end PaxPivot
