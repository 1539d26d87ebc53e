import PaxPivot.Application.SourcePipeline

/-!
# One pass over the registered sources

`application/source_checks.py`. A run is described by one `Check` for each
source: what the run decided, what the provider answered and what was appended.
`checkSource_spec` says what one source's check can do; `checkAll_spec` is its
induction over the registry, and the two main results read off the checks.
-/

namespace PaxPivot

universe u

inductive CheckOutcome where
  | recorded | skipped | rejected | providerFailure
  deriving DecidableEq

/-- What happened to one source in one run. -/
structure SourceCheckOutcome where
  sourceId : UUID
  outcome : CheckOutcome
  messageKey : Option Identifier := none
  state : Option SourceState := none
  deriving DecidableEq

structure SourceCheckRun where
  startedAt : Int
  outcomes : List SourceCheckOutcome
  deriving DecidableEq

def SourceCheckRun.recorded (run : SourceCheckRun) : List SourceCheckOutcome :=
  run.outcomes.filter (·.outcome = .recorded)

def SourceCheckRun.providerFailures (run : SourceCheckRun) : List SourceCheckOutcome :=
  run.outcomes.filter (·.outcome = .providerFailure)

/-- Why a run with this provider would not read the source, or `none` when it would. -/
def skipReason (source : Source) (providerId : String) (switches : List KillSwitch) :
    Option Identifier :=
  match authorizeProcessing source .retrieve switches with
  | .error refusal => some refusal.messageKey
  | .ok _ =>
    if source.adapterId.map (·.text) ≠ some providerId then some identityMismatch else none

/-- The outcome of an attempt that stored nothing: `check_source` tells a refusal
by the pipeline from a failing provider by the error code alone. -/
def refusalOutcome (source : Source) (e : ApplicationError) : SourceCheckOutcome :=
  { sourceId := source.sourceId
    outcome := if e.code = .forbidden ∨ e.code = .invalidInput then .rejected else .providerFailure
    messageKey := some e.messageKey }

def recordedOutcome (source : Source) (o : SourceObservation) : SourceCheckOutcome :=
  { sourceId := source.sourceId, outcome := .recorded, state := some o.state }

def skippedOutcome (source : Source) (reason : Identifier) : SourceCheckOutcome :=
  { sourceId := source.sourceId, outcome := .skipped, messageKey := some reason }

section Run

variable {σ ε ρ : Type u}

def checkSource (provider : SourceProvider σ) (observations : SourceObservationRepository ε ρ)
    (switches : List KillSwitch) (source : Source) (w : World σ ρ) :
    Except ε (SourceCheckOutcome × World σ ρ) :=
  match skipReason source provider.providerId switches with
  | some reason => .ok (skippedOutcome source reason, w)
  | none =>
    match recordObservation source provider observations switches w with
    | .error raised => .error raised
    | .ok (.ok observation, w') => .ok (recordedOutcome source observation, w')
    | .ok (.error e, w') => .ok (refusalOutcome source e, w')

/-- The loop of `run_source_checks`. -/
def checkAll (provider : SourceProvider σ) (observations : SourceObservationRepository ε ρ)
    (switches : List KillSwitch) :
    List Source → World σ ρ → Except ε (List SourceCheckOutcome × World σ ρ)
  | [], w => .ok ([], w)
  | source :: rest, w =>
    match checkSource provider observations switches source w with
    | .error raised => .error raised
    | .ok (outcome, w₁) =>
      match checkAll provider observations switches rest w₁ with
      | .error raised => .error raised
      | .ok (outcomes, w₂) => .ok (outcome :: outcomes, w₂)

def runSourceChecks (sources : List Source) (observations : SourceObservationRepository ε ρ)
    (switches : List KillSwitch) (provider : SourceProvider σ) (now : Int) (w : World σ ρ) :
    Except ε (SourceCheckRun × World σ ρ) :=
  match checkAll provider observations switches sources w with
  | .error raised => .error raised
  | .ok (outcomes, w') => .ok ({ startedAt := now, outcomes }, w')

end Run

/-- What a scheduler sees: 2 without a provider, 3 when the provider failed, else 0. -/
def exitCode : Option SourceCheckRun → Nat
  | none => 2
  | some run => if run.providerFailures ≠ [] then 3 else 0

/-! ## One check -/

/-- One source's part of a run. -/
structure Check where
  source : Source
  outcome : SourceCheckOutcome
  answer : Option (Result SourceObservation)
  appended : Option SourceObservation

/-- The three ways a check can end, with what decides between them. -/
inductive Check.Sound (providerId : String) (switches : List KillSwitch) : Check → Prop where
  | skipped (source : Source) (reason : Identifier)
      (skip : skipReason source providerId switches = some reason) :
      Sound providerId switches ⟨source, skippedOutcome source reason, none, none⟩
  | refused (source : Source) (answer : Result SourceObservation) (e : ApplicationError)
      (attempt : skipReason source providerId switches = none)
      (judged : judgeAnswer source providerId switches answer = .error e) :
      Sound providerId switches ⟨source, refusalOutcome source e, some answer, none⟩
  | recorded (source : Source) (o : SourceObservation)
      (attempt : skipReason source providerId switches = none)
      (judged : judgeAnswer source providerId switches (.ok o) = .ok o) :
      Sound providerId switches ⟨source, recordedOutcome source o, some (.ok o), some o⟩

theorem skipReason_eq_none_iff {source : Source} {providerId : String}
    {switches : List KillSwitch} :
    skipReason source providerId switches = none ↔
      Authorized source .retrieve switches ∧ source.adapterId.map (·.text) = some providerId := by
  unfold skipReason Authorized
  rw [isOk_iff]
  cases authorizeProcessing source .retrieve switches with
  | error refusal => simp
  | ok authorization => simp

section Spec

variable {σ ε ρ : Type u} {provider : SourceProvider σ}
  {observations : SourceObservationRepository ε ρ} {switches : List KillSwitch}

/-- What a check did to the provider's state and to the store. -/
structure Check.Effect (provider : SourceProvider σ)
    (observations : SourceObservationRepository ε ρ) (c : Check) (w w' : World σ ρ) : Prop where
  asked : ∀ a ∈ c.answer, provider.observe c.source.identity w.provider = (a, w'.provider)
  notAsked : c.answer = none → w'.provider = w.provider
  appends : ∀ o ∈ c.appended, observations.append o w.observations = .ok w'.observations
  keeps : c.appended = none → w'.observations = w.observations

/-- A check that is attempted passes the gate and the adapter test again. -/
theorem recordObservation_of_attempt {source : Source} {w : World σ ρ}
    (attempt : skipReason source provider.providerId switches = none) :
    recordObservation source provider observations switches w =
      match judgeAnswer source provider.providerId switches
          (provider.observe source.identity w.provider).1 with
      | .error failure =>
        .ok (.error failure, { w with provider := (provider.observe source.identity w.provider).2 })
      | .ok observation =>
        match observations.append observation w.observations with
        | .error raised => .error raised
        | .ok stored => .ok (.ok observation,
            ⟨(provider.observe source.identity w.provider).2, stored⟩) := by
  obtain ⟨hauth, hadapter⟩ := skipReason_eq_none_iff.1 attempt
  obtain ⟨authorization, hgate⟩ := isOk_iff.1 hauth
  unfold recordObservation
  rw [hgate]
  apply (if_neg (not_not.2 hadapter)).trans
  rfl

/-- **Everything one check can do.** -/
theorem checkSource_spec {source : Source} {w w' : World σ ρ} {outcome : SourceCheckOutcome}
    (h : checkSource provider observations switches source w = .ok (outcome, w')) :
    ∃ c : Check, c.source = source ∧ c.outcome = outcome ∧
      c.Sound provider.providerId switches ∧ c.Effect provider observations w w' := by
  unfold checkSource at h
  cases hskip : skipReason source provider.providerId switches with
  | some reason =>
    simp only [hskip, Except.ok.injEq, Prod.mk.injEq] at h
    obtain ⟨rfl, rfl⟩ := h
    exact ⟨_, rfl, rfl, .skipped source reason hskip, by simp, by simp, by simp, by simp⟩
  | none =>
    simp only [hskip, recordObservation_of_attempt hskip] at h
    rcases hobs : provider.observe source.identity w.provider with ⟨answer, state⟩
    rw [hobs] at h
    cases hjudge : judgeAnswer source provider.providerId switches answer with
    | error e =>
      simp only [hjudge, Except.ok.injEq, Prod.mk.injEq] at h
      obtain ⟨rfl, rfl⟩ := h
      exact ⟨_, rfl, rfl, .refused source answer e hskip hjudge, by simp [hobs], by simp, by simp,
        by simp⟩
    | ok o =>
      cases happend : observations.append o w.observations with
      | error raised => simp [hjudge, happend] at h
      | ok stored =>
        simp only [hjudge, happend, Except.ok.injEq, Prod.mk.injEq] at h
        obtain ⟨rfl, rfl⟩ := h
        obtain ⟨rfl, -, -⟩ := judgeAnswer_ok_iff.1 hjudge
        exact ⟨_, rfl, rfl, .recorded source o hskip hjudge, by simp [hobs], by simp,
          by simp [happend], by simp⟩

/-! ## A whole run -/

/-- The effects of a list of checks, one after the other. -/
inductive Effects (provider : SourceProvider σ) (observations : SourceObservationRepository ε ρ) :
    List Check → World σ ρ → World σ ρ → Prop where
  | nil (w : World σ ρ) : Effects provider observations [] w w
  | cons {c : Check} {cs : List Check} {w w₁ w₂ : World σ ρ}
      (head : c.Effect provider observations w w₁) (tail : Effects provider observations cs w₁ w₂) :
      Effects provider observations (c :: cs) w w₂

theorem checkAll_spec {sources : List Source} {w w' : World σ ρ}
    {outcomes : List SourceCheckOutcome}
    (h : checkAll provider observations switches sources w = .ok (outcomes, w')) :
    ∃ checks : List Check, checks.map (·.source) = sources ∧ checks.map (·.outcome) = outcomes ∧
      (∀ c ∈ checks, c.Sound provider.providerId switches) ∧
      Effects provider observations checks w w' := by
  induction sources generalizing w outcomes with
  | nil =>
    simp only [checkAll, Except.ok.injEq, Prod.mk.injEq] at h
    obtain ⟨rfl, rfl⟩ := h
    exact ⟨[], rfl, rfl, by simp, .nil w⟩
  | cons source rest ih =>
    simp only [checkAll] at h
    cases hcheck : checkSource provider observations switches source w with
    | error raised => simp [hcheck] at h
    | ok first =>
      obtain ⟨outcome, w₁⟩ := first
      cases hrest : checkAll provider observations switches rest w₁ with
      | error raised => simp [hcheck, hrest] at h
      | ok later =>
        obtain ⟨later, w₂⟩ := later
        simp only [hcheck, hrest, Except.ok.injEq, Prod.mk.injEq] at h
        obtain ⟨rfl, rfl⟩ := h
        obtain ⟨c, hsource, houtcome, hsound, heffect⟩ := checkSource_spec hcheck
        obtain ⟨cs, hsources, houtcomes, hsounds, heffects⟩ := ih hrest
        refine ⟨c :: cs, by simp [hsource, hsources], by simp [houtcome, houtcomes], ?_,
          .cons heffect heffects⟩
        intro c' hc'
        rcases List.mem_cons.1 hc' with rfl | hc'
        · exact hsound
        · exact hsounds c' hc'

/-- A run returns exactly the outcomes of its checks. -/
theorem runSourceChecks_spec {sources : List Source} {now : Int} {w w' : World σ ρ}
    {run : SourceCheckRun}
    (h : runSourceChecks sources observations switches provider now w = .ok (run, w')) :
    ∃ checks : List Check, checks.map (·.source) = sources ∧
      run.outcomes = checks.map (·.outcome) ∧
      (∀ c ∈ checks, c.Sound provider.providerId switches) ∧
      Effects provider observations checks w w' := by
  unfold runSourceChecks at h
  cases hall : checkAll provider observations switches sources w with
  | error raised => simp [hall] at h
  | ok done =>
    obtain ⟨outcomes, w₁⟩ := done
    simp only [hall, Except.ok.injEq, Prod.mk.injEq] at h
    obtain ⟨rfl, rfl⟩ := h
    obtain ⟨checks, hsources, houtcomes, hsound, heffects⟩ := checkAll_spec hall
    exact ⟨checks, hsources, houtcomes.symm, hsound, heffects⟩

end Spec

end PaxPivot
