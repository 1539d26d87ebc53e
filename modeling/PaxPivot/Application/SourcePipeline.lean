import PaxPivot.Application.SourceGate

/-!
# From a provider's answer to a stored observation

`application/source_pipeline.py` over its two ports. The provider and the
repository are arbitrary: each threads a state of its own, and a repository's
`append` may raise (`Except ε`).
-/

namespace PaxPivot

universe u

/-- The `SourceProvider` port; `σ` is the adapter's own state. -/
structure SourceProvider (σ : Type u) where
  providerId : String
  observe : SourceIdentity → σ → Result SourceObservation × σ

/-- The write side of `SourceObservationRepository` over a store `ρ`. -/
structure SourceObservationRepository (ε ρ : Type u) where
  append : SourceObservation → ρ → Except ε ρ

/-- An append-only history that refuses nothing. -/
def historyRepository : SourceObservationRepository Empty (List SourceObservation) where
  append observation history := .ok (history ++ [observation])

/-- What a check reads and writes: the provider's state and the store. -/
structure World (σ ρ : Type u) where
  provider : σ
  observations : ρ

/-- `_reject`. -/
def reject (code : ErrorCode) (messageKey : Identifier) : ApplicationError :=
  { code := if code = .forbidden then .forbidden else .invalidInput, messageKey
    retryable := false }

/-- `_mode_denial`: the gate's answer for one mode, as a switch or as a policy denial. -/
def modeDenial (source : Source) (mode : ProcessingMode) (switches : List KillSwitch)
    (policyMessageKey : Identifier) : Option ApplicationError :=
  if (authorizeProcessing source mode switches).isOk then none
  else if (engagedSwitch source mode switches).isSome then
    some (reject .forbidden killSwitchEngaged)
  else some (reject .forbidden policyMessageKey)

def validateAgainstPolicy (source : Source) (observation : SourceObservation)
    (switches : List KillSwitch) : Option ApplicationError :=
  if observation.sourceId ≠ source.sourceId then
    some (reject .invalidInput (.lit "source.observation_identity_mismatch"))
  else if observation.provenance.policyVersionId ≠ source.policy.policyVersionId then
    some (reject .invalidInput (.lit "source.observation_policy_mismatch"))
  else if truthy observation.provenance.source.url.query ∨
      truthy observation.provenance.source.url.fragment then
    some (reject .forbidden (.lit "source.url_carries_credentials"))
  else
    let payloadDenial :=
      if observation.payloadRef ≠ none then
        modeDenial source .storeRaw switches (.lit "source.raw_payload_denied")
      else none
    let parseDenial :=
      if observation.extraction ∈ interpreted then
        modeDenial source .parse switches (.lit "source.parse_denied")
      else none
    let hashDenial :=
      if observation.contentHash ≠ none ∧ source.policy.rawPayload = .denied then
        some (reject .forbidden (.lit "source.raw_hash_denied"))
      else none
    payloadDenial <|> parseDenial <|> hashDenial

/-- The checks of `record_observation` between the provider's answer and the append. -/
def judgeAnswer (source : Source) (providerId : String) (switches : List KillSwitch) :
    Result SourceObservation → Result SourceObservation
  | .error failure => .error failure
  | .ok observation =>
    if observation.provenance.providerId.text ≠ providerId then
      .error (reject .invalidInput (.lit "source.observation_provider_mismatch"))
    else match validateAgainstPolicy source observation switches with
      | some rejection => .error rejection
      | none => .ok observation

section Record

variable {σ ε ρ : Type u}

/-- The source names no adapter, or another one than the provider. -/
def identityMismatch : Identifier := .lit "source_provider.identity_mismatch"

def recordObservation (source : Source) (provider : SourceProvider σ)
    (observations : SourceObservationRepository ε ρ) (switches : List KillSwitch) (w : World σ ρ) :
    Except ε (Result SourceObservation × World σ ρ) :=
  match authorizeProcessing source .retrieve switches with
  | .error refusal => .ok (.error refusal, w)
  | .ok _ =>
    -- `adapter_id is None` or another adapter: refused before the provider is asked.
    if source.adapterId.map (·.text) ≠ some provider.providerId then
      .ok (.error (reject .invalidInput identityMismatch), w)
    else
      let (answer, state) := provider.observe source.identity w.provider
      match judgeAnswer source provider.providerId switches answer with
      | .error failure => .ok (.error failure, { w with provider := state })
      | .ok observation =>
        match observations.append observation w.observations with
        | .error raised => .error raised
        | .ok stored => .ok (.ok observation, { provider := state, observations := stored })

end Record

/-! ## What is accepted -/

/-- The rules an observation has to meet to be stored for `source`. -/
structure Acceptable (source : Source) (o : SourceObservation) (switches : List KillSwitch) :
    Prop where
  identity : o.sourceId = source.sourceId
  policyVersion : o.provenance.policyVersionId = source.policy.policyVersionId
  noQuery : truthy o.provenance.source.url.query = false
  noFragment : truthy o.provenance.source.url.fragment = false
  payload : o.payloadRef ≠ none → Authorized source .storeRaw switches
  interpretation : o.extraction ∈ interpreted → Authorized source .parse switches
  hash : o.contentHash ≠ none → source.policy.rawPayload ≠ .denied

theorem modeDenial_eq_none_iff {source : Source} {mode : ProcessingMode}
    {switches : List KillSwitch} {key : Identifier} :
    modeDenial source mode switches key = none ↔ Authorized source mode switches := by
  unfold modeDenial Authorized
  split
  · simp_all
  · split <;> simp_all

/-- A guarded denial is absent when the guard fails or the gate agrees. -/
theorem guarded_denial_eq_none_iff {c : Prop} [Decidable c] {source : Source}
    {mode : ProcessingMode} {switches : List KillSwitch} {key : Identifier} :
    (if c then modeDenial source mode switches key else none) = none ↔
      (c → Authorized source mode switches) := by
  split
  · rename_i hc
    simp [modeDenial_eq_none_iff, hc]
  · rename_i hc
    simp [hc]

/-- **Validation accepts exactly the acceptable observations.** -/
theorem validateAgainstPolicy_eq_none_iff {source : Source} {o : SourceObservation}
    {switches : List KillSwitch} :
    validateAgainstPolicy source o switches = none ↔ Acceptable source o switches := by
  unfold validateAgainstPolicy
  simp only [refuse_if_eq_none_iff, Option.orElse_eq_orElse, Option.orElse_eq_or,
    Option.or_eq_none_iff, guarded_denial_eq_none_iff, not_not, not_or, Bool.not_eq_true,
    and_true]
  constructor
  · rintro ⟨identity, policyVersion, ⟨noQuery, noFragment⟩, payload, interpretation, hash⟩
    exact ⟨identity, policyVersion, noQuery, noFragment, payload, interpretation,
      fun hhash hdenied => hash ⟨hhash, hdenied⟩⟩
  · intro h
    refine ⟨h.identity, h.policyVersion, ⟨h.noQuery, h.noFragment⟩, h.payload,
      h.interpretation, ?_⟩
    rintro ⟨hhash, hdenied⟩
    exact h.hash hhash hdenied

/-- Every refusal of the pipeline itself carries one of two codes. -/
theorem validateAgainstPolicy_code {source : Source} {o : SourceObservation}
    {switches : List KillSwitch} {e : ApplicationError}
    (h : validateAgainstPolicy source o switches = some e) :
    e.code = .forbidden ∨ e.code = .invalidInput := by
  have reject_code : ∀ code key, (reject code key).code = .forbidden ∨
      (reject code key).code = .invalidInput := by
    intro code key
    unfold reject
    split
    · exact .inl rfl
    · exact .inr rfl
  have denial_code : ∀ {mode : ProcessingMode} {key : Identifier} {e : ApplicationError},
      modeDenial source mode switches key = some e →
        e.code = .forbidden ∨ e.code = .invalidInput := by
    intro mode key e h
    unfold modeDenial at h
    repeat' split at h
    all_goals cases h
    all_goals exact reject_code _ _
  unfold validateAgainstPolicy at h
  split at h
  · cases h; exact reject_code _ _
  · split at h
    · cases h; exact reject_code _ _
    · split at h
      · cases h; exact reject_code _ _
      · simp only [Option.orElse_eq_orElse, Option.orElse_eq_or, Option.or_eq_some_iff] at h
        rcases h with h | ⟨-, h | ⟨-, h⟩⟩
        · split at h
          · exact denial_code h
          · cases h
        · split at h
          · exact denial_code h
          · cases h
        · split at h
          · cases h; exact reject_code _ _
          · cases h

theorem judgeAnswer_ok_iff {source : Source} {providerId : String} {switches : List KillSwitch}
    {answer : Result SourceObservation} {o : SourceObservation} :
    judgeAnswer source providerId switches answer = .ok o ↔
      answer = .ok o ∧ o.provenance.providerId.text = providerId ∧
        Acceptable source o switches := by
  rw [← validateAgainstPolicy_eq_none_iff]
  cases answer with
  | error failure => simp [judgeAnswer]
  | ok observation =>
    simp only [judgeAnswer]
    split
    · rename_i hne
      simp only [reduceCtorEq, Except.ok.injEq, false_iff, not_and]
      rintro rfl heq
      exact absurd heq hne
    · rename_i heq
      rw [not_not] at heq
      cases hv : validateAgainstPolicy source observation switches with
      | some rejection =>
        simp only [reduceCtorEq, Except.ok.injEq, false_iff, not_and]
        rintro rfl -
        simp [hv]
      | none =>
        simp only [Except.ok.injEq]
        constructor
        · rintro rfl
          exact ⟨rfl, heq, hv⟩
        · intro h
          exact h.1

/-- An observation that is refused is refused with one of the pipeline's two codes. -/
theorem judgeAnswer_error_code {source : Source} {providerId : String}
    {switches : List KillSwitch} {observation : SourceObservation} {e : ApplicationError}
    (h : judgeAnswer source providerId switches (.ok observation) = .error e) :
    e.code = .forbidden ∨ e.code = .invalidInput := by
  simp only [judgeAnswer] at h
  split at h
  · cases h
    exact .inr rfl
  · split at h
    · cases h
      exact validateAgainstPolicy_code (by assumption)
    · cases h

end PaxPivot
