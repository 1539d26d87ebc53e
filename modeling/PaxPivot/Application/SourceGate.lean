import PaxPivot.Domain.Source

/-!
# The gate every processing step passes

`application/source_gate.py`: kill switches, then the source's enabled flag,
then its processing policy.
-/

namespace PaxPivot

structure ProcessingAuthorization where
  sourceId : UUID
  mode : ProcessingMode
  policyVersionId : Identifier
  deriving DecidableEq

def forbidden (messageKey : Identifier) : ApplicationError :=
  { code := .forbidden, messageKey, retryable := false }

/-- The three tests of the loop body of `engaged_switch` on one switch. -/
def KillSwitch.covers (k : KillSwitch) (source : Source) (mode : ProcessingMode) : Bool :=
  k.engaged &&
    match k.scope with
    | .source => k.key.text = source.sourceId.str
    | .adapter => source.adapterId = some k.key
    | .mode => k.key.text = mode.value

/-- The first engaged switch that covers this source, its adapter or this mode. -/
def engagedSwitch (source : Source) (mode : ProcessingMode) (switches : List KillSwitch) :
    Option KillSwitch :=
  switches.find? (·.covers source mode)

def killSwitchEngaged : Identifier := .lit "source.kill_switch_engaged"

def authorizeProcessing (source : Source) (mode : ProcessingMode) (switches : List KillSwitch) :
    Result ProcessingAuthorization :=
  if (engagedSwitch source mode switches).isSome then .error (forbidden killSwitchEngaged)
  else if !source.enabled then .error (forbidden (.lit "source.disabled"))
  else if source.policy.allows mode then
    .ok { sourceId := source.sourceId, mode, policyVersionId := source.policy.policyVersionId }
  else if source.policy.reviewState = .restricted then .error (forbidden (.lit "source.restricted"))
  else if source.policy.reviewState = .paused then .error (forbidden (.lit "source.paused"))
  else if source.policy.reviewState ≠ .approved then
    .error (forbidden (.lit "source.not_approved"))
  else .error (forbidden (.lit "source.policy_denies_mode"))

/-- The gate answers `Success`. -/
def Authorized (source : Source) (mode : ProcessingMode) (switches : List KillSwitch) : Prop :=
  (authorizeProcessing source mode switches).isOk = true

instance (source : Source) (mode : ProcessingMode) (switches : List KillSwitch) :
    Decidable (Authorized source mode switches) :=
  inferInstanceAs (Decidable (_ = true))

theorem engagedSwitch_isSome_iff {source : Source} {mode : ProcessingMode}
    {switches : List KillSwitch} :
    (engagedSwitch source mode switches).isSome = true ↔
      ∃ k ∈ switches, k.covers source mode = true := by
  simp [engagedSwitch]

theorem authorizeProcessing_eq_ok_iff {source : Source} {mode : ProcessingMode}
    {switches : List KillSwitch} {a : ProcessingAuthorization} :
    authorizeProcessing source mode switches = .ok a ↔
      (∀ k ∈ switches, k.covers source mode = false) ∧ source.enabled = true ∧
        source.policy.allows mode = true ∧
          a = ⟨source.sourceId, mode, source.policy.policyVersionId⟩ := by
  unfold authorizeProcessing
  rw [raise_if_eq_ok_iff, raise_if_eq_ok_iff, engagedSwitch_isSome_iff]
  by_cases hallow : source.policy.allows mode = true
  · simp [hallow, @eq_comm _ a]
  · -- Every branch under the policy's refusal is a failure.
    simp [hallow, raise_if_eq_ok_iff]

/-- **The gate**: no engaged switch covers the source, it is enabled and its
policy allows the mode. -/
theorem authorized_iff {source : Source} {mode : ProcessingMode} {switches : List KillSwitch} :
    Authorized source mode switches ↔
      (∀ k ∈ switches, k.covers source mode = false) ∧ source.enabled = true ∧
        source.policy.allows mode = true := by
  unfold Authorized
  rw [isOk_iff]
  simp only [authorizeProcessing_eq_ok_iff, exists_and_left, exists_eq, and_true]

/-- A covering switch is the gate's first answer. -/
theorem authorizeProcessing_of_covers {source : Source} {mode : ProcessingMode}
    {switches : List KillSwitch} {k : KillSwitch} (hk : k ∈ switches)
    (hcovers : k.covers source mode = true) :
    authorizeProcessing source mode switches = .error (forbidden killSwitchEngaged) := by
  unfold authorizeProcessing
  rw [if_pos (engagedSwitch_isSome_iff.2 ⟨k, hk, hcovers⟩)]

/-- The gate says `source.kill_switch_engaged` for no other reason. -/
theorem covers_of_authorizeProcessing {source : Source} {mode : ProcessingMode}
    {switches : List KillSwitch}
    (h : authorizeProcessing source mode switches = .error (forbidden killSwitchEngaged)) :
    ∃ k ∈ switches, k.covers source mode = true := by
  unfold authorizeProcessing at h
  split at h
  · exact engagedSwitch_isSome_iff.1 (by assumption)
  · repeat' split at h
    all_goals first | cases h | exact absurd h (by decide)

/-- Every refusal of the gate is `forbidden` and final. -/
theorem authorizeProcessing_error {source : Source} {mode : ProcessingMode}
    {switches : List KillSwitch} {e : ApplicationError}
    (h : authorizeProcessing source mode switches = .error e) :
    e.code = .forbidden ∧ e.retryable = false := by
  unfold authorizeProcessing at h
  repeat' split at h
  all_goals cases h
  all_goals exact ⟨rfl, rfl⟩

/-- Adding switches never opens the gate. -/
theorem Authorized.of_append {source : Source} {mode : ProcessingMode}
    {switches more : List KillSwitch} (h : Authorized source mode (switches ++ more)) :
    Authorized source mode switches := by
  rw [authorized_iff] at h ⊢
  exact ⟨fun k hk => h.1 k (List.mem_append_left _ hk), h.2⟩

end PaxPivot
