import Mathlib
import PaxPivot.Base

/-!
# Observations, the source registry and kill switches

`domain/source.py`. Each contract with a validator is split in two: the fields
with the validator as the source has it, and the record that carries the proof
that the validator accepted them.
-/

namespace PaxPivot

inductive SourceState where
  | fresh | stale | unreachable | changedUnparsed | missing | conflict | monitorDelayed
  | noDepartures | noCompatible | restricted | reviewRequired | superseded | withdrawn
  deriving DecidableEq

def SourceState.value : SourceState → String
  | .fresh => "fresh"
  | .stale => "source_stale"
  | .unreachable => "source_unreachable"
  | .changedUnparsed => "source_changed_unparsed"
  | .missing => "source_missing"
  | .conflict => "source_conflict"
  | .monitorDelayed => "monitor_delayed"
  | .noDepartures => "no_departures_published"
  | .noCompatible => "no_compatible_opportunity"
  | .restricted => "restricted_user_open_only"
  | .reviewRequired => "parser_review_required"
  | .superseded => "superseded"
  | .withdrawn => "withdrawn"

/-- States that assert something from a successful read: they require one, and
only they go out of date. -/
def positiveStates : List SourceState := [.fresh, .noDepartures, .noCompatible]

structure SourceIdentity where
  sourceId : UUID
  url : HttpUrl
  authority : Identifier
  deriving DecidableEq

structure Provenance where
  source : SourceIdentity
  observedAt : Int
  sourceTime : Option Int
  providerId : Identifier
  policyVersionId : Identifier
  deriving DecidableEq

inductive RetrievalState where
  | succeeded | failed | notAttempted
  deriving DecidableEq

inductive ExtractionState where
  | notAttempted | exact | reviewed | failed
  deriving DecidableEq

/-- `EXACT` or `REVIEWED`: the content was interpreted. -/
def interpreted : List ExtractionState := [.exact, .reviewed]

/-! ## Observations -/

structure ObservationFields where
  observationId : UUID
  provenance : Provenance
  state : SourceState
  retrieval : RetrievalState
  extraction : ExtractionState
  parserVersion : Option Identifier
  contentHash : Option Identifier
  confidenceReasons : List Identifier
  payloadRef : Option Identifier := none
  supersedesObservationId : Option UUID := none
  deriving DecidableEq

/-- `SourceObservation.evidence_consistency`. -/
def ObservationFields.evidenceConsistency (o : ObservationFields) : Except String Unit :=
  if o.state ∈ positiveStates ∧ o.retrieval ≠ .succeeded then
    .error "Positive evidence states require successful retrieval"
  else if o.state ∈ [SourceState.noDepartures, .noCompatible] ∧ o.extraction ∉ interpreted then
    .error "Absence claims require successful interpretation"
  else if o.extraction ∈ interpreted ∧ (o.parserVersion = none ∨ o.retrieval ≠ .succeeded) then
    .error "Interpreted evidence requires parser identity and retrieval success"
  else if o.confidenceReasons = [] then
    .error "Evidence limitations/reasons must remain visible"
  else if o.payloadRef ≠ none ∧ o.retrieval ≠ .succeeded then
    .error "A retained payload requires successful retrieval"
  else if o.supersedesObservationId = some o.observationId then
    .error "An observation cannot supersede itself"
  else .ok ()

structure SourceObservation extends ObservationFields where
  consistent : toObservationFields.evidenceConsistency = .ok ()
  deriving DecidableEq

theorem ObservationFields.evidenceConsistency_ok_iff (o : ObservationFields) :
    o.evidenceConsistency = .ok () ↔
      (o.state ∈ positiveStates → o.retrieval = .succeeded) ∧
      (o.state ∈ [SourceState.noDepartures, .noCompatible] → o.extraction ∈ interpreted) ∧
      (o.extraction ∈ interpreted → o.parserVersion ≠ none ∧ o.retrieval = .succeeded) ∧
      o.confidenceReasons ≠ [] ∧ (o.payloadRef ≠ none → o.retrieval = .succeeded) ∧
      o.supersedesObservationId ≠ some o.observationId := by
  unfold evidenceConsistency
  simp only [raise_if_eq_ok_iff, not_and, not_or, not_not, and_true, ne_eq]

theorem SourceObservation.positive_succeeded (o : SourceObservation)
    (h : o.state ∈ positiveStates) : o.retrieval = .succeeded :=
  ((ObservationFields.evidenceConsistency_ok_iff _).1 o.consistent).1 h

theorem SourceObservation.absence_interpreted (o : SourceObservation)
    (h : o.state ∈ [SourceState.noDepartures, .noCompatible]) : o.extraction ∈ interpreted :=
  ((ObservationFields.evidenceConsistency_ok_iff _).1 o.consistent).2.1 h

def SourceObservation.sourceId (o : SourceObservation) : UUID := o.provenance.source.sourceId

def SourceObservation.observedAt (o : SourceObservation) : Int := o.provenance.observedAt

/-! ## Registry and processing policy -/

inductive SourceKind where
  | terminalPage | scheduleArtifact | directoryPage | policyDocument
  deriving DecidableEq

def SourceKind.value : SourceKind → String
  | .terminalPage => "terminal_page"
  | .scheduleArtifact => "schedule_artifact"
  | .directoryPage => "directory_page"
  | .policyDocument => "policy_document"

inductive PolicyReviewState where
  | approved | needsReview | paused | restricted
  deriving DecidableEq

def PolicyReviewState.value : PolicyReviewState → String
  | .approved => "approved"
  | .needsReview => "needs_review"
  | .paused => "paused"
  | .restricted => "restricted"

inductive RawPayloadPolicy where
  | denied | hashOnly | snapshot
  deriving DecidableEq

def RawPayloadPolicy.value : RawPayloadPolicy → String
  | .denied => "denied"
  | .hashOnly => "hash_only"
  | .snapshot => "snapshot"

inductive ProcessingMode where
  | retrieve | parse | storeRaw | summarize | display | aggregateHistory
  deriving DecidableEq

def ProcessingMode.value : ProcessingMode → String
  | .retrieve => "retrieve"
  | .parse => "parse"
  | .storeRaw => "store_raw"
  | .summarize => "summarize"
  | .display => "display"
  | .aggregateHistory => "aggregate_history"

/-- The members of the enumeration, in declaration order. -/
def ProcessingMode.all : List ProcessingMode :=
  [.retrieve, .parse, .storeRaw, .summarize, .display, .aggregateHistory]

structure PolicyFields where
  policyVersionId : Identifier
  reviewState : PolicyReviewState
  mayRetrieve : Bool
  mayParse : Bool
  maySummarize : Bool
  mayDisplay : Bool
  mayAggregateHistory : Bool
  rawPayload : RawPayloadPolicy
  snapshotRetentionDays : Option ℕ+ := none
  reviewer : Option Identifier
  reviewedAt : Option Int
  deriving DecidableEq

/-- `SourceProcessingPolicy.review_consistency`. -/
def PolicyFields.reviewConsistency (p : PolicyFields) : Except String Unit :=
  if p.reviewState = .approved ∧ (p.reviewer = none ∨ p.reviewedAt = none) then
    .error "Approval requires a reviewer and a review time"
  else if decide (p.rawPayload = .snapshot) ≠ p.snapshotRetentionDays.isSome then
    .error "Snapshot retention is required exactly when snapshots are allowed"
  else if p.reviewState = .restricted ∧ (p.mayRetrieve ∨ p.mayParse ∨ p.maySummarize ∨
      p.mayDisplay ∨ p.mayAggregateHistory ∨ p.rawPayload ≠ .denied) then
    .error "A restricted source allows no processing and retains nothing"
  else .ok ()

structure SourceProcessingPolicy extends PolicyFields where
  consistent : toPolicyFields.reviewConsistency = .ok ()
  deriving DecidableEq

def SourceProcessingPolicy.allows (p : SourceProcessingPolicy) (mode : ProcessingMode) : Bool :=
  if p.reviewState = .paused ∨ p.reviewState = .restricted then false
  else if p.reviewState = .needsReview then mode = .retrieve && p.mayRetrieve
  else match mode with
    | .retrieve => p.mayRetrieve
    | .parse => p.mayParse
    | .storeRaw => p.rawPayload = .snapshot
    | .summarize => p.maySummarize
    | .display => p.mayDisplay
    | .aggregateHistory => p.mayAggregateHistory

/-- A registered public source. -/
structure Source where
  identity : SourceIdentity
  name : Identifier
  kind : SourceKind
  terminalId : Option UUID
  enabled : Bool
  cadenceMinutes : Option ℕ+ := none
  adapterId : Option Identifier
  adapterVersion : Option Identifier
  policy : SourceProcessingPolicy
  createdAt : Int
  updatedAt : Int
  deriving DecidableEq

def Source.sourceId (s : Source) : UUID := s.identity.sourceId

/-- The rows of the `sources` table, in the order they are read. -/
structure Registry where
  sources : List Source
  distinct : (sources.map Source.sourceId).Nodup

/-! ## Kill switches -/

inductive KillSwitchScope where
  | source | adapter | mode
  deriving DecidableEq

structure KillSwitchFields where
  switchId : UUID
  scope : KillSwitchScope
  key : Identifier
  reason : Identifier
  engagedAt : Int
  releasedAt : Option Int
  deriving DecidableEq

/-- The two messages of `key_matches_scope`; the first quotes its two values. -/
inductive SwitchKeyError where
  | modeKey (allowed : List String) (key : String)
  | message (text : String)
  deriving DecidableEq

/-- `sorted(allowed)` of the mode message. -/
def sortedModeValues : List String :=
  (ProcessingMode.all.map ProcessingMode.value).insertionSort (· ≤ ·)

/-- `KillSwitch.key_matches_scope`. -/
def KillSwitchFields.keyMatchesScope (k : KillSwitchFields) : Except SwitchKeyError Unit :=
  match k.scope with
  | .mode =>
    if k.key.text ∉ ProcessingMode.all.map ProcessingMode.value then
      .error (.modeKey sortedModeValues k.key.text)
    else .ok ()
  | .source =>
    match UUID.parse k.key.text with
    | none => .error (.message "A source switch key must be a canonical source UUID")
    | some _ => .ok ()
  | .adapter => .ok ()

/-- Stops processing without deleting anything. -/
structure KillSwitch extends KillSwitchFields where
  keyed : toKillSwitchFields.keyMatchesScope = .ok ()
  deriving DecidableEq

def KillSwitch.engaged (k : KillSwitch) : Bool := k.releasedAt.isNone

/-- An accepted source switch has a key that `UUID` reads. -/
theorem KillSwitch.source_key_parses (k : KillSwitch) (h : k.scope = .source) :
    ∃ u, UUID.parse k.key.text = some u := by
  have keyed := k.keyed
  unfold KillSwitchFields.keyMatchesScope at keyed
  rw [h] at keyed
  cases hp : UUID.parse k.key.text with
  | none => simp [hp] at keyed
  | some u => exact ⟨u, rfl⟩

/-! ## Fixture records

The synthetic records of the repository's tests, for concrete instances. -/

def approvedPolicy : SourceProcessingPolicy where
  policyVersionId := .lit "synthetic-approved-v1"
  reviewState := .approved
  mayRetrieve := true
  mayParse := true
  maySummarize := false
  mayDisplay := true
  mayAggregateHistory := false
  rawPayload := .hashOnly
  reviewer := some (.lit "synthetic-reviewer")
  reviewedAt := some 0
  consistent := by decide

def adapterId : Identifier := .lit "synthetic-adapter"

def syntheticIncident : Identifier := .lit "synthetic_incident"

def fixtureSource (sourceId : UUID) : Source where
  identity :=
    { sourceId
      url := { scheme := "https", host := "example.invalid", path := some "/terminal" }
      authority := .lit "synthetic" }
  name := .lit "Example terminal"
  kind := .terminalPage
  terminalId := none
  enabled := true
  adapterId := some adapterId
  adapterVersion := some (.lit "v0-synthetic")
  policy := approvedPolicy
  createdAt := 0
  updatedAt := 0

/-- A successful metadata-only read of `source`. -/
def fixtureObservation (source : Source) (observationId : UUID) (observedAt : Int) :
    SourceObservation where
  observationId := observationId
  provenance :=
    { source := source.identity
      observedAt
      sourceTime := none
      providerId := adapterId
      policyVersionId := source.policy.policyVersionId }
  state := .fresh
  retrieval := .succeeded
  extraction := .notAttempted
  parserVersion := none
  contentHash := some (.lit "hash-0")
  confidenceReasons := [.lit "synthetic"]
  consistent := rfl

end PaxPivot
