import Mathlib
import PaxPivot.Domain.Terminal
import PaxPivot.Infrastructure.ObservationRepository
import PaxPivot.Library.KeyedTable

/-!
# Rows and the constraints on them

The tables of `infrastructure/database.py` column by column, the rows that
`infrastructure/repositories.py` writes for a contract, and what the schema enforces.
Columns are read as they stand: a person may have put anything in them that the
constraints let through.
-/

namespace PaxPivot

/-! ## Columns -/

structure ProvenanceRow where
  sourceId : UUID
  sourceUrl : String
  sourceAuthority : String
  observedAt : Int
  sourceTime : Option Int
  providerId : String
  policyVersionId : String
  deriving DecidableEq

structure SourceRow where
  sourceId : UUID
  url : String
  authority : String
  name : String
  kind : String
  terminalId : Option UUID
  enabled : Bool
  cadenceMinutes : Option Int
  adapterId : Option String
  adapterVersion : Option String
  policyVersionId : String
  reviewState : String
  mayRetrieve : Bool
  mayParse : Bool
  maySummarize : Bool
  mayDisplay : Bool
  mayAggregateHistory : Bool
  rawPayload : String
  snapshotRetentionDays : Option Int
  reviewer : Option String
  reviewedAt : Option Int
  createdAt : Int
  updatedAt : Int
  deriving DecidableEq

/-- The `entrance_` columns of a terminal: all set, or none. -/
structure EntranceColumns where
  kind : Option String := none
  latitude : Option ℚ := none
  longitude : Option ℚ := none
  instructions : Option String := none
  sourceId : Option UUID := none
  sourceUrl : Option String := none
  sourceAuthority : Option String := none
  observedAt : Option Int := none
  sourceTime : Option Int := none
  providerId : Option String := none
  policyVersionId : Option String := none
  deriving DecidableEq

structure TerminalRow where
  terminalId : UUID
  name : String
  installation : Option String
  timezone : String
  operationalState : String
  baseLatitude : Option ℚ
  baseLongitude : Option ℚ
  entrance : EntranceColumns
  evidence : ProvenanceRow
  createdAt : Int
  updatedAt : Int
  deriving DecidableEq

structure SourceObservationRow where
  observationId : UUID
  provenance : ProvenanceRow
  state : String
  retrieval : String
  extraction : String
  parserVersion : Option String
  contentHash : Option String
  confidenceReasons : List String
  payloadRef : Option String
  supersedesObservationId : Option UUID
  recordedAt : Int
  deriving DecidableEq

structure TerminalFactRow where
  factId : UUID
  terminalId : UUID
  kind : String
  value : String
  provenance : ProvenanceRow
  effectiveFrom : Option Int
  effectiveTo : Option Int
  recordedAt : Int
  deriving DecidableEq

/-! ## Rows of contracts -/

def provenanceRow (provenance : Provenance) : ProvenanceRow where
  sourceId := provenance.source.sourceId
  sourceUrl := provenance.source.url.str
  sourceAuthority := provenance.source.authority.text
  observedAt := provenance.observedAt
  sourceTime := provenance.sourceTime
  providerId := provenance.providerId.text
  policyVersionId := provenance.policyVersionId.text

def sourceRow (source : Source) : SourceRow :=
  let p := source.policy
  { sourceId := source.identity.sourceId
    url := source.identity.url.str
    authority := source.identity.authority.text
    name := source.name.text
    kind := source.kind.value
    terminalId := source.terminalId
    enabled := source.enabled
    cadenceMinutes := source.cadenceMinutes.map (·.val)
    adapterId := source.adapterId.map (·.text)
    adapterVersion := source.adapterVersion.map (·.text)
    policyVersionId := p.policyVersionId.text
    reviewState := p.reviewState.value
    mayRetrieve := p.mayRetrieve
    mayParse := p.mayParse
    maySummarize := p.maySummarize
    mayDisplay := p.mayDisplay
    mayAggregateHistory := p.mayAggregateHistory
    rawPayload := p.rawPayload.value
    snapshotRetentionDays := p.snapshotRetentionDays.map (·.val)
    reviewer := p.reviewer.map (·.text)
    reviewedAt := p.reviewedAt
    createdAt := source.createdAt
    updatedAt := source.updatedAt }

def entranceColumns (entrance : VerifiedEntrance) : EntranceColumns :=
  let verification := provenanceRow entrance.verification
  { kind := some entrance.kind.value
    latitude := some entrance.coordinates.latitude
    longitude := some entrance.coordinates.longitude
    instructions := some entrance.instructions.text
    sourceId := some verification.sourceId
    sourceUrl := some verification.sourceUrl
    sourceAuthority := some verification.sourceAuthority
    observedAt := some verification.observedAt
    sourceTime := verification.sourceTime
    providerId := some verification.providerId
    policyVersionId := some verification.policyVersionId }

/-- A terminal without an entrance leaves its columns out, so they are NULL. -/
def terminalRow (terminal : Terminal) (createdAt updatedAt : Int) : TerminalRow where
  terminalId := terminal.terminalId
  name := terminal.name.text
  installation := terminal.installation.map (·.text)
  timezone := terminal.timezone.text
  operationalState := terminal.operationalState.value
  baseLatitude := terminal.baseCoordinates.map (·.latitude)
  baseLongitude := terminal.baseCoordinates.map (·.longitude)
  entrance := (terminal.entrance.map entranceColumns).getD {}
  evidence := provenanceRow terminal.evidence
  createdAt
  updatedAt

/-! ## Constraints -/

/-- The CHECK constraints of `sources`, by name. -/
def sourceChecks : List (String × (SourceRow → Bool)) :=
  [("kind", fun r => r.kind ∈ [SourceKind.terminalPage, .scheduleArtifact, .directoryPage,
      .policyDocument].map SourceKind.value),
    ("review_state", fun r => r.reviewState ∈ [PolicyReviewState.approved, .needsReview, .paused,
      .restricted].map PolicyReviewState.value),
    ("raw_payload", fun r => r.rawPayload ∈ [RawPayloadPolicy.denied, .hashOnly,
      .snapshot].map RawPayloadPolicy.value),
    ("cadence_positive", fun r => r.cadenceMinutes.all (0 < ·)),
    ("snapshot_retention", fun r =>
      decide (r.rawPayload = "snapshot") == r.snapshotRetentionDays.isSome),
    ("approval_reviewed", fun r =>
      decide (r.reviewState ≠ "approved") || (r.reviewer.isSome && r.reviewedAt.isSome)),
    ("url_carries_no_credentials", fun r => urlCarriesNoCredentials r.url),
    ("restricted_allows_nothing", fun r => decide (r.reviewState ≠ "restricted") ||
      (!r.mayRetrieve && !r.mayParse && !r.maySummarize && !r.mayDisplay &&
        !r.mayAggregateHistory && decide (r.rawPayload = "denied")))]

/-- The CHECK constraints of `terminals`, by name. -/
def terminalChecks : List (String × (TerminalRow → Bool)) :=
  [("operational_state", fun r => r.operationalState ∈ [OperationalState.verified, .unknown,
      .conflict, .ended].map OperationalState.value),
    ("base_coordinates_pair", fun r => r.baseLatitude.isNone == r.baseLongitude.isNone),
    ("entrance_kind", fun r => r.entrance.kind.all (· ∈ [EntranceKind.passengerTerminal,
      .visitorCenter, .documentedGate].map EntranceKind.value)),
    ("entrance_all_or_nothing", fun r =>
      let absent := r.entrance.kind.isNone
      absent == r.entrance.latitude.isNone && absent == r.entrance.longitude.isNone &&
        absent == r.entrance.instructions.isNone && absent == r.entrance.sourceId.isNone &&
        absent == r.entrance.sourceUrl.isNone && absent == r.entrance.sourceAuthority.isNone &&
        absent == r.entrance.observedAt.isNone && absent == r.entrance.providerId.isNone &&
        absent == r.entrance.policyVersionId.isNone),
    ("url_carries_no_credentials", fun r => urlCarriesNoCredentials r.evidence.sourceUrl &&
      r.entrance.sourceUrl.all urlCarriesNoCredentials)]

/-- The first constraint a row breaks. -/
def violated {R : Type} (checks : List (String × (R → Bool))) (row : R) : Option String :=
  (checks.find? fun c => !c.2 row).map (·.1)

theorem violated_eq_none_iff {R : Type} {checks : List (String × (R → Bool))} {row : R} :
    violated checks row = none ↔ ∀ c ∈ checks, c.2 row = true := by
  unfold violated
  rw [Option.map_eq_none_iff, List.find?_eq_none]
  simp only [Bool.not_eq_true', Bool.not_eq_false]

/-- A contract makes every check of its row but the one of its URL. -/
theorem sourceRow_checked {source : Source} :
    violated sourceChecks (sourceRow source) = none ↔
      urlCarriesNoCredentials source.identity.url.str = true := by
  have consistent := source.policy.consistent
  unfold PolicyFields.reviewConsistency at consistent
  simp only [raise_if_eq_ok_iff, and_true, not_and, not_or, not_not] at consistent
  obtain ⟨approved, snapshot, restricted⟩ := consistent
  rw [violated_eq_none_iff]
  simp only [sourceChecks, List.forall_mem_cons, sourceRow, decide_eq_true_eq]
  constructor
  · rintro ⟨-, -, -, -, -, -, hurl, -⟩
    exact hurl
  · intro hurl
    refine ⟨?kind, ?state, ?raw, ?cadence, ?retention, ?reviewed, hurl, ?nothing,
      List.forall_mem_nil _⟩
    case kind =>
      generalize source.kind = kind
      cases kind <;> decide
    case state =>
      generalize source.policy.reviewState = state
      cases state <;> decide
    case raw =>
      generalize source.policy.rawPayload = raw
      cases raw <;> decide
    case cadence => cases source.cadenceMinutes <;> simp
    case retention =>
      rw [Option.isSome_map, ← snapshot]
      cases source.policy.rawPayload <;> simp [RawPayloadPolicy.value]
    case reviewed =>
      rw [Option.isSome_map]
      cases hstate : source.policy.reviewState with
      | approved =>
        obtain ⟨hreviewer, hreviewedAt⟩ := approved hstate
        simp [Option.isSome_iff_ne_none, hreviewer, hreviewedAt]
      | _ => simp [PolicyReviewState.value]
    case nothing =>
      cases hstate : source.policy.reviewState with
      | restricted =>
        obtain ⟨retrieve, parse, summarize, display, aggregate, raw⟩ := restricted hstate
        simp [retrieve, parse, summarize, display, aggregate, raw, RawPayloadPolicy.value]
      | _ => simp [PolicyReviewState.value]

/-- The tables that seeding reads, writes or could break. -/
structure Tables where
  sources : List SourceRow
  terminals : List TerminalRow
  observations : List SourceObservationRow
  facts : List TerminalFactRow
  deriving DecidableEq

namespace Tables

def findSource (t : Tables) : UUID → Option SourceRow := KeyedTable.find (·.sourceId) t.sources

def findTerminal (t : Tables) : UUID → Option TerminalRow :=
  KeyedTable.find (·.terminalId) t.terminals

/-- A reference to `sources.source_id`. -/
def hasSource (t : Tables) (id : UUID) : Bool := t.sources.any fun r => r.sourceId = id

/-- A reference to `terminals.terminal_id`. -/
def hasTerminal (t : Tables) (id : UUID) : Bool := t.terminals.any fun r => r.terminalId = id

/-- A database state that satisfies the schema. -/
structure Schema (t : Tables) : Prop where
  sourceIds : (t.sources.map (·.sourceId)).Nodup
  sourceUrls : (t.sources.map (·.url)).Nodup
  sourcesChecked : ∀ r ∈ t.sources, violated sourceChecks r = none
  sourceTerminals : ∀ r ∈ t.sources, r.terminalId.all t.hasTerminal = true
  terminalIds : (t.terminals.map (·.terminalId)).Nodup
  terminalsChecked : ∀ r ∈ t.terminals, violated terminalChecks r = none
  evidenceSources : ∀ r ∈ t.terminals, t.hasSource r.evidence.sourceId = true
  entranceSources : ∀ r ∈ t.terminals, r.entrance.sourceId.all t.hasSource = true
  observationIds : (t.observations.map (·.observationId)).Nodup
  observationSources : ∀ r ∈ t.observations, t.hasSource r.provenance.sourceId = true
  factIds : (t.facts.map (·.factId)).Nodup
  factSources : ∀ r ∈ t.facts, t.hasSource r.provenance.sourceId = true
  factTerminals : ∀ r ∈ t.facts, t.hasTerminal r.terminalId = true

end Tables

/-- Why a statement raises. -/
inductive SqlError where
  | check (constraint : String)
  | unique (constraint : String)
  | foreignKey (constraint : String)
  deriving DecidableEq

end PaxPivot
