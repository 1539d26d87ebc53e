import Mathlib
import PaxPivot.Infrastructure.Rows

/-!
# Records and their rows

The mapping of `infrastructure/repositories.py` between contracts and rows, column
by column, in both directions. A column is a name under a group; the source writes
the group as a prefix of the name. A column that a row leaves out is NULL.
-/

namespace PaxPivot

/-! ## Columns and values -/

/-- The prefixes of column names. -/
inductive ColumnGroup where
  | plain | evidence | entrance
  deriving DecidableEq

inductive ColumnName where
  | sourceId | sourceUrl | sourceAuthority | observedAt | sourceTime | providerId
  | policyVersionId | url | authority | name | kind | terminalId | enabled | cadenceMinutes
  | adapterId | adapterVersion | reviewState | mayRetrieve | mayParse | maySummarize | mayDisplay
  | mayAggregateHistory | rawPayload | snapshotRetentionDays | reviewer | reviewedAt | createdAt
  | updatedAt | observationId | state | retrieval | extraction | parserVersion | contentHash
  | confidenceReasons | payloadRef | supersedesObservationId | recordedAt | installation
  | timezone | operationalState | baseLatitude | baseLongitude | latitude | longitude
  | instructions | factId | value | effectiveFrom | effectiveTo
  deriving DecidableEq

structure Column where
  group : ColumnGroup
  name : ColumnName
  deriving DecidableEq

/-- A column without a prefix. -/
def ColumnName.plain (n : ColumnName) : Column := ⟨.plain, n⟩

/-- What a column holds. -/
inductive SqlValue where
  | null
  | uuid (id : UUID)
  | text (text : String)
  | bool (value : Bool)
  | int (value : Int)
  | float (value : ℚ)
  | instant (time : Int)
  | texts (texts : List String)
  deriving DecidableEq

/-- The value of a column that may be NULL. -/
def SqlValue.optional {α : Type} (column : α → SqlValue) (value : Option α) : SqlValue :=
  value.elim .null column

/-- A row as the columns that were given, later ones first to count. -/
abbrev RowDict := List (Column × SqlValue)

/-- `row._mapping[column]`. -/
def RowDict.read (row : RowDict) (c : Column) : SqlValue :=
  ((row.reverse.find? fun entry => entry.1 = c).map (·.2)).getD .null

/-! ## Texts of enumerations -/

def RetrievalState.value : RetrievalState → String
  | .succeeded => "succeeded"
  | .failed => "failed"
  | .notAttempted => "not_attempted"

def ExtractionState.value : ExtractionState → String
  | .notAttempted => "not_attempted"
  | .exact => "exact_text"
  | .reviewed => "human_reviewed"
  | .failed => "failed"

/-- The member with a value. -/
def memberOf {E : Type} (members : List E) (value : E → String) (text : String) : Option E :=
  members.find? fun m => value m = text

def SourceState.members : List SourceState :=
  [.fresh, .stale, .unreachable, .changedUnparsed, .missing, .conflict, .monitorDelayed,
    .noDepartures, .noCompatible, .restricted, .reviewRequired, .superseded, .withdrawn]

def RetrievalState.members : List RetrievalState := [.succeeded, .failed, .notAttempted]

def ExtractionState.members : List ExtractionState := [.notAttempted, .exact, .reviewed, .failed]

def SourceKind.members : List SourceKind :=
  [.terminalPage, .scheduleArtifact, .directoryPage, .policyDocument]

def PolicyReviewState.members : List PolicyReviewState :=
  [.approved, .needsReview, .paused, .restricted]

def RawPayloadPolicy.members : List RawPayloadPolicy := [.denied, .hashOnly, .snapshot]

def EntranceKind.members : List EntranceKind :=
  [.passengerTerminal, .visitorCenter, .documentedGate]

def OperationalState.members : List OperationalState := [.verified, .unknown, .conflict, .ended]

def TerminalFactKind.members : List TerminalFactKind :=
  [.counterHours, .phone, .email, .parking, .passengerTerminalNote, .usoAvailability, .accessNote]

section Members

variable {E : Type} {members : List E} {value : E → String}

/-- A member is read back from its value when no two members share one. -/
theorem memberOf_value (distinct : (members.map value).Nodup) {m : E} (hm : m ∈ members) :
    memberOf members value (value m) = some m := by
  unfold memberOf
  rw [List.find?_eq_some_iff_append]
  obtain ⟨earlier, later, rfl⟩ := List.append_of_mem hm
  refine ⟨by simp, earlier, later, rfl, fun m' hm' => ?_⟩
  rw [List.map_append, List.map_cons, List.nodup_append] at distinct
  have apart := distinct.2.2 (value m') (List.mem_map_of_mem hm') (value m) List.mem_cons_self
  simpa using apart

end Members

/-! ## Rows of records -/

/-- `_provenance_row`. -/
def provenanceColumns (group : ColumnGroup) (provenance : Provenance) : RowDict :=
  [(⟨group, .sourceId⟩, .uuid provenance.source.sourceId),
    (⟨group, .sourceUrl⟩, .text provenance.source.url.str),
    (⟨group, .sourceAuthority⟩, .text provenance.source.authority.text),
    (⟨group, .observedAt⟩, .instant provenance.observedAt),
    (⟨group, .sourceTime⟩, .optional .instant provenance.sourceTime),
    (⟨group, .providerId⟩, .text provenance.providerId.text),
    (⟨group, .policyVersionId⟩, .text provenance.policyVersionId.text)]

/-- `source_row`. -/
def sourceColumns (source : Source) : RowDict :=
  let p := source.policy
  [(ColumnName.sourceId.plain, .uuid source.identity.sourceId),
    (ColumnName.url.plain, .text source.identity.url.str),
    (ColumnName.authority.plain, .text source.identity.authority.text),
    (ColumnName.name.plain, .text source.name.text),
    (ColumnName.kind.plain, .text source.kind.value),
    (ColumnName.terminalId.plain, .optional .uuid source.terminalId),
    (ColumnName.enabled.plain, .bool source.enabled),
    (ColumnName.cadenceMinutes.plain, .optional (fun n : ℕ+ => .int n.val) source.cadenceMinutes),
    (ColumnName.adapterId.plain, .optional (fun a : Identifier => .text a.text) source.adapterId),
    (ColumnName.adapterVersion.plain,
      .optional (fun a : Identifier => .text a.text) source.adapterVersion),
    (ColumnName.policyVersionId.plain, .text p.policyVersionId.text),
    (ColumnName.reviewState.plain, .text p.reviewState.value),
    (ColumnName.mayRetrieve.plain, .bool p.mayRetrieve),
    (ColumnName.mayParse.plain, .bool p.mayParse),
    (ColumnName.maySummarize.plain, .bool p.maySummarize),
    (ColumnName.mayDisplay.plain, .bool p.mayDisplay),
    (ColumnName.mayAggregateHistory.plain, .bool p.mayAggregateHistory),
    (ColumnName.rawPayload.plain, .text p.rawPayload.value),
    (ColumnName.snapshotRetentionDays.plain,
      .optional (fun n : ℕ+ => .int n.val) p.snapshotRetentionDays),
    (ColumnName.reviewer.plain, .optional (fun a : Identifier => .text a.text) p.reviewer),
    (ColumnName.reviewedAt.plain, .optional .instant p.reviewedAt),
    (ColumnName.createdAt.plain, .instant source.createdAt),
    (ColumnName.updatedAt.plain, .instant source.updatedAt)]

/-- `observation_row`; the server adds `recorded_at`. -/
def observationColumns (observation : SourceObservation) : RowDict :=
  [(ColumnName.observationId.plain, .uuid observation.observationId)] ++
    provenanceColumns .plain observation.provenance ++
    [(ColumnName.state.plain, .text observation.state.value),
      (ColumnName.retrieval.plain, .text observation.retrieval.value),
      (ColumnName.extraction.plain, .text observation.extraction.value),
      (ColumnName.parserVersion.plain,
        .optional (fun a : Identifier => .text a.text) observation.parserVersion),
      (ColumnName.contentHash.plain,
        .optional (fun a : Identifier => .text a.text) observation.contentHash),
      (ColumnName.confidenceReasons.plain, .texts (observation.confidenceReasons.map (·.text))),
      (ColumnName.payloadRef.plain,
        .optional (fun a : Identifier => .text a.text) observation.payloadRef),
      (ColumnName.supersedesObservationId.plain,
        .optional .uuid observation.supersedesObservationId)]

/-- The columns `terminal_row` adds for an entrance. -/
def entranceDict (entrance : VerifiedEntrance) : RowDict :=
  [(⟨.entrance, .kind⟩, .text entrance.kind.value),
    (⟨.entrance, .latitude⟩, .float entrance.coordinates.latitude),
    (⟨.entrance, .longitude⟩, .float entrance.coordinates.longitude),
    (⟨.entrance, .instructions⟩, .text entrance.instructions.text)] ++
    provenanceColumns .entrance entrance.verification

/-- `terminal_row`; without an entrance its columns are left out. -/
def terminalColumns (terminal : Terminal) (createdAt updatedAt : Int) : RowDict :=
  [(ColumnName.terminalId.plain, .uuid terminal.terminalId),
    (ColumnName.name.plain, .text terminal.name.text),
    (ColumnName.installation.plain,
      .optional (fun a : Identifier => .text a.text) terminal.installation),
    (ColumnName.timezone.plain, .text terminal.timezone.text),
    (ColumnName.operationalState.plain, .text terminal.operationalState.value),
    (ColumnName.baseLatitude.plain,
      .optional (fun c : Coordinates => .float c.latitude) terminal.baseCoordinates),
    (ColumnName.baseLongitude.plain,
      .optional (fun c : Coordinates => .float c.longitude) terminal.baseCoordinates)] ++
    provenanceColumns .evidence terminal.evidence ++
    [(ColumnName.createdAt.plain, .instant createdAt),
      (ColumnName.updatedAt.plain, .instant updatedAt)] ++
    terminal.entrance.elim [] entranceDict

/-- `fact_row`. -/
def factColumns (fact : TerminalOperationalFact) : RowDict :=
  [(ColumnName.factId.plain, .uuid fact.factId),
    (ColumnName.terminalId.plain, .uuid fact.terminalId),
    (ColumnName.kind.plain, .text fact.kind.value),
    (ColumnName.value.plain, .text fact.value.text)] ++
    provenanceColumns .plain fact.provenance ++
    [(ColumnName.effectiveFrom.plain, .optional .instant fact.effectiveFrom),
      (ColumnName.effectiveTo.plain, .optional .instant fact.effectiveTo),
      (ColumnName.recordedAt.plain, .instant fact.recordedAt)]

/-! ## Records of rows -/

/-- What the contracts' validation asks of a library: `HttpUrl(text)`, `none` for a
`ValidationError`, and whether `ZoneInfo` knows a name. -/
structure Validators where
  httpUrl : String → Option HttpUrl
  zone : String → Bool

namespace SqlValue

def uuid? : SqlValue → Option UUID
  | uuid id => some id
  | _ => none

def text? : SqlValue → Option String
  | text t => some t
  | _ => none

def bool? : SqlValue → Option Bool
  | bool value => some value
  | _ => none

def int? : SqlValue → Option Int
  | int value => some value
  | _ => none

def float? : SqlValue → Option ℚ
  | float value => some value
  | _ => none

def instant? : SqlValue → Option Int
  | instant time => some time
  | _ => none

def texts? : SqlValue → Option (List String)
  | texts ts => some ts
  | _ => none

def identifier? (v : SqlValue) : Option Identifier := v.text?.bind Identifier.validate

/-- An integer above zero. -/
def positive? (v : SqlValue) : Option ℕ+ :=
  v.int?.bind fun n => if h : 0 < n then some ⟨n.toNat, by omega⟩ else none

def member? {E : Type} (members : List E) (value : E → String) (v : SqlValue) : Option E :=
  v.text?.bind (memberOf members value)

/-- `T | None`. -/
def nullable {α : Type} (read : SqlValue → Option α) (v : SqlValue) : Option (Option α) :=
  if v = null then some none else (read v).map some

end SqlValue

/-- `FactText` of a raw string. -/
def FactText.validate (raw : String) : Option FactText :=
  let text := String.ofList (PyText.stripChars PyText.whiteSpace raw.toList)
  if h : PyText.stripChars PyText.whiteSpace text.toList = text.toList ∧
      1 ≤ text.length ∧ text.length ≤ 2000 then
    some ⟨text, h.1, h.2⟩
  else none

def Coordinates.validate (latitude longitude : ℚ) : Option Coordinates :=
  if h : (-90 ≤ latitude ∧ latitude ≤ 90) ∧ (-180 ≤ longitude ∧ longitude ≤ 180) then
    some ⟨latitude, longitude, h⟩
  else none

variable (py : Validators)

/-- `_provenance`. -/
def Provenance.ofRow (group : ColumnGroup) (row : RowDict) : Option Provenance := do
  let sourceId ← (row.read ⟨group, .sourceId⟩).uuid?
  let url ← (row.read ⟨group, .sourceUrl⟩).text?.bind py.httpUrl
  let authority ← (row.read ⟨group, .sourceAuthority⟩).identifier?
  let observedAt ← (row.read ⟨group, .observedAt⟩).instant?
  let sourceTime ← (row.read ⟨group, .sourceTime⟩).nullable SqlValue.instant?
  let providerId ← (row.read ⟨group, .providerId⟩).identifier?
  let policyVersionId ← (row.read ⟨group, .policyVersionId⟩).identifier?
  some { source := { sourceId, url, authority }, observedAt, sourceTime, providerId
         policyVersionId }

/-- The policy of `_source`. -/
def SourceProcessingPolicy.ofRow (row : RowDict) : Option SourceProcessingPolicy := do
  let policyVersionId ← (row.read ColumnName.policyVersionId.plain).identifier?
  let reviewState ← (row.read ColumnName.reviewState.plain).member? PolicyReviewState.members
    PolicyReviewState.value
  let mayRetrieve ← (row.read ColumnName.mayRetrieve.plain).bool?
  let mayParse ← (row.read ColumnName.mayParse.plain).bool?
  let maySummarize ← (row.read ColumnName.maySummarize.plain).bool?
  let mayDisplay ← (row.read ColumnName.mayDisplay.plain).bool?
  let mayAggregateHistory ← (row.read ColumnName.mayAggregateHistory.plain).bool?
  let rawPayload ← (row.read ColumnName.rawPayload.plain).member? RawPayloadPolicy.members
    RawPayloadPolicy.value
  let snapshotRetentionDays ←
    (row.read ColumnName.snapshotRetentionDays.plain).nullable SqlValue.positive?
  let reviewer ← (row.read ColumnName.reviewer.plain).nullable SqlValue.identifier?
  let reviewedAt ← (row.read ColumnName.reviewedAt.plain).nullable SqlValue.instant?
  let fields : PolicyFields :=
    { policyVersionId, reviewState, mayRetrieve, mayParse, maySummarize, mayDisplay
      mayAggregateHistory, rawPayload, snapshotRetentionDays, reviewer, reviewedAt }
  if h : fields.reviewConsistency = .ok () then some ⟨fields, h⟩ else none

/-- `_source`. -/
def Source.ofRow (row : RowDict) : Option Source := do
  let sourceId ← (row.read ColumnName.sourceId.plain).uuid?
  let url ← (row.read ColumnName.url.plain).text?.bind py.httpUrl
  let authority ← (row.read ColumnName.authority.plain).identifier?
  let name ← (row.read ColumnName.name.plain).identifier?
  let kind ← (row.read ColumnName.kind.plain).member? SourceKind.members SourceKind.value
  let terminalId ← (row.read ColumnName.terminalId.plain).nullable SqlValue.uuid?
  let enabled ← (row.read ColumnName.enabled.plain).bool?
  let cadenceMinutes ← (row.read ColumnName.cadenceMinutes.plain).nullable SqlValue.positive?
  let adapterId ← (row.read ColumnName.adapterId.plain).nullable SqlValue.identifier?
  let adapterVersion ← (row.read ColumnName.adapterVersion.plain).nullable SqlValue.identifier?
  let policy ← SourceProcessingPolicy.ofRow row
  let createdAt ← (row.read ColumnName.createdAt.plain).instant?
  let updatedAt ← (row.read ColumnName.updatedAt.plain).instant?
  some { identity := { sourceId, url, authority }, name, kind, terminalId, enabled, cadenceMinutes
         adapterId, adapterVersion, policy, createdAt, updatedAt }

/-- `_observation`. -/
def SourceObservation.ofRow (row : RowDict) : Option SourceObservation := do
  let observationId ← (row.read ColumnName.observationId.plain).uuid?
  let provenance ← Provenance.ofRow py .plain row
  let state ← (row.read ColumnName.state.plain).member? SourceState.members SourceState.value
  let retrieval ← (row.read ColumnName.retrieval.plain).member? RetrievalState.members
    RetrievalState.value
  let extraction ← (row.read ColumnName.extraction.plain).member? ExtractionState.members
    ExtractionState.value
  let parserVersion ← (row.read ColumnName.parserVersion.plain).nullable SqlValue.identifier?
  let contentHash ← (row.read ColumnName.contentHash.plain).nullable SqlValue.identifier?
  let confidenceReasons ← (row.read ColumnName.confidenceReasons.plain).texts?.bind
    fun texts => texts.mapM Identifier.validate
  let payloadRef ← (row.read ColumnName.payloadRef.plain).nullable SqlValue.identifier?
  let supersedesObservationId ←
    (row.read ColumnName.supersedesObservationId.plain).nullable SqlValue.uuid?
  let fields : ObservationFields :=
    { observationId, provenance, state, retrieval, extraction, parserVersion, contentHash
      confidenceReasons, payloadRef, supersedesObservationId }
  if h : fields.evidenceConsistency = .ok () then some ⟨fields, h⟩ else none

/-- The entrance of `_terminal`. -/
def VerifiedEntrance.ofRow (row : RowDict) : Option VerifiedEntrance := do
  let kind ← (row.read ⟨.entrance, .kind⟩).member? EntranceKind.members EntranceKind.value
  let latitude ← (row.read ⟨.entrance, .latitude⟩).float?
  let longitude ← (row.read ⟨.entrance, .longitude⟩).float?
  let coordinates ← Coordinates.validate latitude longitude
  let verification ← Provenance.ofRow py .entrance row
  let instructions ← (row.read ⟨.entrance, .instructions⟩).identifier?
  some { kind, coordinates, verification, instructions }

/-- The base coordinates of `_terminal`. -/
def Coordinates.ofRow (row : RowDict) : Option Coordinates := do
  let latitude ← (row.read ColumnName.baseLatitude.plain).float?
  let longitude ← (row.read ColumnName.baseLongitude.plain).float?
  Coordinates.validate latitude longitude

/-- `entrance` of `_terminal`: its kind says whether there is one. -/
def Terminal.entranceOfRow (row : RowDict) : Option (Option VerifiedEntrance) :=
  if row.read ⟨.entrance, .kind⟩ ≠ .null then (VerifiedEntrance.ofRow py row).map some
  else some none

/-- `base` of `_terminal`: the latitude says whether there are coordinates. -/
def Terminal.baseOfRow (row : RowDict) : Option (Option Coordinates) :=
  if row.read ColumnName.baseLatitude.plain ≠ .null then (Coordinates.ofRow row).map some
  else some none

/-- `_terminal`. -/
def Terminal.ofRow (row : RowDict) : Option Terminal := do
  let entrance ← Terminal.entranceOfRow py row
  let baseCoordinates ← Terminal.baseOfRow row
  let terminalId ← (row.read ColumnName.terminalId.plain).uuid?
  let name ← (row.read ColumnName.name.plain).identifier?
  let installation ← (row.read ColumnName.installation.plain).nullable SqlValue.identifier?
  let timezone ← (row.read ColumnName.timezone.plain).identifier?
  let operationalState ← (row.read ColumnName.operationalState.plain).member?
    OperationalState.members OperationalState.value
  let evidence ← Provenance.ofRow py .evidence row
  if py.zone timezone.text then
    some { terminalId, name, installation, timezone, operationalState, evidence, entrance
           baseCoordinates }
  else none

/-- `_fact`. -/
def TerminalOperationalFact.ofRow (row : RowDict) : Option TerminalOperationalFact := do
  let factId ← (row.read ColumnName.factId.plain).uuid?
  let terminalId ← (row.read ColumnName.terminalId.plain).uuid?
  let kind ← (row.read ColumnName.kind.plain).member? TerminalFactKind.members
    TerminalFactKind.value
  let value ← (row.read ColumnName.value.plain).text?.bind FactText.validate
  let provenance ← Provenance.ofRow py .plain row
  let effectiveFrom ← (row.read ColumnName.effectiveFrom.plain).nullable SqlValue.instant?
  let effectiveTo ← (row.read ColumnName.effectiveTo.plain).nullable SqlValue.instant?
  let recordedAt ← (row.read ColumnName.recordedAt.plain).instant?
  let fields : FactFields :=
    { factId, terminalId, kind, value, provenance, effectiveFrom, effectiveTo, recordedAt }
  if h : fields.validityWindow = .ok () then some ⟨fields, h⟩ else none

/-! ## Reading back -/

section Values

theorem identifier?_text (a : Identifier) : (SqlValue.text a.text).identifier? = some a := by
  simp [SqlValue.identifier?, SqlValue.text?, Identifier.validate_text]

theorem positive?_int (n : ℕ+) : (SqlValue.int n.val).positive? = some n := by
  have := n.pos
  simp only [SqlValue.positive?, SqlValue.int?, Option.bind_some]
  rw [dif_pos (by exact_mod_cast this)]
  rfl

theorem member?_text {E : Type} {members : List E} {value : E → String}
    (distinct : (members.map value).Nodup) {m : E} (hm : m ∈ members) :
    (SqlValue.text (value m)).member? members value = some m :=
  memberOf_value distinct hm

theorem nullable_optional {α : Type} {column : α → SqlValue} {read : SqlValue → Option α}
    (back : ∀ a, read (column a) = some a) (given : ∀ a, column a ≠ .null) (value : Option α) :
    (SqlValue.optional column value).nullable read = some value := by
  cases value with
  | none => rfl
  | some a => simp [SqlValue.optional, SqlValue.nullable, given a, back a]

theorem nullable_identifier (a : Option Identifier) :
    (SqlValue.optional (fun a : Identifier => .text a.text) a).nullable SqlValue.identifier? =
      some a :=
  nullable_optional identifier?_text (by simp) a

theorem nullable_positive (n : Option ℕ+) :
    (SqlValue.optional (fun n : ℕ+ => .int n.val) n).nullable SqlValue.positive? = some n :=
  nullable_optional positive?_int (by simp) n

theorem nullable_instant (t : Option Int) :
    (SqlValue.optional SqlValue.instant t).nullable SqlValue.instant? = some t := by
  have back : ∀ t, (SqlValue.instant t).instant? = some t := fun _ => rfl
  exact nullable_optional back (by simp) t

theorem nullable_uuid (u : Option UUID) :
    (SqlValue.optional SqlValue.uuid u).nullable SqlValue.uuid? = some u := by
  have back : ∀ u, (SqlValue.uuid u).uuid? = some u := fun _ => rfl
  exact nullable_optional back (by simp) u

theorem FactText.validate_text (t : FactText) : FactText.validate t.text = some t := by
  unfold FactText.validate
  simp only [t.stripped, String.ofList_toList, t.sized, and_self, ↓reduceDIte]

theorem Coordinates.validate_self (c : Coordinates) :
    Coordinates.validate c.latitude c.longitude = some c := by
  unfold Coordinates.validate
  rw [dif_pos c.inRange]

theorem mapM_validate (reasons : List Identifier) :
    (reasons.map (·.text)).mapM Identifier.validate = some reasons := by
  induction reasons with
  | nil => rfl
  | cons a rest ih => simp [List.mapM_cons, Identifier.validate_text, ih]

end Values

/-- A row with these columns, and perhaps others. -/
def RowDict.Holds (row columns : RowDict) : Prop := ∀ e ∈ columns, row.read e.1 = e.2

/-- A row without repeated columns holds what it lists. -/
theorem RowDict.holds_self {row : RowDict} (distinct : (row.map (·.1)).Nodup) :
    row.Holds row := by
  intro e he
  unfold RowDict.read
  have reversed : (row.reverse.map (·.1)).Nodup := by
    rw [List.map_reverse]
    exact List.nodup_reverse.2 distinct
  have found : row.reverse.find? (fun entry => entry.1 = e.1) = some e := by
    rw [List.find?_eq_some_iff_append]
    obtain ⟨earlier, later, split⟩ := List.append_of_mem (List.mem_reverse.2 he)
    refine ⟨by simp, earlier, later, split, fun entry hentry => ?_⟩
    rw [split, List.map_append, List.map_cons, List.nodup_append] at reversed
    have apart := reversed.2.2 entry.1 (List.mem_map_of_mem hentry) e.1 List.mem_cons_self
    simpa using apart
  rw [found]
  rfl

theorem RowDict.holds_append {row a b : RowDict} :
    row.Holds (a ++ b) ↔ row.Holds a ∧ row.Holds b :=
  List.forall_mem_append

/-- A column that is left out reads as NULL. -/
theorem RowDict.read_omitted {row : RowDict} {c : Column} (h : c ∉ row.map (·.1)) :
    row.read c = .null := by
  unfold RowDict.read
  have none : row.reverse.find? (fun entry => entry.1 = c) = none := by
    rw [List.find?_eq_none]
    intro entry hentry
    simp only [decide_eq_true_eq]
    rintro rfl
    exact h (List.mem_map_of_mem (List.mem_reverse.1 hentry))
  rw [none]
  rfl

section Records

variable {py : Validators} {row : RowDict}

theorem Provenance.ofRow_eq {group : ColumnGroup} {provenance : Provenance}
    (holds : row.Holds (provenanceColumns group provenance))
    (url : py.httpUrl provenance.source.url.str = some provenance.source.url) :
    Provenance.ofRow py group row = some provenance := by
  simp only [RowDict.Holds, provenanceColumns, List.forall_mem_cons] at holds
  obtain ⟨h1, h2, h3, h4, h5, h6, h7, -⟩ := holds
  unfold Provenance.ofRow
  simp only [h1, h2, h3, h4, h5, h6, h7, identifier?_text, nullable_instant, SqlValue.uuid?,
    SqlValue.text?, SqlValue.instant?, Option.bind_some, url, Option.bind_eq_bind]

theorem SourceProcessingPolicy.ofRow_eq {source : Source}
    (holds : row.Holds (sourceColumns source)) :
    SourceProcessingPolicy.ofRow row = some source.policy := by
  simp only [RowDict.Holds, sourceColumns, List.forall_mem_cons] at holds
  obtain ⟨-, -, -, -, -, -, -, -, -, -, h11, h12, h13, h14, h15, h16, h17, h18, h19, h20, h21, -⟩ :=
    holds
  have state : (SqlValue.text source.policy.reviewState.value).member? PolicyReviewState.members
      PolicyReviewState.value = some source.policy.reviewState :=
    member?_text (by decide) (by cases source.policy.reviewState <;> decide)
  have raw : (SqlValue.text source.policy.rawPayload.value).member? RawPayloadPolicy.members
      RawPayloadPolicy.value = some source.policy.rawPayload :=
    member?_text (by decide) (by cases source.policy.rawPayload <;> decide)
  unfold SourceProcessingPolicy.ofRow
  simp only [h11, h12, h13, h14, h15, h16, h17, h18, h19, h20, h21, state, raw, identifier?_text,
    nullable_positive, nullable_identifier, nullable_instant, SqlValue.bool?, Option.bind_some,
    Option.bind_eq_bind]
  exact dif_pos source.policy.consistent

theorem Source.ofRow_eq {source : Source} (holds : row.Holds (sourceColumns source))
    (url : py.httpUrl source.identity.url.str = some source.identity.url) :
    Source.ofRow py row = some source := by
  have policy := SourceProcessingPolicy.ofRow_eq holds
  simp only [RowDict.Holds, sourceColumns, List.forall_mem_cons] at holds
  obtain ⟨h1, h2, h3, h4, h5, h6, h7, h8, h9, h10, -, -, -, -, -, -, -, -, -, -, -, h22, h23, -⟩ :=
    holds
  have kind : (SqlValue.text source.kind.value).member? SourceKind.members SourceKind.value =
      some source.kind := member?_text (by decide) (by cases source.kind <;> decide)
  unfold Source.ofRow
  simp only [h1, h2, h3, h4, h5, h6, h7, h8, h9, h10, h22, h23, kind, policy, identifier?_text,
    nullable_positive, nullable_identifier, nullable_uuid, SqlValue.uuid?, SqlValue.text?,
    SqlValue.bool?, SqlValue.instant?, Option.bind_some, url, Option.bind_eq_bind]

theorem SourceObservation.ofRow_eq {observation : SourceObservation}
    (holds : row.Holds (observationColumns observation))
    (url : py.httpUrl observation.provenance.source.url.str =
      some observation.provenance.source.url) :
    SourceObservation.ofRow py row = some observation := by
  unfold observationColumns at holds
  rw [RowDict.holds_append, RowDict.holds_append] at holds
  obtain ⟨⟨first, provenance⟩, rest⟩ := holds
  have provenance := Provenance.ofRow_eq provenance url
  simp only [RowDict.Holds, List.forall_mem_cons] at first rest
  obtain ⟨h1, -⟩ := first
  obtain ⟨h2, h3, h4, h5, h6, h7, h8, h9, -⟩ := rest
  have state : (SqlValue.text observation.state.value).member? SourceState.members
      SourceState.value = some observation.state :=
    member?_text (by decide) (by cases observation.state <;> decide)
  have retrieval : (SqlValue.text observation.retrieval.value).member? RetrievalState.members
      RetrievalState.value = some observation.retrieval :=
    member?_text (by decide) (by cases observation.retrieval <;> decide)
  have extraction : (SqlValue.text observation.extraction.value).member? ExtractionState.members
      ExtractionState.value = some observation.extraction :=
    member?_text (by decide) (by cases observation.extraction <;> decide)
  unfold SourceObservation.ofRow
  simp only [h1, h2, h3, h4, h5, h6, h7, h8, h9, provenance, state, retrieval, extraction,
    mapM_validate, nullable_identifier, nullable_uuid, SqlValue.uuid?, SqlValue.texts?,
    Option.bind_some, Option.bind_eq_bind]
  exact dif_pos observation.consistent

theorem VerifiedEntrance.ofRow_eq {entrance : VerifiedEntrance}
    (holds : row.Holds (entranceDict entrance))
    (url : py.httpUrl entrance.verification.source.url.str =
      some entrance.verification.source.url) :
    VerifiedEntrance.ofRow py row = some entrance := by
  unfold entranceDict at holds
  rw [RowDict.holds_append] at holds
  obtain ⟨own, verification⟩ := holds
  have verification := Provenance.ofRow_eq verification url
  simp only [RowDict.Holds, List.forall_mem_cons] at own
  obtain ⟨h1, h2, h3, h4, -⟩ := own
  have kind : (SqlValue.text entrance.kind.value).member? EntranceKind.members EntranceKind.value =
      some entrance.kind := member?_text (by decide) (by cases entrance.kind <;> decide)
  unfold VerifiedEntrance.ofRow
  simp only [h1, h2, h3, h4, kind, verification, identifier?_text, Coordinates.validate_self,
    SqlValue.float?, Option.bind_some, Option.bind_eq_bind]

/-- A row of a terminal: without an entrance the column that says so is NULL. -/
theorem Terminal.ofRow_eq {terminal : Terminal} {createdAt updatedAt : Int}
    (holds : row.Holds (terminalColumns terminal createdAt updatedAt))
    (absent : terminal.entrance = none → row.read ⟨.entrance, .kind⟩ = .null)
    (zone : py.zone terminal.timezone.text = true)
    (evidenceUrl : py.httpUrl terminal.evidence.source.url.str =
      some terminal.evidence.source.url)
    (entranceUrl : ∀ entrance ∈ terminal.entrance,
      py.httpUrl entrance.verification.source.url.str = some entrance.verification.source.url) :
    Terminal.ofRow py row = some terminal := by
  unfold terminalColumns at holds
  rw [RowDict.holds_append, RowDict.holds_append, RowDict.holds_append] at holds
  obtain ⟨⟨⟨own, evidence⟩, -⟩, entrance⟩ := holds
  have evidence := Provenance.ofRow_eq evidence evidenceUrl
  simp only [RowDict.Holds, List.forall_mem_cons] at own
  obtain ⟨h1, h2, h3, h4, h5, h6, h7, -⟩ := own
  have operational : (SqlValue.text terminal.operationalState.value).member?
      OperationalState.members OperationalState.value = some terminal.operationalState :=
    member?_text (by decide) (by cases terminal.operationalState <;> decide)
  have entranceRead : Terminal.entranceOfRow py row = some terminal.entrance := by
    unfold Terminal.entranceOfRow
    cases hentrance : terminal.entrance with
    | none => rw [if_neg (not_not.2 (absent hentrance))]
    | some found =>
      rw [hentrance] at entrance
      have kind : row.read ⟨.entrance, .kind⟩ = .text found.kind.value :=
        entrance _ (List.mem_append_left _ List.mem_cons_self)
      rw [if_pos (by simp [kind]), VerifiedEntrance.ofRow_eq entrance (entranceUrl found hentrance)]
      rfl
  have baseRead : Terminal.baseOfRow row = some terminal.baseCoordinates := by
    unfold Terminal.baseOfRow Coordinates.ofRow
    rw [h6, h7]
    cases terminal.baseCoordinates with
    | none => rfl
    | some base =>
      simp [SqlValue.optional, SqlValue.float?, Coordinates.validate_self]
  unfold Terminal.ofRow
  simp only [entranceRead, baseRead, h1, h2, h3, h4, h5, operational, evidence, identifier?_text,
    nullable_identifier, SqlValue.uuid?, Option.bind_some, Option.bind_eq_bind, zone, ↓reduceIte]

theorem TerminalOperationalFact.ofRow_eq {fact : TerminalOperationalFact}
    (holds : row.Holds (factColumns fact))
    (url : py.httpUrl fact.provenance.source.url.str = some fact.provenance.source.url) :
    TerminalOperationalFact.ofRow py row = some fact := by
  unfold factColumns at holds
  rw [RowDict.holds_append, RowDict.holds_append] at holds
  obtain ⟨⟨own, provenance⟩, rest⟩ := holds
  have provenance := Provenance.ofRow_eq provenance url
  simp only [RowDict.Holds, List.forall_mem_cons] at own rest
  obtain ⟨h1, h2, h3, h4, -⟩ := own
  obtain ⟨h5, h6, h7, -⟩ := rest
  have kind : (SqlValue.text fact.kind.value).member? TerminalFactKind.members
      TerminalFactKind.value = some fact.kind :=
    member?_text (by decide) (by cases fact.kind <;> decide)
  unfold TerminalOperationalFact.ofRow
  simp only [h1, h2, h3, h4, h5, h6, h7, provenance, kind, FactText.validate_text,
    nullable_instant, SqlValue.uuid?, SqlValue.text?, SqlValue.instant?, Option.bind_some,
    Option.bind_eq_bind]
  exact dif_pos fact.valid

end Records

/-! ## No column twice -/

theorem sourceColumns_distinct (source : Source) : ((sourceColumns source).map (·.1)).Nodup := by
  simp [sourceColumns, ColumnName.plain]

theorem observationColumns_distinct (observation : SourceObservation) :
    ((observationColumns observation).map (·.1)).Nodup := by
  simp [observationColumns, provenanceColumns, ColumnName.plain]

theorem factColumns_distinct (fact : TerminalOperationalFact) :
    ((factColumns fact).map (·.1)).Nodup := by
  simp [factColumns, provenanceColumns, ColumnName.plain]

theorem terminalColumns_distinct (terminal : Terminal) (createdAt updatedAt : Int) :
    ((terminalColumns terminal createdAt updatedAt).map (·.1)).Nodup := by
  cases h : terminal.entrance <;>
    simp [terminalColumns, h, entranceDict, provenanceColumns, ColumnName.plain]

/-- The row of a terminal without an entrance has no entrance columns. -/
theorem terminalColumns_no_entrance {terminal : Terminal} {createdAt updatedAt : Int}
    (absent : terminal.entrance = none) :
    (terminalColumns terminal createdAt updatedAt).read ⟨.entrance, .kind⟩ = .null := by
  apply RowDict.read_omitted
  simp [terminalColumns, absent, provenanceColumns, ColumnName.plain]

/-- **Row mapping loses nothing.** A record is read back from its own row, as far as
its URLs parse as themselves and its zone is known. -/
theorem rows_round_trip (py : Validators) (observation : SourceObservation) (source : Source)
    (terminal : Terminal) (createdAt updatedAt : Int) (fact : TerminalOperationalFact)
    (zone : py.zone terminal.timezone.text = true)
    (observationUrl : py.httpUrl observation.provenance.source.url.str =
      some observation.provenance.source.url)
    (sourceUrl : py.httpUrl source.identity.url.str = some source.identity.url)
    (evidenceUrl : py.httpUrl terminal.evidence.source.url.str =
      some terminal.evidence.source.url)
    (entranceUrl : ∀ entrance ∈ terminal.entrance,
      py.httpUrl entrance.verification.source.url.str = some entrance.verification.source.url)
    (factUrl : py.httpUrl fact.provenance.source.url.str = some fact.provenance.source.url) :
    SourceObservation.ofRow py (observationColumns observation) = some observation ∧
      Source.ofRow py (sourceColumns source) = some source ∧
      Terminal.ofRow py (terminalColumns terminal createdAt updatedAt) = some terminal ∧
      TerminalOperationalFact.ofRow py (factColumns fact) = some fact :=
  ⟨SourceObservation.ofRow_eq (RowDict.holds_self (observationColumns_distinct observation))
      observationUrl,
    Source.ofRow_eq (RowDict.holds_self (sourceColumns_distinct source)) sourceUrl,
    Terminal.ofRow_eq (RowDict.holds_self (terminalColumns_distinct terminal createdAt updatedAt))
      terminalColumns_no_entrance zone evidenceUrl entranceUrl,
    TerminalOperationalFact.ofRow_eq (RowDict.holds_self (factColumns_distinct fact)) factUrl⟩

/-- The URL and the zone of the fixture records, and no others. -/
def fixtureValidators : Validators where
  httpUrl text :=
    if text = (fixtureSource 1).identity.url.str then some (fixtureSource 1).identity.url else none
  zone name := name = "America/New_York"

/-- A terminal with all its optional parts. -/
def furnishedTerminal : Terminal :=
  { fixtureTerminal 1 with
    installation := some (.lit "Example Field")
    entrance := some
      { kind := .documentedGate
        coordinates := ⟨12, 34, by norm_num⟩
        verification := fixtureProvenance (fixtureSource 1) 7
        instructions := .lit "Gate 3" }
    baseCoordinates := some ⟨1, 2, by norm_num⟩ }

theorem fixture_rows_round_trip :
    SourceObservation.ofRow fixtureValidators
        (observationColumns (fixtureObservation (fixtureSource 1) 10 0)) =
        some (fixtureObservation (fixtureSource 1) 10 0) ∧
      Source.ofRow fixtureValidators (sourceColumns (fixtureSource 1)) = some (fixtureSource 1) ∧
      Terminal.ofRow fixtureValidators (terminalColumns furnishedTerminal 0 0) =
        some furnishedTerminal ∧
      TerminalOperationalFact.ofRow fixtureValidators
        (factColumns (fixtureFact 1 (fixtureSource 1))) =
        some (fixtureFact 1 (fixtureSource 1)) := by
  have url : fixtureValidators.httpUrl (fixtureSource 1).identity.url.str =
      some (fixtureSource 1).identity.url := by simp [fixtureValidators]
  refine rows_round_trip fixtureValidators (fixtureObservation (fixtureSource 1) 10 0)
    (fixtureSource 1) furnishedTerminal 0 0 (fixtureFact 1 (fixtureSource 1)) ?_ url url url ?_ url
  · rfl
  · rintro entrance hentrance
    obtain rfl := Option.some.inj hentrance
    exact url

/-! ## The rows of the tables -/

def ProvenanceRow.columns (group : ColumnGroup) (r : ProvenanceRow) : RowDict :=
  [(⟨group, .sourceId⟩, .uuid r.sourceId), (⟨group, .sourceUrl⟩, .text r.sourceUrl),
    (⟨group, .sourceAuthority⟩, .text r.sourceAuthority),
    (⟨group, .observedAt⟩, .instant r.observedAt),
    (⟨group, .sourceTime⟩, .optional .instant r.sourceTime),
    (⟨group, .providerId⟩, .text r.providerId),
    (⟨group, .policyVersionId⟩, .text r.policyVersionId)]

def SourceRow.columns (r : SourceRow) : RowDict :=
  [(ColumnName.sourceId.plain, .uuid r.sourceId), (ColumnName.url.plain, .text r.url),
    (ColumnName.authority.plain, .text r.authority), (ColumnName.name.plain, .text r.name),
    (ColumnName.kind.plain, .text r.kind),
    (ColumnName.terminalId.plain, .optional .uuid r.terminalId),
    (ColumnName.enabled.plain, .bool r.enabled),
    (ColumnName.cadenceMinutes.plain, .optional .int r.cadenceMinutes),
    (ColumnName.adapterId.plain, .optional .text r.adapterId),
    (ColumnName.adapterVersion.plain, .optional .text r.adapterVersion),
    (ColumnName.policyVersionId.plain, .text r.policyVersionId),
    (ColumnName.reviewState.plain, .text r.reviewState),
    (ColumnName.mayRetrieve.plain, .bool r.mayRetrieve),
    (ColumnName.mayParse.plain, .bool r.mayParse),
    (ColumnName.maySummarize.plain, .bool r.maySummarize),
    (ColumnName.mayDisplay.plain, .bool r.mayDisplay),
    (ColumnName.mayAggregateHistory.plain, .bool r.mayAggregateHistory),
    (ColumnName.rawPayload.plain, .text r.rawPayload),
    (ColumnName.snapshotRetentionDays.plain, .optional .int r.snapshotRetentionDays),
    (ColumnName.reviewer.plain, .optional .text r.reviewer),
    (ColumnName.reviewedAt.plain, .optional .instant r.reviewedAt),
    (ColumnName.createdAt.plain, .instant r.createdAt),
    (ColumnName.updatedAt.plain, .instant r.updatedAt)]

theorem optional_map {α β : Type} (column : β → SqlValue) (f : α → β) (value : Option α) :
    SqlValue.optional column (value.map f) = SqlValue.optional (fun a => column (f a)) value := by
  cases value <;> rfl

theorem optional_some {α : Type} (column : α → SqlValue) (a : α) :
    SqlValue.optional column (some a) = column a := rfl

/-- The row of the `sources` table is the one `source_row` lists. -/
theorem sourceRow_columns (source : Source) :
    (sourceRow source).columns = sourceColumns source := by
  simp only [SourceRow.columns, sourceRow, optional_map, sourceColumns]

/-- A row of the `sources` table that a record wrote is read back as it. -/
theorem Source.ofRow_sourceRow {py : Validators} (source : Source)
    (url : py.httpUrl source.identity.url.str = some source.identity.url) :
    Source.ofRow py (sourceRow source).columns = some source := by
  rw [sourceRow_columns]
  exact Source.ofRow_eq (RowDict.holds_self (sourceColumns_distinct source)) url

def EntranceColumns.columns (e : EntranceColumns) : RowDict :=
  [(⟨.entrance, .kind⟩, .optional .text e.kind),
    (⟨.entrance, .latitude⟩, .optional .float e.latitude),
    (⟨.entrance, .longitude⟩, .optional .float e.longitude),
    (⟨.entrance, .instructions⟩, .optional .text e.instructions),
    (⟨.entrance, .sourceId⟩, .optional .uuid e.sourceId),
    (⟨.entrance, .sourceUrl⟩, .optional .text e.sourceUrl),
    (⟨.entrance, .sourceAuthority⟩, .optional .text e.sourceAuthority),
    (⟨.entrance, .observedAt⟩, .optional .instant e.observedAt),
    (⟨.entrance, .sourceTime⟩, .optional .instant e.sourceTime),
    (⟨.entrance, .providerId⟩, .optional .text e.providerId),
    (⟨.entrance, .policyVersionId⟩, .optional .text e.policyVersionId)]

def TerminalRow.columns (r : TerminalRow) : RowDict :=
  [(ColumnName.terminalId.plain, .uuid r.terminalId), (ColumnName.name.plain, .text r.name),
    (ColumnName.installation.plain, .optional .text r.installation),
    (ColumnName.timezone.plain, .text r.timezone),
    (ColumnName.operationalState.plain, .text r.operationalState),
    (ColumnName.baseLatitude.plain, .optional .float r.baseLatitude),
    (ColumnName.baseLongitude.plain, .optional .float r.baseLongitude)] ++
    r.evidence.columns .evidence ++
    [(ColumnName.createdAt.plain, .instant r.createdAt),
      (ColumnName.updatedAt.plain, .instant r.updatedAt)] ++
    r.entrance.columns

/-- The row of the `terminals` table is the one `terminal_row` lists, with NULL in the
entrance columns it leaves out. -/
theorem terminalRow_columns (terminal : Terminal) (createdAt updatedAt : Int) :
    (terminalRow terminal createdAt updatedAt).columns =
      terminalColumns terminal createdAt updatedAt ++
        terminal.entrance.elim ({} : EntranceColumns).columns fun _ => [] := by
  cases h : terminal.entrance with
  | none =>
    simp [TerminalRow.columns, terminalRow, terminalColumns, h, optional_map, provenanceRow,
      ProvenanceRow.columns, provenanceColumns]
  | some entrance =>
    simp [TerminalRow.columns, terminalRow, terminalColumns, h, optional_map, provenanceRow,
      ProvenanceRow.columns, provenanceColumns, entranceColumns, EntranceColumns.columns,
      entranceDict, optional_some]

theorem TerminalRow.columns_distinct (r : TerminalRow) : (r.columns.map (·.1)).Nodup := by
  simp [TerminalRow.columns, ProvenanceRow.columns, EntranceColumns.columns, ColumnName.plain]

/-- A row of the `terminals` table that a record wrote is read back as it. -/
theorem Terminal.ofRow_terminalRow {py : Validators} (terminal : Terminal)
    (createdAt updatedAt : Int) (zone : py.zone terminal.timezone.text = true)
    (evidenceUrl : py.httpUrl terminal.evidence.source.url.str =
      some terminal.evidence.source.url)
    (entranceUrl : ∀ entrance ∈ terminal.entrance,
      py.httpUrl entrance.verification.source.url.str = some entrance.verification.source.url) :
    Terminal.ofRow py (terminalRow terminal createdAt updatedAt).columns = some terminal := by
  have whole := RowDict.holds_self (terminalRow terminal createdAt updatedAt).columns_distinct
  have holds : (terminalRow terminal createdAt updatedAt).columns.Holds
      (terminalColumns terminal createdAt updatedAt) := by
    intro e he
    apply whole e
    rw [terminalRow_columns]
    exact List.mem_append_left _ he
  refine Terminal.ofRow_eq holds ?_ zone evidenceUrl entranceUrl
  intro absent
  refine whole (⟨.entrance, .kind⟩, .null) ?_
  rw [terminalRow_columns, absent]
  exact List.mem_append_right _ List.mem_cons_self

end PaxPivot
