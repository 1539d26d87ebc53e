import PaxPivot.Application.SourceExplanation
import PaxPivot.Application.SourceGate
import PaxPivot.Infrastructure.Repositories
import PaxPivot.Library.FirstMax
import PaxPivot.Library.Tally

/-!
# Read use cases

`application/read_services.py` with the read models it answers. A state is
derived at the time of the read and never written back; a source with no
observation is reported as never observed.
-/

namespace PaxPivot

/-! ## Read models -/

structure SourceEvidenceRead where
  observationId : UUID
  state : SourceState
  observedAt : Int
  sourceTime : Option Int
  retrieval : RetrievalState
  extraction : ExtractionState
  parserVersion : Option Identifier
  explanation : String
  deriving DecidableEq

structure TerminalSourceRead where
  sourceId : UUID
  name : Identifier
  url : HttpUrl
  kind : SourceKind
  enabled : Bool
  reviewState : PolicyReviewState
  latest : Option SourceEvidenceRead
  deriving DecidableEq

structure TerminalSummaryRead where
  terminalId : UUID
  name : Identifier
  installation : Option Identifier
  timezone : Identifier
  operationalState : OperationalState
  entrance : Option Coordinates
  entranceKind : Option EntranceKind
  officialUrl : Option HttpUrl
  latest : Option SourceEvidenceRead

structure TerminalFactRead where
  factId : UUID
  kind : TerminalFactKind
  value : FactText
  observedAt : Int
  sourceTime : Option Int
  sourceUrl : HttpUrl
  effectiveFrom : Option Int
  effectiveTo : Option Int
  deriving DecidableEq

structure TerminalNetworkRead where
  generatedAt : Int
  terminals : List TerminalSummaryRead

structure TerminalDetailRead where
  generatedAt : Int
  summary : TerminalSummaryRead
  entranceInstructions : Option Identifier
  facts : List TerminalFactRead
  sources : List TerminalSourceRead

structure SourceHealthRowRead where
  sourceId : UUID
  name : Identifier
  url : HttpUrl
  kind : SourceKind
  terminalId : Option UUID
  enabled : Bool
  reviewState : PolicyReviewState
  cadenceMinutes : Option ℕ+
  adapterId : Option Identifier
  adapterVersion : Option Identifier
  killSwitched : Bool
  latest : Option SourceEvidenceRead
  deriving DecidableEq

structure SourceStateCount where
  state : SourceState
  count : Nat
  deriving DecidableEq

structure SourceHealthRead where
  generatedAt : Int
  rows : List SourceHealthRowRead
  counts : List SourceStateCount
  neverObserved : Nat

/-! ## The state at the time of the read -/

/-- SRC-008: 6.5 hours. -/
def freshnessWindow : Int := (6 * 60 + 30) * 60 * 1000000

/-- `model_copy(update={"state": STALE})` keeps every other field, and a stale
state asks for nothing that the stored state did not. -/
theorem SourceObservation.stale_consistent (o : SourceObservation) :
    ({ o.toObservationFields with state := .stale }).evidenceConsistency = .ok () := by
  have consistent := (ObservationFields.evidenceConsistency_ok_iff _).1 o.consistent
  have notPositive : SourceState.stale ∉ positiveStates := by decide
  have notAbsence : SourceState.stale ∉ [SourceState.noDepartures, .noCompatible] := by decide
  exact (ObservationFields.evidenceConsistency_ok_iff _).2
    ⟨fun h => absurd h notPositive, fun h => absurd h notAbsence, consistent.2.2⟩

/-- The observation as it reads at `now`. -/
def effective (o : SourceObservation) (now : Int) : SourceObservation :=
  if o.state ∈ positiveStates ∧ now - o.observedAt > freshnessWindow then
    { o with state := .stale, consistent := o.stale_consistent }
  else o

def evidenceRead (o : SourceObservation) (now : Int) : SourceEvidenceRead :=
  let current := effective o now
  { observationId := current.observationId
    state := current.state
    observedAt := current.observedAt
    sourceTime := current.provenance.sourceTime
    retrieval := current.retrieval
    extraction := current.extraction
    parserVersion := current.parserVersion
    explanation := explainSource current }

/-! ## The use cases -/

/-- `_restricted`. -/
def Source.restricted (s : Source) : Bool := s.policy.reviewState = .restricted

/-- `max(observations, key=observed_at)`: the first of the newest ones. -/
def newest (observations : List SourceObservation) : Option SourceObservation :=
  FirstMax.firstMax SourceObservation.observedAt observations

/-- What may be shown of a source on a terminal: a restricted source is
user-opened only. -/
def observedOn (latest : UUID → Option SourceObservation) (s : Source) :
    Option SourceObservation :=
  if s.restricted then none else latest s.sourceId

def terminalSummary (terminal : Terminal) (sources : List Source)
    (latest : UUID → Option SourceObservation) (now : Int) : TerminalSummaryRead :=
  let official := sources.find? fun s => s.kind = .terminalPage
  let headline := newest (sources.filterMap (observedOn latest))
  { terminalId := terminal.terminalId
    name := terminal.name
    installation := terminal.installation
    timezone := terminal.timezone
    operationalState := terminal.operationalState
    entrance := terminal.entrance.map (·.coordinates)
    entranceKind := terminal.entrance.map (·.kind)
    officialUrl := official.map (·.identity.url)
    latest := headline.map (evidenceRead · now) }

def listTerminalNetwork (terminals : TerminalReader) (sources : SourceReader)
    (observations : ObservationReader) (now : Int) : TerminalNetworkRead :=
  { generatedAt := now
    terminals := terminals.listTerminals.map fun t =>
      terminalSummary t (sources.listTerminalSources t.terminalId)
        observations.latestPerSource now }

def factRead (f : TerminalOperationalFact) : TerminalFactRead :=
  { factId := f.factId
    kind := f.kind
    value := f.value
    observedAt := f.provenance.observedAt
    sourceTime := f.provenance.sourceTime
    sourceUrl := f.provenance.source.url
    effectiveFrom := f.effectiveFrom
    effectiveTo := f.effectiveTo }

/-- An unknown or missing source yields nothing. -/
def displayableFacts (facts : List TerminalOperationalFact) (sources : SourceReader) :
    List TerminalOperationalFact :=
  facts.filter fun f => (sources.getSource f.sourceId).any (·.policy.allows .display)

def terminalSourceRead (latest : UUID → Option SourceObservation) (now : Int) (s : Source) :
    TerminalSourceRead :=
  { sourceId := s.sourceId
    name := s.name
    url := s.identity.url
    kind := s.kind
    enabled := s.enabled
    reviewState := s.policy.reviewState
    latest := (observedOn latest s).map (evidenceRead · now) }

def getTerminalDetail (terminalId : UUID) (terminals : TerminalReader) (sources : SourceReader)
    (observations : ObservationReader) (now : Int) : Result TerminalDetailRead :=
  match terminals.getTerminal terminalId with
  | none =>
    .error { code := .unavailable, messageKey := .lit "terminal.not_found", retryable := false }
  | some terminal =>
    let latest := observations.latestPerSource
    let terminalSources := sources.listTerminalSources terminalId
    .ok
      { generatedAt := now
        summary := terminalSummary terminal terminalSources latest now
        entranceInstructions := terminal.entrance.map (·.instructions)
        facts := (displayableFacts (terminals.listCurrentFacts terminalId) sources).map factRead
        sources := terminalSources.map (terminalSourceRead latest now) }

def healthRow (source : Source) (latest : Option SourceObservation) (switches : List KillSwitch)
    (now : Int) : SourceHealthRowRead :=
  { sourceId := source.sourceId
    name := source.name
    url := source.identity.url
    kind := source.kind
    terminalId := source.terminalId
    enabled := source.enabled
    reviewState := source.policy.reviewState
    cadenceMinutes := source.cadenceMinutes
    adapterId := source.adapterId
    adapterVersion := source.adapterVersion
    killSwitched := ProcessingMode.all.any fun mode => (engagedSwitch source mode switches).isSome
    latest := latest.map (evidenceRead · now) }

/-- The states of the rows that show an observation. -/
def shownStates (rows : List SourceHealthRowRead) : List SourceState :=
  rows.filterMap fun row => row.latest.map (·.state)

def listSourceHealth (sources : SourceReader) (observations : ObservationReader)
    (killSwitches : KillSwitchReader) (now : Int) : SourceHealthRead :=
  let latest := observations.latestPerSource
  let switches := killSwitches.listEngaged
  let rows := sources.listSources.map fun s => healthRow s (latest s.sourceId) switches now
  let counts := Tally.tally (shownStates rows)
  { generatedAt := now
    rows
    counts := (counts.insertionSort fun a b => a.1.value ≤ b.1.value).map fun c => ⟨c.1, c.2⟩
    neverObserved := rows.countP fun row => row.latest.isNone }

/-! ## What a read shows of an observation -/

section Evidence

variable {o : SourceObservation} {now later : Int}

theorem effective_state (o : SourceObservation) (now : Int) :
    (effective o now).state =
      if o.state ∈ positiveStates ∧ now - o.observedAt > freshnessWindow then .stale
      else o.state := by
  unfold effective
  split <;> rfl

/-- Only the state is derived. -/
theorem effective_stored (o : SourceObservation) (now : Int) :
    { (effective o now).toObservationFields with state := o.state } = o.toObservationFields := by
  unfold effective
  split <;> rfl

/-- What an evidence read may say about the observation it shows. -/
structure ReadsHonestly (o : SourceObservation) (now : Int) (e : SourceEvidenceRead) : Prop where
  copied : e.observationId = o.observationId ∧ e.observedAt = o.observedAt ∧
    e.sourceTime = o.provenance.sourceTime ∧ e.retrieval = o.retrieval ∧
    e.extraction = o.extraction ∧ e.parserVersion = o.parserVersion
  explained : e.explanation = explanation e.state
  positive : e.state ∈ positiveStates →
    o.retrieval = .succeeded ∧ now - o.observedAt ≤ freshnessWindow
  derived : e.state = o.state ∨
    e.state = .stale ∧ o.state ∈ positiveStates ∧ now - o.observedAt > freshnessWindow

theorem evidenceRead_state : (evidenceRead o now).state = (effective o now).state := rfl

theorem evidenceRead_observedAt : (evidenceRead o now).observedAt = o.observedAt :=
  congrArg (·.provenance.observedAt) (effective_stored o now)

/-- **Every evidence read is honest.** -/
theorem evidenceRead_honest (o : SourceObservation) (now : Int) :
    ReadsHonestly o now (evidenceRead o now) := by
  have copied := effective_stored o now
  have state := effective_state o now
  refine ⟨⟨congrArg (·.observationId) copied, congrArg (·.provenance.observedAt) copied,
    congrArg (·.provenance.sourceTime) copied, congrArg (·.retrieval) copied,
    congrArg (·.extraction) copied, congrArg (·.parserVersion) copied⟩, rfl,
    fun hpositive => ?_, ?_⟩
  · rw [evidenceRead_state, state] at hpositive
    split at hpositive
    · exact absurd hpositive (by decide)
    · rename_i hcurrent
      exact ⟨o.positive_succeeded hpositive, by_contra fun h => hcurrent ⟨hpositive, by omega⟩⟩
  · rw [evidenceRead_state, state]
    split
    · rename_i hold
      exact .inr ⟨rfl, hold⟩
    · exact .inl rfl

theorem evidenceRead_stale_iff :
    (evidenceRead o now).state = .stale ↔
      o.state = .stale ∨ o.state ∈ positiveStates ∧ now - o.observedAt > freshnessWindow := by
  rw [evidenceRead_state, effective_state]
  split
  · rename_i hold
    simp [hold]
  · rename_i hcurrent
    simp [hcurrent]

/-- Once stale, stale at every later read. -/
theorem evidenceRead_stale_mono (h : (evidenceRead o now).state = .stale) (hle : now ≤ later) :
    (evidenceRead o later).state = .stale := by
  rw [evidenceRead_stale_iff] at h ⊢
  rcases h with h | ⟨hpositive, hold⟩
  · exact .inl h
  · exact .inr ⟨hpositive, by omega⟩

end Evidence

/-! ## What the use cases answer -/

section Answers

variable {terminals : TerminalReader} {sources : SourceReader} {observations : ObservationReader}
  {killSwitches : KillSwitchReader} {id : UUID} {now : Int}

theorem getTerminalDetail_ok_iff {detail : TerminalDetailRead} :
    getTerminalDetail id terminals sources observations now = .ok detail ↔
      ∃ terminal, terminals.getTerminal id = some terminal ∧ detail =
        { generatedAt := now
          summary := terminalSummary terminal (sources.listTerminalSources id)
            observations.latestPerSource now
          entranceInstructions := terminal.entrance.map (·.instructions)
          facts := (displayableFacts (terminals.listCurrentFacts id) sources).map factRead
          sources := (sources.listTerminalSources id).map
            (terminalSourceRead observations.latestPerSource now) } := by
  unfold getTerminalDetail
  cases terminals.getTerminal id with
  | none => simp
  | some terminal => simp [eq_comm]

theorem mem_displayableFacts {facts : List TerminalOperationalFact}
    {f : TerminalOperationalFact} :
    f ∈ displayableFacts facts sources ↔
      f ∈ facts ∧ ∃ s, sources.getSource f.sourceId = some s ∧ s.policy.allows .display = true := by
  unfold displayableFacts
  rw [List.mem_filter, Option.any_eq_true]

/-- The headline is the newest of the rows the sources show. -/
theorem terminalSummary_latest (terminal : Terminal) (terminalSources : List Source)
    (latest : UUID → Option SourceObservation) :
    (terminalSummary terminal terminalSources latest now).latest =
      FirstMax.firstMax (·.observedAt)
        ((terminalSources.map (terminalSourceRead latest now)).filterMap (·.latest)) := by
  have shown : (terminalSources.map (terminalSourceRead latest now)).filterMap (·.latest) =
      (terminalSources.filterMap (observedOn latest)).map (evidenceRead · now) := by
    rw [List.filterMap_map, List.map_filterMap]
    rfl
  rw [shown, FirstMax.firstMax_map]
  simp only [evidenceRead_observedAt]
  rfl

/-- What a source shows on a terminal. -/
theorem terminalSourceRead_latest_eq_some {latest : UUID → Option SourceObservation} {s : Source}
    {e : SourceEvidenceRead} (h : (terminalSourceRead latest now s).latest = some e) :
    s.restricted = false ∧ ∃ o, latest s.sourceId = some o ∧ ReadsHonestly o now e := by
  obtain ⟨o, hobserved, rfl⟩ := Option.map_eq_some_iff.1 h
  unfold observedOn at hobserved
  split at hobserved
  · cases hobserved
  · rename_i hopen
    exact ⟨by simpa using hopen, o, hobserved, evidenceRead_honest o now⟩

/-- **The counts are the histogram of the states the rows show.** -/
theorem listSourceHealth_counts :
    Tally.Exact
      ((listSourceHealth sources observations killSwitches now).counts.map
        fun c => (c.state, c.count))
      (shownStates (listSourceHealth sources observations killSwitches now).rows) := by
  unfold listSourceHealth
  dsimp only
  rw [List.map_map, show ((fun c : SourceStateCount => (c.state, c.count)) ∘
    fun c : SourceState × Nat => (⟨c.1, c.2⟩ : SourceStateCount)) = id from rfl, List.map_id]
  exact (Tally.exact_tally _).perm (List.perm_insertionSort _ _)

end Answers

end PaxPivot
