import PaxPivot.Domain.Terminal
import PaxPivot.Infrastructure.ObservationStore

/-!
# Reader ports and the queries behind them

`application/ports/repositories.py` and the readers of
`infrastructure/repositories.py` over one snapshot of the database. Where a query
orders by name the collation decides, and the model takes any.
-/

namespace PaxPivot

structure SourceReader where
  listSources : List Source
  getSource : UUID → Option Source
  listTerminalSources : UUID → List Source

structure ObservationReader where
  latestPerSource : UUID → Option SourceObservation

structure TerminalReader where
  listTerminals : List Terminal
  getTerminal : UUID → Option Terminal
  listCurrentFacts : UUID → List TerminalOperationalFact

structure KillSwitchReader where
  listEngaged : List KillSwitch

/-- The tables the readers select from, with the keys the schema enforces. -/
structure Database where
  terminals : List Terminal
  terminalsDistinct : (terminals.map (·.terminalId)).Nodup
  registry : Registry
  observations : List ObservationRow
  observationsStored : Stored observations
  facts : List TerminalOperationalFact
  factsDistinct : (facts.map (·.factId)).Nodup
  switches : List KillSwitch
  /-- `a` sorts before or with `b`. -/
  collation : Identifier → Identifier → Bool

namespace Database

variable (db : Database)

def listSources : List Source :=
  db.registry.sources.insertionSort fun a b => db.collation a.name b.name = true

def getSource (sourceId : UUID) : Option Source :=
  db.registry.sources.find? fun s => s.sourceId = sourceId

def listTerminalSources (terminalId : UUID) : List Source :=
  (db.registry.sources.filter fun s => s.terminalId = some terminalId).insertionSort
    fun a b => db.collation a.name b.name = true

def listTerminals : List Terminal :=
  db.terminals.insertionSort fun a b => db.collation a.name b.name = true

def getTerminal (terminalId : UUID) : Option Terminal :=
  db.terminals.find? fun t => t.terminalId = terminalId

/-- `ORDER BY recorded_at, fact_id`. -/
def factOrder (f : TerminalOperationalFact) : Int ×ₗ UUID := toLex (f.recordedAt, f.factId)

/-- The newest open fact of each kind, by kind. -/
def listCurrentFacts (terminalId : UUID) : List TerminalOperationalFact :=
  (RowNumber.firsts (·.kind) factOrder
    (db.facts.filter fun f => f.terminalId = terminalId && f.effectiveTo.isNone)).insertionSort
    fun a b => a.kind.value ≤ b.kind.value

def listEngaged : List KillSwitch :=
  (db.switches.filter fun k => k.releasedAt.isNone).insertionSort
    fun a b => a.engagedAt ≤ b.engagedAt

def sourceReader : SourceReader := ⟨db.listSources, db.getSource, db.listTerminalSources⟩

def observationReader : ObservationReader := ⟨PaxPivot.latestPerSource db.observations⟩

def terminalReader : TerminalReader := ⟨db.listTerminals, db.getTerminal, db.listCurrentFacts⟩

def killSwitchReader : KillSwitchReader := ⟨db.listEngaged⟩

variable {db} {s : Source} {t : Terminal} {id : UUID}

theorem mem_listSources : s ∈ db.listSources ↔ s ∈ db.registry.sources :=
  List.mem_insertionSort _

theorem mem_listTerminalSources :
    s ∈ db.listTerminalSources id ↔ s ∈ db.registry.sources ∧ s.terminalId = some id := by
  unfold listTerminalSources
  rw [List.mem_insertionSort, List.mem_filter, decide_eq_true_eq]

theorem getSource_eq_some_iff :
    db.getSource id = some s ↔ s ∈ db.registry.sources ∧ s.sourceId = id :=
  DistinctKeys.find?_eq_some_iff db.registry.distinct

theorem getTerminal_eq_some_iff :
    db.getTerminal id = some t ↔ t ∈ db.terminals ∧ t.terminalId = id :=
  DistinctKeys.find?_eq_some_iff db.terminalsDistinct

theorem mem_listTerminals : t ∈ db.listTerminals ↔ db.getTerminal t.terminalId = some t := by
  unfold listTerminals
  rw [List.mem_insertionSort, getTerminal_eq_some_iff]
  simp

/-- A current fact is stored, of that terminal and open. -/
theorem mem_listCurrentFacts {f : TerminalOperationalFact} (h : f ∈ db.listCurrentFacts id) :
    f ∈ db.facts ∧ f.terminalId = id ∧ f.effectiveTo = none := by
  unfold listCurrentFacts at h
  rw [List.mem_insertionSort, RowNumber.mem_firsts_iff] at h
  simpa using h.1

/-- No two current facts of a terminal are of one kind. -/
theorem listCurrentFacts_distinct : ((db.listCurrentFacts id).map (·.kind)).Nodup := by
  have ranked : ∀ a ∈ db.facts, ∀ b ∈ db.facts, factOrder a = factOrder b → a = b := by
    intro a ha b hb h
    have hid : a.factId = b.factId := congrArg (fun p => (ofLex p).2) h
    exact DistinctKeys.eq_of_key_eq db.factsDistinct ha hb hid
  unfold listCurrentFacts
  apply ((List.perm_insertionSort _ _).map _).nodup_iff.2
  apply RowNumber.firsts_distinct (db.factsDistinct.of_map.filter _)
  intro a ha b hb
  exact ranked a (List.mem_of_mem_filter ha) b (List.mem_of_mem_filter hb)

theorem mem_listEngaged {k : KillSwitch} :
    k ∈ db.listEngaged ↔ k ∈ db.switches ∧ k.engaged = true := by
  unfold listEngaged
  rw [List.mem_insertionSort, List.mem_filter]
  rfl

end Database

/-- One terminal, one approved source and one fact of it, with `switches` in force. -/
def fixtureDatabase (source : Source) (switches : List KillSwitch) : Database where
  terminals := [fixtureTerminal 1]
  terminalsDistinct := List.nodup_singleton _
  registry := ⟨[source], List.nodup_singleton _⟩
  observations := []
  observationsStored := .empty
  facts := [fixtureFact 1 source]
  factsDistinct := List.nodup_singleton _
  switches
  collation _ _ := true

end PaxPivot
