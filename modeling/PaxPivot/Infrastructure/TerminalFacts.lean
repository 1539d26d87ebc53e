import Mathlib
import PaxPivot.Infrastructure.ObservationRepository
import PaxPivot.Infrastructure.Repositories
import PaxPivot.Library.Statements

/-!
# Appending facts

`SqlTerminalRepository.append_fact` and what it does to `list_current_facts`. The table is
append-only, so a later state holds the earlier one's facts in front of its own. A fact with an
`effective_to` is history from the start: it is never current and supersedes nothing.
-/

namespace PaxPivot

/-- Why `INSERT INTO terminal_facts` raises. The checks on the kind and on the validity window are
made by the contract. -/
inductive FactRefusal where
  | urlCarriesNoCredentials | primaryKey | unknownSource | unknownTerminal
  deriving DecidableEq

/-- `SqlTerminalRepository.append_fact`. -/
def Database.appendFact (db : Database) (fact : TerminalOperationalFact) :
    Except FactRefusal Database :=
  if !urlCarriesNoCredentials fact.provenance.source.url.str then
    .error .urlCarriesNoCredentials
  else if h : fact.factId ∈ db.facts.map (·.factId) then .error .primaryKey
  else if !db.registry.sources.any fun s => s.sourceId = fact.sourceId then .error .unknownSource
  else if !db.terminals.any fun t => t.terminalId = fact.terminalId then .error .unknownTerminal
  else .ok
    { db with
      facts := db.facts ++ [fact]
      factsDistinct := by
        rw [List.map_append]
        exact List.Nodup.append db.factsDistinct (List.nodup_singleton _)
          (List.disjoint_singleton.2 h) }

/-- Appends one after another, each of them accepted. -/
def Database.appendFacts (db : Database) (facts : List TerminalOperationalFact) :
    Except FactRefusal Database :=
  facts.foldlM Database.appendFact db

/-- What the trigger leaves of a table's future: every fact stays, as it is. -/
def AppendOnly (db db' : Database) : Prop := db.facts <+: db'.facts

/-- An open fact of the same terminal and kind, later by `(recorded_at, fact_id)`. -/
structure SupersedesFact (g f : TerminalOperationalFact) : Prop where
  terminal : g.terminalId = f.terminalId
  kind : g.kind = f.kind
  isOpen : g.effectiveTo = none
  later : Database.factOrder f < Database.factOrder g

section Facts

variable {db db' : Database} {f g : TerminalOperationalFact} {id : UUID}

theorem appendFact_facts (h : db.appendFact f = .ok db') : db'.facts = db.facts ++ [f] := by
  unfold Database.appendFact at h
  split at h
  · cases h
  split at h
  · cases h
  split at h
  · cases h
  split at h
  · cases h
  cases h
  rfl

theorem appendFact_appendOnly (h : db.appendFact f = .ok db') : AppendOnly db db' := by
  unfold AppendOnly
  rw [appendFact_facts h]
  exact List.prefix_append _ _

/-- Whatever is appended to a store, it is a later state of it. -/
theorem appendFacts_appendOnly {facts : List TerminalOperationalFact}
    (h : db.appendFacts facts = .ok db') : AppendOnly db db' := by
  unfold Database.appendFacts at h
  have start : AppendOnly db db := List.prefix_refl _
  exact Statements.keeps (fun _ _ _ before h => before.trans (appendFact_appendOnly h)) start h

/-- The newest open fact of each kind, and nothing else. -/
theorem mem_listCurrentFacts_iff :
    f ∈ db.listCurrentFacts id ↔
      f ∈ db.facts ∧ f.terminalId = id ∧ f.effectiveTo = none ∧
        ∀ g ∈ db.facts, ¬ SupersedesFact g f := by
  unfold Database.listCurrentFacts
  rw [List.mem_insertionSort, RowNumber.mem_firsts_iff]
  simp only [List.mem_filter, Bool.and_eq_true, decide_eq_true_eq, Option.isNone_iff_eq_none]
  constructor
  · rintro ⟨⟨hf, hid, hopen⟩, newest⟩
    refine ⟨hf, hid, hopen, ?_⟩
    intro g hg supersedes
    have hle := newest g ⟨hg, supersedes.terminal.trans hid, supersedes.isOpen⟩ supersedes.kind
    exact absurd supersedes.later (not_lt.2 hle)
  · rintro ⟨hf, hid, hopen, newest⟩
    refine ⟨⟨hf, hid, hopen⟩, ?_⟩
    rintro g ⟨hg, hgid, hgopen⟩ hkind
    by_contra hle
    exact newest g hg ⟨hgid.trans hid.symm, hkind, hgopen, not_le.1 hle⟩

/-- A superseded fact is current in no later state. -/
theorem superseded_not_current (hg : g ∈ db.facts) (supersedes : SupersedesFact g f)
    (later : AppendOnly db db') : f ∉ db'.listCurrentFacts id := by
  intro hf
  obtain ⟨-, -, -, newest⟩ := mem_listCurrentFacts_iff.1 hf
  exact newest g (later.subset hg) supersedes

/-- An open fact with a later time ends the currentness of the ones before it. -/
theorem appendFact_supersedes (h : db.appendFact g = .ok db') (hopen : g.effectiveTo = none)
    (hterminal : g.terminalId = f.terminalId) (hkind : g.kind = f.kind)
    (hlater : f.recordedAt < g.recordedAt) {db'' : Database} (later : AppendOnly db' db'') :
    f ∉ db''.listCurrentFacts id := by
  have hg : g ∈ db'.facts := by
    rw [appendFact_facts h]
    exact List.mem_append_right _ (List.mem_singleton_self _)
  have horder : Database.factOrder f < Database.factOrder g := by
    apply Prod.Lex.toLex_lt_toLex.2
    exact .inl hlater
  exact superseded_not_current hg ⟨hterminal, hkind, hopen, horder⟩ later

/-- A fact with an `effective_to` changes nothing that is current. -/
theorem appendFact_closed (h : db.appendFact g = .ok db') (hclosed : g.effectiveTo ≠ none) :
    db'.listCurrentFacts id = db.listCurrentFacts id := by
  have hnone : (decide (g.terminalId = id) && g.effectiveTo.isNone) = false := by
    rw [Bool.and_eq_false_iff]
    exact .inr (Option.isNone_eq_false_iff.2 (Option.isSome_iff_ne_none.2 hclosed))
  unfold Database.listCurrentFacts
  rw [appendFact_facts h, List.filter_append, List.filter_singleton, hnone]
  simp

/-- **A newer open fact supersedes an older one, for good.** -/
theorem listCurrentFacts_newest_open (db : Database) (terminalId : UUID) :
    (∀ f, f ∈ db.listCurrentFacts terminalId ↔
      f ∈ db.facts ∧ f.terminalId = terminalId ∧ f.effectiveTo = none ∧
        ∀ g ∈ db.facts, ¬ SupersedesFact g f) ∧
    (∀ f, ∀ g ∈ db.facts, SupersedesFact g f → ∀ db', AppendOnly db db' →
      f ∉ db'.listCurrentFacts terminalId) ∧
    (∀ g db', db.appendFact g = .ok db' → g.effectiveTo = none → ∀ f ∈ db.facts,
      g.terminalId = f.terminalId → g.kind = f.kind → f.recordedAt < g.recordedAt →
      ∀ db'', AppendOnly db' db'' → f ∉ db''.listCurrentFacts terminalId) ∧
    ∀ g db', db.appendFact g = .ok db' → g.effectiveTo ≠ none →
      db'.listCurrentFacts terminalId = db.listCurrentFacts terminalId := by
  refine ⟨fun f => mem_listCurrentFacts_iff, ?_, ?_, ?_⟩
  · intro f g hg supersedes db' later
    exact superseded_not_current hg supersedes later
  · intro g db' h hopen f _ hterminal hkind hlater db'' later
    exact appendFact_supersedes h hopen hterminal hkind hlater later
  · intro g db' h hclosed
    exact appendFact_closed h hclosed

end Facts

/-- Recorded a day after the fixture's fact, and closed two days after that. -/
def closedWindow : TerminalOperationalFact :=
  { fixtureFact 1 (fixtureSource 1) with
    factId := 6
    effectiveTo := some 259200000000
    recordedAt := 86400000000
    valid := rfl }

/-- A later fact of the same kind with an `effective_to` leaves the older open one current. -/
theorem closedWindow_supersedes_nothing :
    ∃ db', (fixtureDatabase (fixtureSource 1) []).appendFact closedWindow = .ok db' ∧
      ∃ f ∈ db'.listCurrentFacts 1, closedWindow ∈ db'.facts ∧
        closedWindow.terminalId = f.terminalId ∧ closedWindow.kind = f.kind ∧
        Database.factOrder f < Database.factOrder closedWindow := by
  have appended : ((fixtureDatabase (fixtureSource 1) []).appendFact closedWindow).isOk = true := by
    decide +kernel
  obtain ⟨db', h⟩ := isOk_iff.1 appended
  refine ⟨db', h, fixtureFact 1 (fixtureSource 1), ?_, ?_, rfl, rfl, ?_⟩
  · rw [appendFact_closed h (by decide)]
    decide
  · rw [appendFact_facts h]
    exact List.mem_append_right _ (List.mem_singleton_self _)
  · apply Prod.Lex.toLex_lt_toLex.2
    exact .inl (by decide)

end PaxPivot
