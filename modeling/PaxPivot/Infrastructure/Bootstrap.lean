import Mathlib
import PaxPivot.Infrastructure.ReferenceData
import PaxPivot.Infrastructure.Rows

/-!
# Seeding

`seed_reference_data`: insert the reference rows that are missing, then bring known older
policy versions of reference sources up to date, all in one transaction.
-/

namespace PaxPivot

/-- What a run reports. -/
structure Inserted where
  sources : Nat := 0
  terminals : Nat := 0
  policiesUpgraded : Nat := 0
  deriving DecidableEq

/-- The transaction between two statements. -/
structure Seeding where
  tables : Tables
  inserted : Inserted := {}

/-- `INSERT … ON CONFLICT (source_id) DO NOTHING RETURNING source_id`. The checks of the row come
before the conflict, the other constraints after it. -/
def insertSource (s : Seeding) (source : Source) : Except SqlError Seeding :=
  let row := sourceRow source
  match violated sourceChecks row with
  | some c => .error (.check c)
  | none =>
    if (s.tables.findSource row.sourceId).isSome then .ok s
    else if s.tables.sources.any fun r => r.url = row.url then .error (.unique "uq_sources_url")
    else if !row.terminalId.all s.tables.hasTerminal then
      .error (.foreignKey "fk_sources_terminal_id_terminals")
    else .ok
      { tables := { s.tables with sources := s.tables.sources ++ [row] }
        inserted := { s.inserted with sources := s.inserted.sources + 1 } }

/-- The row that seeding stores for a terminal. -/
def seedRow (terminal : Terminal) : TerminalRow :=
  terminalRow terminal seedRecordedAt seedRecordedAt

/-- `INSERT … ON CONFLICT (terminal_id) DO NOTHING RETURNING terminal_id`. -/
def insertTerminal (s : Seeding) (terminal : Terminal) : Except SqlError Seeding :=
  let row := seedRow terminal
  match violated terminalChecks row with
  | some c => .error (.check c)
  | none =>
    if (s.tables.findTerminal row.terminalId).isSome then .ok s
    else if !s.tables.hasSource row.evidence.sourceId then
      .error (.foreignKey "fk_terminals_evidence_source_id_sources")
    else if !row.entrance.sourceId.all s.tables.hasSource then
      .error (.foreignKey "fk_terminals_entrance_source_id_sources")
    else .ok
      { tables := { s.tables with terminals := s.tables.terminals ++ [row] }
        inserted := { s.inserted with terminals := s.inserted.terminals + 1 } }

/-- The `WHERE` of the upgrade. -/
def upgradable (source : Source) (row : SourceRow) : Bool :=
  row.sourceId = source.identity.sourceId &&
    row.policyVersionId ≠ source.policy.policyVersionId.text &&
    upgradablePolicyVersions.contains row.policyVersionId &&
    !([PolicyReviewState.paused, .restricted].map PolicyReviewState.value).contains row.reviewState

/-- The `SET` of the upgrade: `POLICY_COLUMNS` of the source's row. -/
def setPolicy (source : Source) (row : SourceRow) : SourceRow :=
  let new := sourceRow source
  { row with
    policyVersionId := new.policyVersionId
    reviewState := new.reviewState
    mayRetrieve := new.mayRetrieve
    mayParse := new.mayParse
    maySummarize := new.maySummarize
    mayDisplay := new.mayDisplay
    mayAggregateHistory := new.mayAggregateHistory
    rawPayload := new.rawPayload
    snapshotRetentionDays := new.snapshotRetentionDays
    reviewer := new.reviewer
    reviewedAt := new.reviewedAt
    updatedAt := new.updatedAt }

/-- `UPDATE … RETURNING source_id`. -/
def upgradePolicy (s : Seeding) (source : Source) : Except SqlError Seeding :=
  let upgraded := s.tables.sources.filter (upgradable source)
  match upgraded.findSome? fun row => violated sourceChecks (setPolicy source row) with
  | some c => .error (.check c)
  | none => .ok
    { tables := { s.tables with
        sources := KeyedTable.updateWhere (upgradable source) (setPolicy source) s.tables.sources }
      inserted := { s.inserted with
        policiesUpgraded := s.inserted.policiesUpgraded + upgraded.length } }

/-- The statements of a run. Terminals point at the directory source, pages at terminals. -/
def seedStatements (t : Tables) : Except SqlError Seeding := do
  let s ← insertSource { tables := t } directorySource
  let s ← referenceTerminals.foldlM insertTerminal s
  let s ← (terminalPageSources ++ scheduleArtifactSources).foldlM insertSource s
  referenceSources.foldlM upgradePolicy s

theorem seedStatements_ok {t : Tables} {s : Seeding} (h : seedStatements t = .ok s) :
    ∃ s₁ s₂ s₃, insertSource { tables := t } directorySource = .ok s₁ ∧
      referenceTerminals.foldlM insertTerminal s₁ = .ok s₂ ∧
      (terminalPageSources ++ scheduleArtifactSources).foldlM insertSource s₂ = .ok s₃ ∧
      referenceSources.foldlM upgradePolicy s₃ = .ok s := by
  unfold seedStatements at h
  obtain ⟨s₁, hdirectory, h⟩ := bind_eq_ok_iff.1 h
  obtain ⟨s₂, hterminals, h⟩ := bind_eq_ok_iff.1 h
  obtain ⟨s₃, hsources, hupgrades⟩ := bind_eq_ok_iff.1 h
  exact ⟨s₁, s₂, s₃, hdirectory, hterminals, hsources, hupgrades⟩

/-- `seed_reference_data`: the state of the database afterwards, and what the call returned.
`engine.begin()` commits when every statement went through and rolls back otherwise. -/
def seedReferenceData (t : Tables) : Tables × Except SqlError Inserted :=
  match seedStatements t with
  | .ok s => (s.tables, .ok s.inserted)
  | .error e => (t, .error e)

/-! ## What each statement does -/

/-- The rows that the inserts of `sources` add. -/
def missingSources (t : Tables) (sources : List Source) : List SourceRow :=
  KeyedTable.missing (·.sourceId) t.sources (sources.map sourceRow)

/-- The rows that the inserts of `terminals` add. -/
def missingTerminals (t : Tables) (terminals : List Terminal) : List TerminalRow :=
  KeyedTable.missing (·.terminalId) t.terminals (terminals.map seedRow)

namespace Seeding

def addSources (s : Seeding) (rows : List SourceRow) : Seeding where
  tables := { s.tables with sources := s.tables.sources ++ rows }
  inserted := { s.inserted with sources := s.inserted.sources + rows.length }

def addTerminals (s : Seeding) (rows : List TerminalRow) : Seeding where
  tables := { s.tables with terminals := s.tables.terminals ++ rows }
  inserted := { s.inserted with terminals := s.inserted.terminals + rows.length }

/-- One update. -/
def upgradeSource (s : Seeding) (source : Source) : Seeding where
  tables := { s.tables with
    sources := KeyedTable.updateWhere (upgradable source) (setPolicy source) s.tables.sources }
  inserted := { s.inserted with
    policiesUpgraded := s.inserted.policiesUpgraded +
      s.tables.sources.countP (upgradable source) }

/-- The updates of `sources`, on rows that no two of them choose. -/
def upgradeSources (s : Seeding) (sources : List Source) : Seeding where
  tables := { s.tables with
    sources := s.tables.sources.map (KeyedTable.settle upgradable setPolicy sources) }
  inserted := { s.inserted with
    policiesUpgraded := s.inserted.policiesUpgraded +
      s.tables.sources.countP fun row => sources.any (upgradable · row) }

@[simp] theorem addSources_sources (s : Seeding) (rows : List SourceRow) :
    (s.addSources rows).tables.sources = s.tables.sources ++ rows := rfl

@[simp] theorem addTerminals_terminals (s : Seeding) (rows : List TerminalRow) :
    (s.addTerminals rows).tables.terminals = s.tables.terminals ++ rows := rfl

@[simp] theorem addSources_nil (s : Seeding) : s.addSources [] = s := by
  simp [addSources]

@[simp] theorem addTerminals_nil (s : Seeding) : s.addTerminals [] = s := by
  simp [addTerminals]

@[simp] theorem upgradeSources_nil (s : Seeding) : s.upgradeSources [] = s := by
  simp [upgradeSources, show KeyedTable.settle upgradable setPolicy [] = id from rfl]

theorem addSources_addSources (s : Seeding) (a b : List SourceRow) :
    (s.addSources a).addSources b = s.addSources (a ++ b) := by
  simp [addSources, Nat.add_assoc]

theorem addTerminals_addTerminals (s : Seeding) (a b : List TerminalRow) :
    (s.addTerminals a).addTerminals b = s.addTerminals (a ++ b) := by
  simp [addTerminals, Nat.add_assoc]

end Seeding

/-! ### The reference rows pass their checks -/

/-- An `https` URL of a host and a path is clean when these are. -/
theorem urlCarriesNoCredentials_plain {host path : String}
    (hhost : urlCarriesNoCredentials host = true) (hpath : urlCarriesNoCredentials path = true) :
    urlCarriesNoCredentials ({ scheme := "https", host, path := some path } : HttpUrl).str =
      true := by
  have hscheme : urlCarriesNoCredentials "https://" = true := by decide
  have hstr : ({ scheme := "https", host, path := some path } : HttpUrl).str =
      "https://" ++ host ++ path := by
    simp [HttpUrl.str, HttpUrl.userinfo, HttpUrl.hasUserinfo, truthy]
  rw [hstr, urlCarriesNoCredentials_append, urlCarriesNoCredentials_append, hscheme, hhost, hpath]
  rfl

theorem referenceUrls_clean :
    ∀ source ∈ referenceSources, urlCarriesNoCredentials source.identity.url.str = true := by
  have amc : urlCarriesNoCredentials "www.amc.af.mil" = true := by decide
  have afpims : urlCarriesNoCredentials "amc.usaf.afpims.mil" = true := by decide
  have directory : urlCarriesNoCredentials "/AMC-Travel-Site/Terminals/CONUS-Terminals/" = true :=
    urlCarriesNoCredentials_ofList _ rfl (by decide)
  have portal : urlCarriesNoCredentials
      "/Portals/12/AMC%20Tvl%20Pg/Passenger%20Terminals/AMC%20CONUS%20Terminals/" = true :=
    urlCarriesNoCredentials_ofList _ rfl (by decide)
  have page : ∀ slug name {page}, urlCarriesNoCredentials page = true →
      urlCarriesNoCredentials (terminalPageSource slug name page).identity.url.str = true := by
    intro slug name page h
    apply urlCarriesNoCredentials_plain amc
    rw [urlCarriesNoCredentials_append, directory, h]
    rfl
  have artifact : ∀ slug name {host folder}, urlCarriesNoCredentials host = true →
      urlCarriesNoCredentials folder = true →
      urlCarriesNoCredentials (scheduleArtifactSource slug name host folder).identity.url.str =
        true := by
    intro slug name host folder hhost h
    apply urlCarriesNoCredentials_plain hhost
    rw [urlCarriesNoCredentials_append, portal, h]
    rfl
  intro source hsource
  simp only [referenceSources, terminalPageSources, scheduleArtifactSources, List.cons_append,
    List.nil_append, List.mem_cons, List.not_mem_nil, or_false] at hsource
  rcases hsource with rfl | rfl | rfl | rfl | rfl | rfl | rfl | rfl | rfl
  · exact urlCarriesNoCredentials_plain amc (urlCarriesNoCredentials_ofList _ rfl (by decide))
  · exact page _ _ (urlCarriesNoCredentials_ofList _ rfl (by decide))
  · exact page _ _ (urlCarriesNoCredentials_ofList _ rfl (by decide))
  · exact page _ _ (urlCarriesNoCredentials_ofList _ rfl (by decide))
  · exact page _ _ (urlCarriesNoCredentials_ofList _ rfl (by decide))
  · exact artifact _ _ afpims (urlCarriesNoCredentials_ofList _ rfl (by decide))
  · exact artifact _ _ amc (urlCarriesNoCredentials_ofList _ rfl (by decide))
  · exact artifact _ _ amc (urlCarriesNoCredentials_ofList _ rfl (by decide))
  · exact artifact _ _ amc (urlCarriesNoCredentials_ofList _ rfl (by decide))

theorem referenceSources_checked :
    ∀ source ∈ referenceSources, violated sourceChecks (sourceRow source) = none :=
  fun source hsource => sourceRow_checked.2 (referenceUrls_clean source hsource)

/-- The evidence of a reference terminal is the directory. -/
theorem referenceTerminals_evidence : ∀ terminal ∈ referenceTerminals,
    terminal.evidence = registryProvenance ∧ terminal.entrance = none := by
  intro terminal hterminal
  simp only [referenceTerminals, List.mem_cons, List.not_mem_nil, or_false] at hterminal
  rcases hterminal with rfl | rfl | rfl | rfl <;> exact ⟨rfl, rfl⟩

theorem referenceTerminals_checked :
    ∀ terminal ∈ referenceTerminals, violated terminalChecks (seedRow terminal) = none := by
  intro terminal hterminal
  simp only [referenceTerminals, List.mem_cons, List.not_mem_nil, or_false] at hterminal
  have directory := referenceUrls_clean directorySource List.mem_cons_self
  have clean : ∀ slug name installation,
      violated terminalChecks (seedRow (referenceTerminal slug name installation)) = none := by
    intro slug name installation
    rw [violated_eq_none_iff]
    simp only [terminalChecks, List.forall_mem_cons]
    refine ⟨rfl, rfl, rfl, rfl, ?_, List.forall_mem_nil _⟩
    rw [Bool.and_eq_true]
    exact ⟨directory, rfl⟩
  rcases hterminal with rfl | rfl | rfl | rfl <;> exact clean _ _ _

section Statements

variable {s s' : Seeding} {source : Source} {terminal : Terminal} {sources : List Source}
  {terminals : List Terminal}

/-- An insert that goes through leaves the table alone or adds a row that fits in. -/
theorem insertSource_ok_iff :
    insertSource s source = .ok s' ↔
      violated sourceChecks (sourceRow source) = none ∧
      ((s.tables.findSource source.sourceId).isSome = true ∧ s' = s ∨
        s.tables.findSource source.sourceId = none ∧
        (∀ r ∈ s.tables.sources, r.url ≠ (sourceRow source).url) ∧
        source.terminalId.all s.tables.hasTerminal = true ∧
        s' = s.addSources [sourceRow source]) := by
  unfold insertSource
  dsimp only
  cases hcheck : violated sourceChecks (sourceRow source) with
  | some c => simp
  | none =>
    have hid : (sourceRow source).sourceId = source.sourceId := rfl
    have hterminal : (sourceRow source).terminalId = source.terminalId := rfl
    simp only [hid, hterminal]
    cases hfind : s.tables.findSource source.sourceId with
    | some r =>
      simp only [Option.isSome_some, ↓reduceIte, Except.ok.injEq, true_and, reduceCtorEq, false_and,
        or_false]
      exact eq_comm
    | none =>
      simp only [Option.isSome_none, Bool.false_eq_true, ↓reduceIte, raise_if_eq_ok_iff,
        Bool.not_eq_true', Bool.not_eq_false, Except.ok.injEq, false_and, true_and, false_or,
        List.any_eq_true, decide_eq_true_eq, not_exists, not_and]
      rw [eq_comm (b := s')]
      rfl

theorem insertTerminal_ok_iff :
    insertTerminal s terminal = .ok s' ↔
      violated terminalChecks (seedRow terminal) = none ∧
      ((s.tables.findTerminal terminal.terminalId).isSome = true ∧ s' = s ∨
        s.tables.findTerminal terminal.terminalId = none ∧
        s.tables.hasSource terminal.evidence.source.sourceId = true ∧
        (seedRow terminal).entrance.sourceId.all s.tables.hasSource = true ∧
        s' = s.addTerminals [seedRow terminal]) := by
  unfold insertTerminal
  dsimp only
  cases hcheck : violated terminalChecks (seedRow terminal) with
  | some c => simp
  | none =>
    have hid : (seedRow terminal).terminalId = terminal.terminalId := rfl
    have hevidence : (seedRow terminal).evidence.sourceId = terminal.evidence.source.sourceId := rfl
    simp only [hid, hevidence]
    cases hfind : s.tables.findTerminal terminal.terminalId with
    | some r =>
      simp only [Option.isSome_some, ↓reduceIte, Except.ok.injEq, true_and, reduceCtorEq, false_and,
        or_false]
      exact eq_comm
    | none =>
      simp only [Option.isSome_none, Bool.false_eq_true, ↓reduceIte, raise_if_eq_ok_iff,
        Bool.not_eq_true', Bool.not_eq_false, Except.ok.injEq, false_and, true_and, false_or]
      rw [eq_comm (b := s')]
      rfl

theorem insertSource_eq (h : insertSource s source = .ok s') :
    s' = s.addSources (missingSources s.tables [source]) := by
  rcases (insertSource_ok_iff.1 h).2 with ⟨hfound, rfl⟩ | ⟨hnone, -, -, rfl⟩
  · have present : missingSources s'.tables [source] = [] :=
      KeyedTable.missing_eq_nil_iff.2 (List.forall_mem_singleton.2 hfound)
    rw [present, Seeding.addSources_nil]
  · have absent : missingSources s.tables [source] = [sourceRow source] :=
      KeyedTable.missing_eq_self_iff.2 (List.forall_mem_singleton.2 hnone)
    rw [absent]

theorem insertTerminal_eq (h : insertTerminal s terminal = .ok s') :
    s' = s.addTerminals (missingTerminals s.tables [terminal]) := by
  rcases (insertTerminal_ok_iff.1 h).2 with ⟨hfound, rfl⟩ | ⟨hnone, -, -, rfl⟩
  · have present : missingTerminals s'.tables [terminal] = [] :=
      KeyedTable.missing_eq_nil_iff.2 (List.forall_mem_singleton.2 hfound)
    rw [present, Seeding.addTerminals_nil]
  · have absent : missingTerminals s.tables [terminal] = [seedRow terminal] :=
      KeyedTable.missing_eq_self_iff.2 (List.forall_mem_singleton.2 hnone)
    rw [absent]

/-- Sources with different identities have rows with different keys. -/
theorem sourceRows_distinct (distinct : (sources.map Source.sourceId).Nodup) :
    ((sources.map sourceRow).map (·.sourceId)).Nodup := by
  rw [List.map_map]
  exact distinct

theorem seedRows_distinct (distinct : (terminals.map (·.terminalId)).Nodup) :
    ((terminals.map seedRow).map (·.terminalId)).Nodup := by
  rw [List.map_map]
  exact distinct

/-- Inserts of different sources add the ones that were missing before the first of them. -/
theorem insertSources_eq (distinct : (sources.map Source.sourceId).Nodup)
    (h : sources.foldlM insertSource s = .ok s') :
    s' = s.addSources (missingSources s.tables sources) := by
  apply KeyedTable.run_eq (·.tables.sources) (fun _ _ => rfl) Seeding.addSources_nil
    Seeding.addSources_addSources _ (sourceRows_distinct distinct) h
  intro s source s' h
  exact insertSource_eq h

theorem insertTerminals_eq (distinct : (terminals.map (·.terminalId)).Nodup)
    (h : terminals.foldlM insertTerminal s = .ok s') :
    s' = s.addTerminals (missingTerminals s.tables terminals) := by
  apply KeyedTable.run_eq (·.tables.terminals) (fun _ _ => rfl) Seeding.addTerminals_nil
    Seeding.addTerminals_addTerminals _ (seedRows_distinct distinct) h
  intro s terminal s' h
  exact insertTerminal_eq h

/-! ### Upgrades -/

/-- An upgrade chooses rows of its own source, and keeps their identities. -/
theorem upgradable_id (source : Source) (row : SourceRow) (h : upgradable source row = true) :
    row.sourceId = source.sourceId := by
  simp only [upgradable, Bool.and_eq_true, decide_eq_true_eq] at h
  exact h.1.1.1

theorem setPolicy_id (source : Source) (row : SourceRow) :
    (setPolicy source row).sourceId = row.sourceId := rfl

/-- An upgraded row is on its source's own version. -/
theorem not_upgradable_setPolicy (source : Source) (row : SourceRow) :
    upgradable source (setPolicy source row) = false := by
  simp [upgradable, setPolicy, sourceRow]

theorem upgradePolicy_ok_iff :
    upgradePolicy s source = .ok s' ↔
      (∀ row ∈ s.tables.sources, upgradable source row = true →
        violated sourceChecks (setPolicy source row) = none) ∧
      s' = s.upgradeSource source := by
  unfold upgradePolicy
  dsimp only
  cases hcheck : (s.tables.sources.filter (upgradable source)).findSome? fun row =>
      violated sourceChecks (setPolicy source row) with
  | some c =>
    obtain ⟨row, hrow, hviolated⟩ := List.exists_of_findSome?_eq_some hcheck
    obtain ⟨hmem, hupgradable⟩ := List.mem_filter.1 hrow
    simp only [reduceCtorEq, false_iff]
    rintro ⟨hnone, -⟩
    rw [hnone row hmem hupgradable] at hviolated
    cases hviolated
  | none =>
    rw [List.findSome?_eq_none_iff] at hcheck
    simp only [List.mem_filter, and_imp] at hcheck
    simp only [Except.ok.injEq, ← List.countP_eq_length_filter]
    constructor
    · rintro rfl
      exact ⟨hcheck, rfl⟩
    · rintro ⟨-, rfl⟩
      rfl

theorem upgradePolicies_eq (distinct : (sources.map Source.sourceId).Nodup)
    (h : sources.foldlM upgradePolicy s = .ok s') : s' = s.upgradeSources sources := by
  induction sources generalizing s with
  | nil =>
    cases h
    exact (Seeding.upgradeSources_nil _).symm
  | cons source sources ih =>
    obtain ⟨s₁, hfirst, hrest⟩ := Statements.cons_ok_iff.1 h
    obtain ⟨-, rfl⟩ := upgradePolicy_ok_iff.1 hfirst
    rw [ih (List.nodup_cons.1 distinct).2 hrest]
    unfold Seeding.upgradeSources Seeding.upgradeSource
    simp only [KeyedTable.map_settle_cons, Nat.add_assoc,
      KeyedTable.countP_chosen_cons upgradable_id setPolicy_id distinct]

end Statements

end PaxPivot
