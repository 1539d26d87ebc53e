import Mathlib
import PaxPivot.Infrastructure.SeedSchema

/-!
# Runs of seeding

The closed form of a run that goes through, why a second run has nothing to do, and when a run
goes through at all.
-/

namespace PaxPivot

/-! ## The closed form of a run -/

/-- What seeding makes of a stored row. -/
def upgradeRow : SourceRow → SourceRow := KeyedTable.settle upgradable setPolicy referenceSources

section Closed

variable {t : Tables} {s : Seeding} {source : Source} {row : SourceRow} {id : UUID}

theorem seedStatements_eq (h : seedStatements t = .ok s) :
    s = ((({ tables := t } : Seeding).addSources (missingSources t referenceSources)).addTerminals
      (missingTerminals t referenceTerminals)).upgradeSources referenceSources := by
  obtain ⟨s₁, s₂, s₃, hdirectory, hterminals, hsources, hupgrades⟩ := seedStatements_ok h
  have distinct := referenceSources_distinct
  rw [referenceSources, List.map_cons] at distinct
  have hrows := sourceRows_distinct referenceSources_distinct
  have inserts : missingSources t [directorySource] ++
      KeyedTable.missing (·.sourceId) (t.sources ++ missingSources t [directorySource])
        ((terminalPageSources ++ scheduleArtifactSources).map sourceRow) =
      missingSources t referenceSources :=
    KeyedTable.missing_append_missing hrows
  rw [upgradePolicies_eq referenceSources_distinct hupgrades,
    insertSources_eq (List.nodup_cons.1 distinct).2 hsources,
    insertTerminals_eq referenceTerminals_distinct hterminals, insertSource_eq hdirectory,
    ← inserts]
  simp [Seeding.addSources, Seeding.addTerminals, missingSources, missingTerminals]

/-- The reference source of an identity decides what happens to a row. -/
theorem upgradeRow_eq (hsource : source ∈ referenceSources)
    (hrow : row.sourceId = source.sourceId) :
    upgradeRow row = if upgradable source row then setPolicy source row else row := by
  cases h : upgradable source row with
  | true =>
    exact KeyedTable.settle_of_chosen upgradable_id setPolicy_id referenceSources_distinct hsource h
  | false =>
    apply KeyedTable.settle_of_forall
    intro other hother
    rw [Bool.eq_false_iff]
    intro hchosen
    have hid : other.sourceId = source.sourceId := (upgradable_id _ _ hchosen).symm.trans hrow
    rw [DistinctKeys.eq_of_key_eq referenceSources_distinct hother hsource hid, h] at hchosen
    cases hchosen

/-- A row of another source is left alone. -/
theorem upgradeRow_of_not_reference (hrow : row.sourceId ∉ referenceSources.map Source.sourceId) :
    upgradeRow row = row := by
  apply KeyedTable.settle_of_forall
  intro source hsource
  rw [Bool.eq_false_iff]
  intro hchosen
  exact hrow (upgradable_id _ _ hchosen ▸ List.mem_map_of_mem hsource)

theorem upgradeRow_id : (upgradeRow row).sourceId = row.sourceId :=
  KeyedTable.settle_key setPolicy_id

/-- What seeding stores for a source is on the source's own version. -/
theorem upgradeRow_sourceRow (hsource : source ∈ referenceSources) :
    upgradeRow (sourceRow source) = sourceRow source := by
  rw [upgradeRow_eq hsource rfl]
  have own : upgradable source (sourceRow source) = false := by
    simp [upgradable, sourceRow]
  rw [own]
  rfl

/-- A row is read as it was or as it was inserted, then upgraded. -/
theorem findSource_seeded (h : seedStatements t = .ok s) :
    s.tables.findSource id =
      ((t.findSource id).or
        (KeyedTable.find (·.sourceId) (referenceSources.map sourceRow) id)).map upgradeRow := by
  rw [seedStatements_eq h]
  unfold Tables.findSource
  change KeyedTable.find _ ((t.sources ++ missingSources t referenceSources).map upgradeRow) id = _
  rw [KeyedTable.find_map fun _ => upgradeRow_id]
  unfold missingSources
  rw [KeyedTable.find_append_missing]

theorem findTerminal_seeded (h : seedStatements t = .ok s) :
    s.tables.findTerminal id =
      (t.findTerminal id).or
        (KeyedTable.find (·.terminalId) (referenceTerminals.map seedRow) id) := by
  rw [seedStatements_eq h]
  exact KeyedTable.find_append_missing

theorem find_referenceRow (hsource : source ∈ referenceSources) :
    KeyedTable.find (·.sourceId) (referenceSources.map sourceRow) source.sourceId =
      some (sourceRow source) := by
  have hrows := sourceRows_distinct referenceSources_distinct
  exact (KeyedTable.find_eq_some_iff hrows).2 ⟨List.mem_map_of_mem hsource, rfl⟩

theorem find_referenceTerminal {terminal : Terminal} (hterminal : terminal ∈ referenceTerminals) :
    KeyedTable.find (·.terminalId) (referenceTerminals.map seedRow) terminal.terminalId =
      some (seedRow terminal) := by
  have hrows := seedRows_distinct referenceTerminals_distinct
  exact (KeyedTable.find_eq_some_iff hrows).2 ⟨List.mem_map_of_mem hterminal, rfl⟩

/-! ## A second run -/

/-- After a run, no row is left to upgrade. -/
theorem not_upgradable_seeded (h : seedStatements t = .ok s) (hsource : source ∈ referenceSources)
    (hrow : row ∈ s.tables.sources) : upgradable source row = false := by
  rw [seedStatements_eq h] at hrow
  obtain ⟨q, -, rfl⟩ := List.mem_map.1 hrow
  exact KeyedTable.not_chosen_settle upgradable_id setPolicy_id not_upgradable_setPolicy
    referenceSources_distinct hsource

/-- **Seeding is idempotent.** -/
theorem seedStatements_again (h : seedStatements t = .ok s) :
    seedStatements s.tables = .ok { tables := s.tables } := by
  have sources : ∀ source ∈ referenceSources,
      insertSource { tables := s.tables } source = .ok { tables := s.tables } := by
    intro source hsource
    apply insertSource_ok_iff.2
    refine ⟨referenceSources_checked source hsource, .inl ⟨?_, rfl⟩⟩
    dsimp only
    rw [findSource_seeded h, find_referenceRow hsource]
    cases t.findSource source.sourceId <;> rfl
  have terminals : ∀ terminal ∈ referenceTerminals,
      insertTerminal { tables := s.tables } terminal = .ok { tables := s.tables } := by
    intro terminal hterminal
    apply insertTerminal_ok_iff.2
    refine ⟨referenceTerminals_checked terminal hterminal, .inl ⟨?_, rfl⟩⟩
    dsimp only
    rw [findTerminal_seeded h, find_referenceTerminal hterminal]
    cases t.findTerminal terminal.terminalId <;> rfl
  have upgrades : ∀ source ∈ referenceSources,
      upgradePolicy { tables := s.tables } source = .ok { tables := s.tables } := by
    intro source hsource
    have none : ∀ row ∈ s.tables.sources, upgradable source row = false :=
      fun row hrow => not_upgradable_seeded h hsource hrow
    apply upgradePolicy_ok_iff.2
    constructor
    · intro row hrow hchosen
      rw [none row hrow] at hchosen
      cases hchosen
    · have count : s.tables.sources.countP (upgradable source) = 0 := by
        rw [List.countP_eq_zero]
        intro row hrow
        rw [none row hrow]
        exact Bool.false_ne_true
      simp [Seeding.upgradeSource, KeyedTable.updateWhere_eq_self none, count]
  have pages := Statements.stays (l := terminalPageSources ++ scheduleArtifactSources)
    fun source hsource => sources source (List.mem_cons_of_mem _ hsource)
  unfold seedStatements
  apply bind_eq_ok_iff.2
  refine ⟨_, sources directorySource List.mem_cons_self, ?_⟩
  apply bind_eq_ok_iff.2
  refine ⟨_, Statements.stays terminals, ?_⟩
  apply bind_eq_ok_iff.2
  exact ⟨_, pages, Statements.stays upgrades⟩

end Closed

/-! ## When a run goes through -/

section Success

variable {t : Tables} {s : Seeding} {source : Source} {row : SourceRow}

/-- No two reference sources have one URL. -/
theorem referenceUrls_distinct : (referenceSources.map (·.identity.url.str)).Nodup := by
  simp [referenceSources, terminalPageSources, scheduleArtifactSources, terminalPageSource,
    scheduleArtifactSource, terminalSource, directorySource, HttpUrl.str, HttpUrl.userinfo,
    HttpUrl.hasUserinfo, truthy]

/-- Nobody else holds the URL of a reference source that is still to come. -/
def UrlsFree (t : Tables) : Prop :=
  ∀ source ∈ referenceSources, t.findSource source.sourceId = none →
    ∀ r ∈ t.sources, r.url ≠ source.identity.url.str

theorem insertSource_goes (hsource : source ∈ referenceSources) (free : UrlsFree s.tables)
    (hterminal : source.terminalId.all s.tables.hasTerminal = true) :
    ∃ s', insertSource s source = .ok s' ∧ UrlsFree s'.tables ∧
      s'.tables.terminals = s.tables.terminals ∧ s'.tables.hasSource source.sourceId = true := by
  have checked := referenceSources_checked source hsource
  cases hfind : s.tables.findSource source.sourceId with
  | some r =>
    refine ⟨s, insertSource_ok_iff.2 ⟨checked, .inl ⟨by rw [hfind]; rfl, rfl⟩⟩, free, rfl, ?_⟩
    have hid : r.sourceId = source.sourceId := KeyedTable.key_of_find hfind
    exact List.any_eq_true.2 ⟨r, List.mem_of_find?_eq_some hfind, decide_eq_true hid⟩
  | none =>
    refine ⟨s.addSources [sourceRow source], ?_, ?_, rfl, ?_⟩
    · exact insertSource_ok_iff.2
        ⟨checked, .inr ⟨hfind, free source hsource hfind, hterminal, rfl⟩⟩
    · intro other hother hnone r hr
      unfold Tables.findSource at hnone
      rw [show (s.addSources [sourceRow source]).tables.sources =
        s.tables.sources ++ [sourceRow source] from rfl, KeyedTable.find_append,
        Option.or_eq_none_iff] at hnone
      rcases List.mem_append.1 hr with hr | hr
      · exact free other hother hnone.1 r hr
      · rw [List.mem_singleton.1 hr]
        intro hurl
        have hsame : other = source :=
          DistinctKeys.eq_of_key_eq referenceUrls_distinct hother hsource hurl.symm
        subst hsame
        exact KeyedTable.find_eq_none_iff.1 hnone.2 (List.mem_singleton_self _)
    · unfold Tables.hasSource
      exact List.any_eq_true.2
        ⟨sourceRow source, List.mem_append_right _ (List.mem_singleton_self _), decide_eq_true rfl⟩

theorem insertSources_go {sources : List Source} (hsources : ∀ source ∈ sources,
      source ∈ referenceSources ∧ source.terminalId.all s.tables.hasTerminal = true)
    (free : UrlsFree s.tables) : ∃ s', sources.foldlM insertSource s = .ok s' := by
  -- The terminals that a source may refer to are all there before the first of them.
  let P (s' : Seeding) : Prop :=
    UrlsFree s'.tables ∧ s'.tables.hasTerminal = s.tables.hasTerminal
  have one : ∀ s', P s' → ∀ source ∈ sources, ∃ s'', insertSource s' source = .ok s'' ∧ P s'' := by
    rintro s' ⟨free', same⟩ source hmem
    obtain ⟨hsource, hterminal⟩ := hsources source hmem
    obtain ⟨s'', h, free'', terminals, -⟩ := insertSource_goes hsource free' (same ▸ hterminal)
    refine ⟨s'', h, free'', ?_⟩
    rw [← same]
    unfold Tables.hasTerminal
    rw [terminals]
  obtain ⟨s', h, -⟩ := Statements.goes one ⟨free, rfl⟩
  exact ⟨s', h⟩

theorem insertTerminal_goes {terminal : Terminal} (hterminal : terminal ∈ referenceTerminals)
    (hdirectory : s.tables.hasSource directorySource.sourceId = true) :
    ∃ s', insertTerminal s terminal = .ok s' ∧ s'.tables.sources = s.tables.sources := by
  have checked := referenceTerminals_checked terminal hterminal
  obtain ⟨evidence, entrance⟩ := referenceTerminals_evidence terminal hterminal
  cases hfind : s.tables.findTerminal terminal.terminalId with
  | some r => exact ⟨s, insertTerminal_ok_iff.2 ⟨checked, .inl ⟨by rw [hfind]; rfl, rfl⟩⟩, rfl⟩
  | none =>
    have hevidence : s.tables.hasSource terminal.evidence.source.sourceId = true := by
      rw [evidence]
      exact hdirectory
    have hentrance : (seedRow terminal).entrance.sourceId.all s.tables.hasSource = true := by
      simp [seedRow, terminalRow, entrance]
    exact ⟨_, insertTerminal_ok_iff.2 ⟨checked, .inr ⟨hfind, hevidence, hentrance, rfl⟩⟩, rfl⟩

theorem insertTerminals_go {terminals : List Terminal}
    (hterminals : ∀ terminal ∈ terminals, terminal ∈ referenceTerminals)
    (hdirectory : s.tables.hasSource directorySource.sourceId = true) :
    ∃ s', terminals.foldlM insertTerminal s = .ok s' ∧ s'.tables.sources = s.tables.sources := by
  -- Inserting terminals leaves the directory where it is.
  have one : ∀ s₁ : Seeding, s₁.tables.sources = s.tables.sources → ∀ terminal ∈ terminals,
      ∃ s₂, insertTerminal s₁ terminal = .ok s₂ ∧ s₂.tables.sources = s.tables.sources := by
    intro s₁ same terminal hterminal
    have hdirectory₁ : s₁.tables.hasSource directorySource.sourceId = true := by
      unfold Tables.hasSource at hdirectory ⊢
      rw [same]
      exact hdirectory
    obtain ⟨s₂, h, same₂⟩ := insertTerminal_goes (hterminals terminal hterminal) hdirectory₁
    exact ⟨s₂, h, same₂.trans same⟩
  exact Statements.goes one rfl

/-- After the inserts, every terminal is there. -/
theorem hasTerminal_inserted {s' : Seeding}
    (h : referenceTerminals.foldlM insertTerminal s = .ok s') {terminal : Terminal}
    (hterminal : terminal ∈ referenceTerminals) :
    s'.tables.hasTerminal terminal.terminalId = true := by
  have found : ∃ r, KeyedTable.find (·.terminalId) s'.tables.terminals terminal.terminalId =
      some r := by
    rw [insertTerminals_eq referenceTerminals_distinct h]
    change ∃ r, KeyedTable.find _ (s.tables.terminals ++ missingTerminals s.tables _) _ = some r
    unfold missingTerminals
    rw [KeyedTable.find_append_missing, find_referenceTerminal hterminal]
    cases KeyedTable.find (·.terminalId) s.tables.terminals terminal.terminalId with
    | none => exact ⟨_, rfl⟩
    | some r => exact ⟨r, rfl⟩
  obtain ⟨r, hfind⟩ := found
  have hid : r.terminalId = terminal.terminalId := KeyedTable.key_of_find hfind
  exact List.any_eq_true.2 ⟨r, List.mem_of_find?_eq_some hfind, decide_eq_true hid⟩

/-- The policy of a checked row on top of a checked row is a checked row. -/
theorem setPolicy_checked (hsource : source ∈ referenceSources)
    (h : violated sourceChecks row = none) :
    violated sourceChecks (setPolicy source row) = none := by
  have new := referenceSources_checked source hsource
  rw [violated_eq_none_iff] at new h ⊢
  simp only [sourceChecks, List.forall_mem_cons] at new h ⊢
  obtain ⟨-, state, raw, -, retention, reviewed, -, nothing, -⟩ := new
  obtain ⟨kind, -, -, cadence, -, -, url, -, -⟩ := h
  exact ⟨kind, state, raw, cadence, retention, reviewed, url, nothing, List.forall_mem_nil _⟩

theorem upgradePolicies_go {sources : List Source}
    (hsources : ∀ source ∈ sources, source ∈ referenceSources) (schema : s.tables.Schema) :
    ∃ s', sources.foldlM upgradePolicy s = .ok s' := by
  have one : ∀ s : Seeding, s.tables.Schema → ∀ source ∈ sources,
      ∃ s', upgradePolicy s source = .ok s' ∧ s'.tables.Schema := by
    intro s schema source hsource
    have h : upgradePolicy s source = .ok (s.upgradeSource source) := by
      apply upgradePolicy_ok_iff.2
      refine ⟨fun row hrow _ => ?_, rfl⟩
      exact setPolicy_checked (hsources source hsource) (schema.sourcesChecked row hrow)
    exact ⟨_, h, upgradePolicy_schema schema h⟩
  obtain ⟨s', h, -⟩ := Statements.goes one schema
  exact ⟨s', h⟩

/-- Every page and every artifact belongs to a reference terminal. -/
theorem terminalSources_terminal : ∀ source ∈ terminalPageSources ++ scheduleArtifactSources,
    ∃ terminal ∈ referenceTerminals, source.terminalId = some terminal.terminalId := by
  intro source hsource
  simp only [terminalPageSources, scheduleArtifactSources, List.cons_append, List.nil_append,
    List.mem_cons, List.not_mem_nil, or_false] at hsource
  simp only [referenceTerminals, List.mem_cons, List.not_mem_nil, or_false, exists_eq_or_imp,
    exists_eq_left]
  rcases hsource with rfl | rfl | rfl | rfl | rfl | rfl | rfl | rfl
  · exact .inl rfl
  · exact .inr (.inl rfl)
  · exact .inr (.inr (.inl rfl))
  · exact .inr (.inr (.inr rfl))
  · exact .inl rfl
  · exact .inr (.inl rfl)
  · exact .inr (.inr (.inl rfl))
  · exact .inr (.inr (.inr rfl))

/-- Where a run goes through, a row in the way of a new source would have to be that source. -/
theorem urlsFree_of_ok (schema : t.Schema) (h : seedStatements t = .ok s) : UrlsFree t := by
  intro source hsource hnone r hr hurl
  have schema' := seedStatements_schema schema h
  have rows : s.tables.sources =
      (t.sources ++ missingSources t referenceSources).map upgradeRow := by
    rw [seedStatements_eq h]
    rfl
  have hr' : upgradeRow r ∈ s.tables.sources := by
    rw [rows]
    exact List.mem_map_of_mem (List.mem_append_left _ hr)
  have hnew : sourceRow source ∈ s.tables.sources := by
    rw [rows, ← upgradeRow_sourceRow hsource]
    apply List.mem_map_of_mem
    apply List.mem_append_right
    exact List.mem_filter.2 ⟨List.mem_map_of_mem hsource, Option.isNone_iff_eq_none.2 hnone⟩
  have keptUrl : (upgradeRow r).url = r.url := KeyedTable.settle_key fun _ _ => rfl
  have hsame := DistinctKeys.eq_of_key_eq schema'.sourceUrls hr' hnew (keptUrl.trans hurl)
  have keptId : (upgradeRow r).sourceId = r.sourceId := upgradeRow_id
  have hid : r.sourceId = source.sourceId := by
    rw [← keptId, hsame]
    rfl
  exact KeyedTable.find_eq_none_iff.1 hnone (hid ▸ List.mem_map_of_mem hr)

/-- **A run goes through exactly when no URL it needs is taken.** -/
theorem seedStatements_isOk_iff (schema : t.Schema) :
    (∃ s, seedStatements t = .ok s) ↔ UrlsFree t := by
  constructor
  · rintro ⟨s, h⟩
    exact urlsFree_of_ok schema h
  · intro free
    obtain ⟨s₁, hdirectory, free₁, -, directory₁⟩ :=
      insertSource_goes (s := { tables := t }) List.mem_cons_self free rfl
    have schema₁ := insertSource_schema (s := { tables := t }) schema hdirectory
    obtain ⟨s₂, hterminals, sources₂⟩ := insertTerminals_go (fun _ h => h) directory₁
    have schema₂ := Statements.keeps (P := fun s : Seeding => s.tables.Schema)
      (fun _ _ _ hs h => insertTerminal_schema hs h) schema₁ hterminals
    have free₂ : UrlsFree s₂.tables := by
      unfold UrlsFree Tables.findSource at free₁ ⊢
      rw [sources₂]
      exact free₁
    have hterminal : ∀ source ∈ terminalPageSources ++ scheduleArtifactSources,
        source ∈ referenceSources ∧ source.terminalId.all s₂.tables.hasTerminal = true := by
      intro source hsource
      refine ⟨List.mem_cons_of_mem _ hsource, ?_⟩
      obtain ⟨terminal, hmem, hid⟩ := terminalSources_terminal source hsource
      rw [hid]
      exact hasTerminal_inserted hterminals hmem
    obtain ⟨s₃, hsources⟩ := insertSources_go hterminal free₂
    have schema₃ := Statements.keeps (P := fun s : Seeding => s.tables.Schema)
      (fun _ _ _ hs h => insertSource_schema hs h) schema₂ hsources
    obtain ⟨s₄, hupgrades⟩ := upgradePolicies_go (fun _ h => h) schema₃
    refine ⟨s₄, ?_⟩
    unfold seedStatements
    apply bind_eq_ok_iff.2
    refine ⟨s₁, hdirectory, ?_⟩
    apply bind_eq_ok_iff.2
    refine ⟨s₂, hterminals, ?_⟩
    apply bind_eq_ok_iff.2
    exact ⟨s₃, hsources, hupgrades⟩

end Success

end PaxPivot
