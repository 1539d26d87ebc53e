import Mathlib
import PaxPivot.Infrastructure.SeedRuns

/-!
# What seeding leaves alone

People's decisions survive seeding, the counters are true, a second run has nothing to do, and a
run that raises leaves everything as it was.
-/

namespace PaxPivot

/-- A stored reference row whose policy is a person's or already the source's own. -/
def Kept (source : Source) (row : SourceRow) : Prop :=
  row.reviewState = PolicyReviewState.paused.value ∨
    row.reviewState = PolicyReviewState.restricted.value ∨
    row.policyVersionId = source.policy.policyVersionId.text ∨
    row.policyVersionId ∉ upgradablePolicyVersions

/-- A run that went through made `t` into `t'` and returned `n`. -/
structure Seeded (t t' : Tables) (n : Inserted) : Prop where
  schema : t'.Schema
  observations : t'.observations = t.observations
  facts : t'.facts = t.facts
  otherSources : ∀ id ∉ referenceSources.map Source.sourceId, t'.findSource id = t.findSource id
  otherTerminals : ∀ id ∉ referenceTerminals.map (·.terminalId),
    t'.findTerminal id = t.findTerminal id
  storedTerminals : ∀ id row, t.findTerminal id = some row → t'.findTerminal id = some row
  kept : ∀ source ∈ referenceSources, ∀ row, t.findSource source.sourceId = some row →
    Kept source row → t'.findSource source.sourceId = some row
  upgraded : ∀ source ∈ referenceSources, ∀ row, t.findSource source.sourceId = some row →
    ¬ Kept source row → t'.findSource source.sourceId = some (setPolicy source row)
  newSources : ∀ source ∈ referenceSources, t.findSource source.sourceId = none →
    t'.findSource source.sourceId = some (sourceRow source)
  newTerminals : ∀ terminal ∈ referenceTerminals, t.findTerminal terminal.terminalId = none →
    t'.findTerminal terminal.terminalId = some (seedRow terminal)
  /-- The counters are the rows that were not there and the rows that changed. -/
  sourceCount : n.sources = t'.sources.countP fun row => t.findSource row.sourceId = none
  terminalCount : n.terminals = t'.terminals.countP fun row => t.findTerminal row.terminalId = none
  policyCount : n.policiesUpgraded = t.sources.countP fun row => row ∉ t'.sources
  again : seedReferenceData t' = (t', .ok {})

section Decisions

variable {t t' : Tables} {s : Seeding} {source : Source} {row : SourceRow}

theorem upgradable_iff (hrow : row.sourceId = source.sourceId) :
    upgradable source row = true ↔ ¬ Kept source row := by
  unfold upgradable Kept
  have hid : row.sourceId = source.identity.sourceId := hrow
  simp only [hid, decide_true, Bool.true_and, Bool.and_eq_true, decide_eq_true_eq, ne_eq,
    Bool.not_eq_true', List.contains_eq_mem, List.map_cons, List.map_nil, List.mem_cons,
    List.not_mem_nil, or_false, decide_eq_false_iff_not, not_or, not_not]
  tauto

/-! ### What is read afterwards -/

theorem findSource_other (h : seedStatements t = .ok s) {id : UUID}
    (hid : id ∉ referenceSources.map Source.sourceId) :
    s.tables.findSource id = t.findSource id := by
  have unknown : KeyedTable.find (·.sourceId) (referenceSources.map sourceRow) id = none := by
    rw [KeyedTable.find_eq_none_iff, List.map_map]
    exact hid
  rw [findSource_seeded h, unknown, Option.or_none]
  cases hfind : t.findSource id with
  | none => rfl
  | some row =>
    have hrow : row.sourceId = id := KeyedTable.key_of_find hfind
    rw [Option.map_some, upgradeRow_of_not_reference (hrow ▸ hid)]

theorem findTerminal_other (h : seedStatements t = .ok s) {id : UUID}
    (hid : id ∉ referenceTerminals.map (·.terminalId)) :
    s.tables.findTerminal id = t.findTerminal id := by
  have unknown : KeyedTable.find (·.terminalId) (referenceTerminals.map seedRow) id = none := by
    rw [KeyedTable.find_eq_none_iff, List.map_map]
    exact hid
  rw [findTerminal_seeded h, unknown, Option.or_none]

/-- A stored reference source is upgraded or left alone. -/
theorem findSource_stored (h : seedStatements t = .ok s) (hsource : source ∈ referenceSources)
    (hrow : t.findSource source.sourceId = some row) :
    s.tables.findSource source.sourceId =
      some (if upgradable source row then setPolicy source row else row) := by
  have hid : row.sourceId = source.sourceId := KeyedTable.key_of_find hrow
  rw [findSource_seeded h, hrow, Option.some_or, Option.map_some, upgradeRow_eq hsource hid]

theorem findSource_new (h : seedStatements t = .ok s) (hsource : source ∈ referenceSources)
    (hnone : t.findSource source.sourceId = none) :
    s.tables.findSource source.sourceId = some (sourceRow source) := by
  rw [findSource_seeded h, hnone, Option.none_or, find_referenceRow hsource, Option.map_some,
    upgradeRow_sourceRow hsource]

theorem findTerminal_new (h : seedStatements t = .ok s) {terminal : Terminal}
    (hterminal : terminal ∈ referenceTerminals)
    (hnone : t.findTerminal terminal.terminalId = none) :
    s.tables.findTerminal terminal.terminalId = some (seedRow terminal) := by
  rw [findTerminal_seeded h, hnone, Option.none_or, find_referenceTerminal hterminal]

/-! ### What is counted -/

theorem insertedSources_eq (h : seedStatements t = .ok s) :
    s.inserted.sources =
      s.tables.sources.countP fun row => t.findSource row.sourceId = none := by
  have hs := seedStatements_eq h
  have rows : s.tables.sources =
      (t.sources ++ missingSources t referenceSources).map upgradeRow := by
    rw [hs]
    rfl
  have count : s.inserted.sources = (missingSources t referenceSources).length := by
    rw [hs]
    exact Nat.zero_add _
  rw [count, rows, List.countP_map]
  simp only [Function.comp_def, upgradeRow_id]
  exact KeyedTable.countP_gained.symm

theorem insertedTerminals_eq (h : seedStatements t = .ok s) :
    s.inserted.terminals =
      s.tables.terminals.countP fun row => t.findTerminal row.terminalId = none := by
  have hs := seedStatements_eq h
  have rows : s.tables.terminals = t.terminals ++ missingTerminals t referenceTerminals := by
    rw [hs]
    rfl
  have count : s.inserted.terminals = (missingTerminals t referenceTerminals).length := by
    rw [hs]
    exact Nat.zero_add _
  rw [count, rows]
  exact KeyedTable.countP_gained.symm

/-- The upgrades are counted on the rows that were stored before. -/
theorem policiesUpgraded_eq (h : seedStatements t = .ok s) :
    s.inserted.policiesUpgraded =
      t.sources.countP fun row => referenceSources.any (upgradable · row) := by
  have fresh : (missingSources t referenceSources).countP
      (fun row => referenceSources.any (upgradable · row)) = 0 := by
    rw [List.countP_eq_zero]
    intro row hrow
    obtain ⟨source, hsource, rfl⟩ := List.mem_map.1 (List.mem_of_mem_filter hrow)
    rw [Bool.not_eq_true, List.any_eq_false]
    intro other _ hchosen
    have own := not_upgradable_setPolicy other (sourceRow source)
    have hid : source.sourceId = other.sourceId := upgradable_id _ _ hchosen
    have hother : other = source :=
      DistinctKeys.eq_of_key_eq referenceSources_distinct ‹_› hsource hid.symm
    subst hother
    rw [show setPolicy other (sourceRow other) = sourceRow other from rfl, hchosen] at own
    cases own
  have hs := congrArg (·.inserted.policiesUpgraded) (seedStatements_eq h)
  dsimp only [Seeding.upgradeSources, Seeding.addSources, Seeding.addTerminals] at hs
  rw [hs, List.countP_append, fresh]
  omega

/-- A stored row is changed exactly when some reference source upgrades it. -/
theorem any_upgradable_iff (schema : t.Schema) (h : seedStatements t = .ok s)
    (hrow : row ∈ t.sources) :
    referenceSources.any (upgradable · row) = true ↔ row ∉ s.tables.sources := by
  have stored : t.findSource row.sourceId = some row :=
    (KeyedTable.find_eq_some_iff schema.sourceIds).2 ⟨hrow, rfl⟩
  have seeded : s.tables.findSource row.sourceId = some (upgradeRow row) := by
    rw [findSource_seeded h, stored]
    rfl
  have mem_iff : row ∈ s.tables.sources ↔ upgradeRow row = row := by
    rw [← Option.some_inj, ← seeded]
    unfold Tables.findSource
    rw [KeyedTable.find_eq_some_iff (seedStatements_schema schema h).sourceIds]
    simp
  rw [mem_iff, List.any_eq_true]
  constructor
  · rintro ⟨source, hsource, hchosen⟩ hsame
    have own := not_upgradable_setPolicy source row
    rw [upgradeRow_eq hsource (upgradable_id _ _ hchosen), hchosen, if_pos rfl] at hsame
    rw [hsame, hchosen] at own
    cases own
  · intro hchanged
    by_contra none
    apply hchanged
    apply KeyedTable.settle_of_forall
    intro source hsource
    rw [Bool.eq_false_iff]
    exact fun hchosen => none ⟨source, hsource, hchosen⟩

/-! ### What a run does -/

theorem seedReferenceData_ok (h : seedStatements t = .ok s) :
    seedReferenceData t = (s.tables, .ok s.inserted) := by
  unfold seedReferenceData
  rw [h]

theorem seedStatements_seeded (schema : t.Schema) (h : seedStatements t = .ok s) :
    Seeded t s.tables s.inserted := by
  have hs := seedStatements_eq h
  refine
    { schema := seedStatements_schema schema h
      observations := by rw [hs]; rfl
      facts := by rw [hs]; rfl
      otherSources := fun id hid => findSource_other h hid
      otherTerminals := fun id hid => findTerminal_other h hid
      storedTerminals := ?storedTerminals
      kept := ?kept
      upgraded := ?upgraded
      newSources := fun source hsource hnone => findSource_new h hsource hnone
      newTerminals := fun terminal hterminal hnone => findTerminal_new h hterminal hnone
      sourceCount := insertedSources_eq h
      terminalCount := insertedTerminals_eq h
      policyCount := ?policyCount
      again := seedReferenceData_ok (seedStatements_again h) }
  case storedTerminals =>
    intro id row hrow
    rw [findTerminal_seeded h, hrow]
    rfl
  case kept =>
    intro source hsource row hrow hkept
    have hid : row.sourceId = source.sourceId := KeyedTable.key_of_find hrow
    rw [findSource_stored h hsource hrow,
      if_neg fun hchosen => (upgradable_iff hid).1 hchosen hkept]
  case upgraded =>
    intro source hsource row hrow hkept
    have hid : row.sourceId = source.sourceId := KeyedTable.key_of_find hrow
    rw [findSource_stored h hsource hrow, if_pos ((upgradable_iff hid).2 hkept)]
  case policyCount =>
    rw [policiesUpgraded_eq h]
    apply List.countP_congr
    intro row hrow
    rw [any_upgradable_iff schema h hrow, decide_eq_true_eq]

/-- **Seeding respects people's decisions**, has nothing to do a second time, and a statement that
raises undoes the ones before it. -/
theorem seedReferenceData_respects (schema : t.Schema) :
    (∀ t' n, seedReferenceData t = (t', .ok n) → Seeded t t' n) ∧
    ∀ t' e, seedReferenceData t = (t', .error e) → t' = t := by
  unfold seedReferenceData
  constructor
  · intro t' n h
    cases hs : seedStatements t with
    | ok s =>
      rw [hs] at h
      cases h
      exact seedStatements_seeded schema hs
    | error e =>
      rw [hs] at h
      cases h
  · intro t' e h
    cases hs : seedStatements t with
    | ok s =>
      rw [hs] at h
      cases h
    | error e =>
      rw [hs] at h
      cases h
      rfl

/-- A page as it was stored before parsing was approved. -/
def metadataOnlyRow (source : Source) : SourceRow :=
  { sourceRow source with policyVersionId := "terminal-page-metadata-v1", mayParse := false }

/-- A registry with a source of its own, two verified terminals, the page of the first on an older
version, and that of the second on the same version but paused. -/
def operatedTables : Tables where
  sources :=
    [sourceRow (fixtureSource 1), sourceRow directorySource] ++
      (terminalPageSources.take 1).map metadataOnlyRow ++
      ((terminalPageSources.drop 1).take 1).map fun source =>
        { metadataOnlyRow source with reviewState := "paused" }
  terminals := (referenceTerminals.take 2).map fun terminal =>
    { seedRow terminal with operationalState := "verified" }
  observations := []
  facts := []

theorem operatedTables_schema : operatedTables.Schema where
  sourceIds := by decide +kernel
  sourceUrls := by decide +kernel
  sourcesChecked := by decide +kernel
  sourceTerminals := by decide +kernel
  terminalIds := by decide +kernel
  terminalsChecked := by decide +kernel
  evidenceSources := by decide +kernel
  entranceSources := by decide +kernel
  observationIds := List.nodup_nil
  observationSources := List.forall_mem_nil _
  factIds := List.nodup_nil
  factSources := List.forall_mem_nil _
  factTerminals := List.forall_mem_nil _

theorem operatedTables_urlsFree : UrlsFree operatedTables := by
  intro source hsource hnone r hr hurl
  have stored : (fixtureSource 1).identity.url.str ∉
      referenceSources.map (·.identity.url.str) := by
    simp [fixtureSource, referenceSources, terminalPageSources, scheduleArtifactSources,
      terminalPageSource, scheduleArtifactSource, terminalSource, directorySource, HttpUrl.str,
      HttpUrl.userinfo, HttpUrl.hasUserinfo, truthy]
  -- The other rows have the URL and the identity of a reference source.
  have rows : r = sourceRow (fixtureSource 1) ∨ ∃ q ∈ referenceSources,
      r.url = q.identity.url.str ∧ r.sourceId = q.sourceId := by
    simp only [operatedTables, List.append_assoc, List.mem_append, List.mem_cons, List.not_mem_nil,
      or_false, List.mem_map] at hr
    rcases hr with (rfl | rfl) | ⟨q, hq, rfl⟩ | ⟨q, hq, rfl⟩
    · exact .inl rfl
    · exact .inr ⟨directorySource, List.mem_cons_self, rfl, rfl⟩
    · have hmem := List.mem_append_left scheduleArtifactSources (List.mem_of_mem_take hq)
      exact .inr ⟨q, List.mem_cons_of_mem _ hmem, rfl, rfl⟩
    · have hpage := List.mem_of_mem_drop (List.mem_of_mem_take hq)
      have hmem := List.mem_append_left scheduleArtifactSources hpage
      exact .inr ⟨q, List.mem_cons_of_mem _ hmem, rfl, rfl⟩
  rcases rows with rfl | ⟨q, hq, hsame, hid⟩
  · exact stored (List.mem_map.2 ⟨source, hsource, hurl.symm⟩)
  · have hq' : q = source :=
      DistinctKeys.eq_of_key_eq referenceUrls_distinct hq hsource (hsame.symm.trans hurl)
    subst hq'
    exact KeyedTable.find_eq_none_iff.1 hnone (hid ▸ List.mem_map_of_mem hr)

theorem operatedTables_seeded :
    Seeded operatedTables (seedReferenceData operatedTables).1
      { sources := 6, terminals := 2, policiesUpgraded := 1 } := by
  obtain ⟨s, hs⟩ := (seedStatements_isOk_iff operatedTables_schema).2 operatedTables_urlsFree
  have returned : s.inserted = { sources := 6, terminals := 2, policiesUpgraded := 1 } := by
    rw [seedStatements_eq hs]
    decide +kernel
  have run := seedReferenceData_ok hs
  rw [returned] at run
  rw [run]
  exact (seedReferenceData_respects operatedTables_schema).1 _ _ run

end Decisions

end PaxPivot
