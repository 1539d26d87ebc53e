import Mathlib
import PaxPivot.Infrastructure.Bootstrap

/-!
# Seeding keeps the schema

Every statement of a run keeps the constraints of the tables it writes to, so a run that goes
through ends in a database that satisfies them.
-/

namespace PaxPivot

section Schema

variable {s s' : Seeding} {source : Source} {terminal : Terminal} {t : Tables}

namespace Tables

/-- Whether a source is there is a matter of identities. -/
theorem hasSource_eq {id : UUID} :
    t.hasSource id = (t.sources.map (·.sourceId)).any fun i => i = id := by
  unfold hasSource
  rw [List.any_map]
  rfl

/-- References survive when rows are added. -/
theorem hasSource_append {rows : List SourceRow} {id : UUID} (h : t.hasSource id = true) :
    { t with sources := t.sources ++ rows }.hasSource id = true := by
  unfold hasSource at h ⊢
  rw [List.any_append, h, Bool.true_or]

theorem hasTerminal_append {rows : List TerminalRow} {id : UUID} (h : t.hasTerminal id = true) :
    { t with terminals := t.terminals ++ rows }.hasTerminal id = true := by
  unfold hasTerminal at h ⊢
  rw [List.any_append, h, Bool.true_or]

end Tables

theorem all_of_imp {α : Type} {p q : α → Bool} (h : ∀ a, p a = true → q a = true) {o : Option α}
    (ho : o.all p = true) : o.all q = true := by
  cases o with
  | none => rfl
  | some a => exact h a ho

theorem insertSource_schema (schema : s.tables.Schema) (h : insertSource s source = .ok s') :
    s'.tables.Schema := by
  obtain ⟨checked, ⟨-, rfl⟩ | ⟨absent, url, terminals, rfl⟩⟩ := insertSource_ok_iff.1 h
  · exact schema
  · have more : ∀ id, s.tables.hasSource id = true →
        (s.addSources [sourceRow source]).tables.hasSource id = true :=
      fun id hid => Tables.hasSource_append hid
    refine
      { schema with
        sourceIds := ?ids
        sourceUrls := ?urls
        sourcesChecked := ?checked
        sourceTerminals := ?terminals
        evidenceSources := fun r hr => more _ (schema.evidenceSources r hr)
        entranceSources := fun r hr => all_of_imp more (schema.entranceSources r hr)
        observationSources := fun r hr => more _ (schema.observationSources r hr)
        factSources := fun r hr => more _ (schema.factSources r hr) }
    case ids =>
      apply KeyedTable.append_singleton_distinct schema.sourceIds
      intro r hr hid
      exact KeyedTable.find_eq_none_iff.1 absent (List.mem_map.2 ⟨r, hr, hid⟩)
    case urls => exact KeyedTable.append_singleton_distinct schema.sourceUrls url
    case checked =>
      rw [Seeding.addSources_sources, List.forall_mem_append]
      exact ⟨schema.sourcesChecked, List.forall_mem_singleton.2 checked⟩
    case terminals =>
      rw [Seeding.addSources_sources, List.forall_mem_append]
      exact ⟨schema.sourceTerminals, List.forall_mem_singleton.2 terminals⟩

theorem insertTerminal_schema (schema : s.tables.Schema) (h : insertTerminal s terminal = .ok s') :
    s'.tables.Schema := by
  obtain ⟨checked, ⟨-, rfl⟩ | ⟨absent, evidence, entrance, rfl⟩⟩ := insertTerminal_ok_iff.1 h
  · exact schema
  · have more : ∀ id, s.tables.hasTerminal id = true →
        (s.addTerminals [seedRow terminal]).tables.hasTerminal id = true :=
      fun id hid => Tables.hasTerminal_append hid
    refine
      { schema with
        terminalIds := ?ids
        terminalsChecked := ?checked
        sourceTerminals := fun r hr => all_of_imp more (schema.sourceTerminals r hr)
        evidenceSources := ?evidence
        entranceSources := ?entrance
        factTerminals := fun r hr => more _ (schema.factTerminals r hr) }
    case ids =>
      apply KeyedTable.append_singleton_distinct schema.terminalIds
      intro r hr hid
      exact KeyedTable.find_eq_none_iff.1 absent (List.mem_map.2 ⟨r, hr, hid⟩)
    case checked =>
      rw [Seeding.addTerminals_terminals, List.forall_mem_append]
      exact ⟨schema.terminalsChecked, List.forall_mem_singleton.2 checked⟩
    case evidence =>
      rw [Seeding.addTerminals_terminals, List.forall_mem_append]
      exact ⟨schema.evidenceSources, List.forall_mem_singleton.2 evidence⟩
    case entrance =>
      rw [Seeding.addTerminals_terminals, List.forall_mem_append]
      exact ⟨schema.entranceSources, List.forall_mem_singleton.2 entrance⟩

theorem upgradePolicy_schema (schema : s.tables.Schema) (h : upgradePolicy s source = .ok s') :
    s'.tables.Schema := by
  obtain ⟨checked, rfl⟩ := upgradePolicy_ok_iff.1 h
  -- Identities, URLs and references are not policy columns.
  have ids : (s.upgradeSource source).tables.sources.map (·.sourceId) =
      s.tables.sources.map (·.sourceId) := KeyedTable.map_updateWhere fun _ => rfl
  have urls : (s.upgradeSource source).tables.sources.map (·.url) = s.tables.sources.map (·.url) :=
    KeyedTable.map_updateWhere fun _ => rfl
  have same : (s.upgradeSource source).tables.hasSource = s.tables.hasSource := by
    funext id
    rw [Tables.hasSource_eq, ids, ← Tables.hasSource_eq]
  refine
    { schema with
      sourceIds := ids ▸ schema.sourceIds
      sourceUrls := urls ▸ schema.sourceUrls
      sourcesChecked := ?checked
      sourceTerminals := ?terminals
      evidenceSources := same ▸ schema.evidenceSources
      entranceSources := same ▸ schema.entranceSources
      observationSources := same ▸ schema.observationSources
      factSources := same ▸ schema.factSources }
  case checked => exact KeyedTable.forall_mem_updateWhere schema.sourcesChecked checked
  case terminals =>
    apply KeyedTable.forall_mem_updateWhere schema.sourceTerminals
    intro r hr _
    exact schema.sourceTerminals r hr

/-- A run that goes through leaves a database that satisfies the schema. -/
theorem seedStatements_schema (schema : t.Schema) (h : seedStatements t = .ok s) :
    s.tables.Schema := by
  obtain ⟨s₁, s₂, s₃, hdirectory, hterminals, hsources, hupgrades⟩ := seedStatements_ok h
  have schema₁ := insertSource_schema (s := { tables := t }) schema hdirectory
  have schema₂ := Statements.keeps (P := fun s : Seeding => s.tables.Schema)
    (fun _ _ _ hs h => insertTerminal_schema hs h) schema₁ hterminals
  have schema₃ := Statements.keeps (P := fun s : Seeding => s.tables.Schema)
    (fun _ _ _ hs h => insertSource_schema hs h) schema₂ hsources
  exact Statements.keeps (P := fun s : Seeding => s.tables.Schema)
    (fun _ _ _ hs h => upgradePolicy_schema hs h) schema₃ hupgrades

end Schema

end PaxPivot
