import PaxPivot.Application.DisplayGate

/-!
# One freshness in every read

The terminal network, the terminal detail (headline and source rows) and source
health each derive what they show. Over one database and at one time they show
what the current observations honestly read as, and they agree.
-/

namespace PaxPivot

namespace Database

variable (db : Database)

/-- `list_terminal_network` on this database. -/
def terminalNetwork (now : Int) : TerminalNetworkRead :=
  listTerminalNetwork db.terminalReader db.sourceReader db.observationReader now

/-- `list_source_health` on this database. -/
def sourceHealth (now : Int) : SourceHealthRead :=
  listSourceHealth db.sourceReader db.observationReader db.killSwitchReader now

/-- `e` is an honest read of the current observation of `source`. -/
def ShowsCurrent (now : Int) (source : Source) (e : SourceEvidenceRead) : Prop :=
  ∃ row, Current db.observations row ∧ row.sourceId = source.sourceId ∧
    ReadsHonestly row.observation now e

/-- What holds of the evidence on a terminal: it is a current observation of one
of the terminal's sources, and that source is not restricted. -/
def ShowsOnTerminal (now : Int) (terminalId : UUID) (e : SourceEvidenceRead) : Prop :=
  ∃ s ∈ db.registry.sources, s.terminalId = some terminalId ∧ s.restricted = false ∧
    db.ShowsCurrent now s e

/-- How a terminal's detail agrees with the other reads. -/
structure DetailAgrees (now : Int) (terminalId : UUID) (detail : TerminalDetailRead) : Prop where
  onNetwork : detail.summary ∈ (db.terminalNetwork now).terminals
  networkHeadline : ∀ t ∈ (db.terminalNetwork now).terminals, t.terminalId = terminalId →
    t = detail.summary
  headline : detail.summary.latest =
    FirstMax.firstMax (·.observedAt) (detail.sources.filterMap (·.latest))
  newest : ∀ e, detail.summary.latest = some e →
    ∀ row ∈ detail.sources, ∀ e', row.latest = some e' → e'.observedAt ≤ e.observedAt
  hasHealthRow : ∀ row ∈ detail.sources, ∃ h ∈ (db.sourceHealth now).rows,
    h.sourceId = row.sourceId
  healthRow : ∀ row ∈ detail.sources, ∀ h ∈ (db.sourceHealth now).rows,
    h.sourceId = row.sourceId →
      row = { sourceId := h.sourceId, name := h.name, url := h.url, kind := h.kind
              enabled := h.enabled, reviewState := h.reviewState
              latest := if h.reviewState = .restricted then none else h.latest }

variable {db} {now : Int} {terminalId : UUID} {detail : TerminalDetailRead}
  {e : SourceEvidenceRead}

theorem showsCurrent_of_latest {s : Source} {o : SourceObservation}
    (h : latestPerSource db.observations s.sourceId = some o) (he : ReadsHonestly o now e) :
    db.ShowsCurrent now s e := by
  obtain ⟨row, current, hsource, rfl⟩ :=
    (latestPerSource_eq_some_iff db.observationsStored).1 h
  exact ⟨row, current, hsource, he⟩

/-- A source row shows its source, or nothing. -/
theorem showsCurrent_of_sourceRow {s : Source}
    (h : (terminalSourceRead (latestPerSource db.observations) now s).latest = some e) :
    s.restricted = false ∧ db.ShowsCurrent now s e := by
  obtain ⟨hopen, o, ho, he⟩ := terminalSourceRead_latest_eq_some h
  exact ⟨hopen, showsCurrent_of_latest ho he⟩

/-- The headline is one of the source rows. -/
theorem showsOnTerminal_of_summary {terminal : Terminal}
    (h : (terminalSummary terminal (db.listTerminalSources terminal.terminalId)
      (latestPerSource db.observations) now).latest = some e) :
    db.ShowsOnTerminal now terminal.terminalId e := by
  rw [terminalSummary_latest] at h
  obtain ⟨row, hrow, hlatest⟩ := List.mem_filterMap.1 (FirstMax.firstMax_mem h)
  obtain ⟨s, hs, rfl⟩ := List.mem_map.1 hrow
  obtain ⟨hregistered, hterminal⟩ := mem_listTerminalSources.1 hs
  obtain ⟨hopen, hshows⟩ := showsCurrent_of_sourceRow hlatest
  exact ⟨s, hregistered, hterminal, hopen, hshows⟩

theorem mem_terminalNetwork {t : TerminalSummaryRead} :
    t ∈ (db.terminalNetwork now).terminals ↔
      ∃ terminal, db.getTerminal terminal.terminalId = some terminal ∧
        terminalSummary terminal (db.listTerminalSources terminal.terminalId)
          (latestPerSource db.observations) now = t := by
  show t ∈ db.listTerminals.map _ ↔ _
  rw [List.mem_map]
  simp only [mem_listTerminals]
  rfl

theorem mem_sourceHealth {row : SourceHealthRowRead} :
    row ∈ (db.sourceHealth now).rows ↔ ∃ s ∈ db.registry.sources,
      healthRow s (latestPerSource db.observations s.sourceId) db.listEngaged now = row := by
  show row ∈ db.listSources.map _ ↔ _
  rw [List.mem_map]
  simp only [mem_listSources]
  rfl

theorem terminalDetail_ok_iff :
    db.terminalDetail terminalId now = .ok detail ↔
      ∃ terminal, db.getTerminal terminalId = some terminal ∧ detail =
        { generatedAt := now
          summary := terminalSummary terminal (db.listTerminalSources terminalId)
            (latestPerSource db.observations) now
          entranceInstructions := terminal.entrance.map (·.instructions)
          facts := (displayableFacts (db.listCurrentFacts terminalId) db.sourceReader).map factRead
          sources := (db.listTerminalSources terminalId).map
            (terminalSourceRead (latestPerSource db.observations) now) } :=
  getTerminalDetail_ok_iff

/-- A terminal's row of a source against the health row of the same source. -/
theorem terminalSourceRead_eq (s : Source) (latest : UUID → Option SourceObservation)
    (switches : List KillSwitch) :
    let h := healthRow s (latest s.sourceId) switches now
    terminalSourceRead latest now s =
      { sourceId := h.sourceId, name := h.name, url := h.url, kind := h.kind
        enabled := h.enabled, reviewState := h.reviewState
        latest := if h.reviewState = .restricted then none else h.latest } := by
  unfold terminalSourceRead observedOn Source.restricted healthRow
  by_cases h : s.policy.reviewState = .restricted <;> simp [h]

theorem detailAgrees (h : db.terminalDetail terminalId now = .ok detail) :
    db.DetailAgrees now terminalId detail := by
  obtain ⟨terminal, hterminal, rfl⟩ := terminalDetail_ok_iff.1 h
  obtain rfl : terminal.terminalId = terminalId := (getTerminal_eq_some_iff.1 hterminal).2
  refine ⟨mem_terminalNetwork.2 ⟨terminal, hterminal, rfl⟩, ?_, ?_, ?_, ?_, ?_⟩
  · intro t ht hid
    obtain ⟨terminal', hterminal', rfl⟩ := mem_terminalNetwork.1 ht
    have hsame : terminal'.terminalId = terminal.terminalId := hid
    rw [hsame, hterminal] at hterminal'
    obtain rfl := Option.some.inj hterminal'
    rfl
  · exact terminalSummary_latest _ _ _
  · intro e he row hrow e' he'
    rw [terminalSummary_latest] at he
    exact FirstMax.le_firstMax he e' (List.mem_filterMap.2 ⟨row, hrow, he'⟩)
  · intro row hrow
    obtain ⟨s, hs, rfl⟩ := List.mem_map.1 hrow
    exact ⟨_, mem_sourceHealth.2 ⟨s, (mem_listTerminalSources.1 hs).1, rfl⟩, rfl⟩
  · intro row hrow health hhealth hid
    obtain ⟨s, hs, rfl⟩ := List.mem_map.1 hrow
    obtain ⟨s', hs', rfl⟩ := mem_sourceHealth.1 hhealth
    obtain rfl := DistinctKeys.eq_of_key_eq db.registry.distinct hs'
      (mem_listTerminalSources.1 hs).1 hid
    exact terminalSourceRead_eq s' _ _

/-- Every registered source is counted once: under the state it shows, or as
never observed. -/
theorem counts_add_neverObserved :
    ((db.sourceHealth now).counts.map (·.count)).sum + (db.sourceHealth now).neverObserved =
      db.registry.sources.length := by
  have split : ∀ rows : List SourceHealthRowRead,
      (shownStates rows).length + rows.countP (fun row => row.latest.isNone) = rows.length := by
    intro rows
    induction rows with
    | nil => rfl
    | cons row rows ih =>
      unfold shownStates at ih ⊢
      cases h : row.latest <;> simp [h] <;> omega
  have hcounts : ((db.sourceHealth now).counts.map (·.count)).sum =
      (shownStates (db.sourceHealth now).rows).length := by
    unfold sourceHealth listSourceHealth
    dsimp only
    rw [List.map_map, ← Tally.sum_tally]
    exact ((List.perm_insertionSort _ _).map Prod.snd).sum_nat
  rw [hcounts]
  apply (split _).trans
  show (db.listSources.map _).length = _
  rw [List.length_map]
  exact List.length_insertionSort _ _

/-- **Freshness is honest in every read and the reads agree.** -/
theorem freshness_honest (db : Database) (now : Int) :
    (∀ t ∈ (db.terminalNetwork now).terminals, ∀ e, t.latest = some e →
      db.ShowsOnTerminal now t.terminalId e) ∧
    (∀ terminalId detail, db.terminalDetail terminalId now = .ok detail →
      (∀ e, detail.summary.latest = some e → db.ShowsOnTerminal now terminalId e) ∧
      (∀ row ∈ detail.sources, ∀ e, row.latest = some e →
        ∃ s ∈ db.registry.sources, s.sourceId = row.sourceId ∧
          s.terminalId = some terminalId ∧ s.restricted = false ∧ db.ShowsCurrent now s e) ∧
      db.DetailAgrees now terminalId detail) ∧
    (∀ row ∈ (db.sourceHealth now).rows, ∀ e, row.latest = some e →
      ∃ s ∈ db.registry.sources, s.sourceId = row.sourceId ∧ db.ShowsCurrent now s e) ∧
    (∀ o, { (effective o now).toObservationFields with state := o.state } =
      o.toObservationFields) ∧
    (∀ o, (evidenceRead o now).state = .stale →
      ∀ later, now ≤ later → (evidenceRead o later).state = .stale) ∧
    Tally.Exact ((db.sourceHealth now).counts.map fun c => (c.state, c.count))
      (shownStates (db.sourceHealth now).rows) ∧
    ((db.sourceHealth now).counts.map (·.count)).sum + (db.sourceHealth now).neverObserved =
      db.registry.sources.length := by
  refine ⟨?_, ?_, ?_, fun o => effective_stored o now, fun o h later => evidenceRead_stale_mono h,
    listSourceHealth_counts, counts_add_neverObserved⟩
  · intro t ht e he
    obtain ⟨terminal, -, rfl⟩ := mem_terminalNetwork.1 ht
    exact showsOnTerminal_of_summary he
  · intro terminalId detail hdetail
    have agrees := detailAgrees hdetail
    obtain ⟨terminal, hterminal, rfl⟩ := terminalDetail_ok_iff.1 hdetail
    obtain rfl : terminal.terminalId = terminalId := (getTerminal_eq_some_iff.1 hterminal).2
    refine ⟨fun e he => showsOnTerminal_of_summary he, ?_, agrees⟩
    intro row hrow e he
    obtain ⟨s, hs, rfl⟩ := List.mem_map.1 hrow
    obtain ⟨hregistered, hplaced⟩ := mem_listTerminalSources.1 hs
    obtain ⟨hopen, hshows⟩ := showsCurrent_of_sourceRow he
    exact ⟨s, hregistered, rfl, hplaced, hopen, hshows⟩
  · intro row hrow e he
    obtain ⟨s, hs, rfl⟩ := mem_sourceHealth.1 hrow
    obtain ⟨o, ho, rfl⟩ := Option.map_eq_some_iff.1 he
    exact ⟨s, hs, rfl, showsCurrent_of_latest ho (evidenceRead_honest o now)⟩

end Database

end PaxPivot
