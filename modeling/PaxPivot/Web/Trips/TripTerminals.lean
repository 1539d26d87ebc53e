import PaxPivot.Library.StableSort
import PaxPivot.Web.Trips.TripPages

/-!
# The terminals that a trip's page lists

The list of a trip's page over the API: one read of the network and one of each terminal, every
one at its own moment, and any of them may fail. No terminal is lost by a failed read, and no
link is shown that is not registered.
-/

namespace PaxPivot

/-! ## The order -/

section Order

variable {localeCompare : Identifier → Identifier → Ordering}
  {terminals : List TerminalSummaryRead} {origin : UUID}

/-- An order of terminals that is no ranking: the origin, then the others by name; those whose
names the locale does not tell apart keep the order they came in. -/
structure OriginFirst (localeCompare : Identifier → Identifier → Ordering) (origin : UUID)
    (terminals ordered : List TerminalSummaryRead) : Prop where
  perm : ordered.Perm terminals
  first : ∃ others, ordered = terminals.filter (fun t => t.terminalId = origin) ++ others ∧
    (∀ t ∈ others, t.terminalId ≠ origin) ∧
    others.Pairwise (fun a b => localeCompare a.name b.name ≠ .gt) ∧
    ∀ name, others.filter (fun t => localeCompare name t.name = .eq) =
      (terminals.filter fun t => t.terminalId ≠ origin).filter fun t =>
        localeCompare name t.name = .eq

theorem orderTerminals_originFirst (collates : Collates localeCompare) :
    OriginFirst localeCompare origin terminals
      (orderTerminals localeCompare terminals origin) := by
  have total := collates.notAfter_total
  have trans := collates.notAfter_trans
  refine ⟨orderTerminals_perm terminals origin, _, rfl, ?_, ?_, ?_⟩
  · intro t ht
    have kept := (List.mem_insertionSort _).1 ht
    simpa using List.of_mem_filter kept
  · exact List.pairwise_insertionSort (NotAfter localeCompare) _
  · intro name
    rw [StableSort.filter_insertionSort]
    apply List.Pairwise.insertionSort_eq
    apply List.pairwise_of_forall_mem_list
    intro a ha b hb
    exact collates.same_notAfter (by simpa using List.of_mem_filter ha)
      (by simpa using List.of_mem_filter hb)

end Order

/-! ## The links -/

/-- The schedule link of a terminal at the moment of its read: the first source of its kind that is
registered for it. -/
def registeredSchedule (s : Server) (id : UUID) : Fact ScheduleLink :=
  match (s.database.listTerminalSources id).find? fun source => source.kind = .scheduleArtifact with
  | some source => .known { href := source.identity.url, label := scheduleLabel }
  | none => .unknown (some scheduleNotRegistered)

theorem scheduleFact_detail {s : Server} {id : UUID} {now : Int} {detail : TerminalDetailRead}
    (h : s.detail now id = .ok detail) :
    scheduleFact (some (.ok detail)) = registeredSchedule s id := by
  obtain ⟨terminal, -, rfl⟩ := getTerminalDetail_ok_iff.1 h
  unfold scheduleFact registeredSchedule
  dsimp only
  rw [List.find?_map]
  have kinds : (fun source : TerminalSourceRead => decide (source.kind = .scheduleArtifact)) ∘
      terminalSourceRead s.database.observationReader.latestPerSource now =
        fun source => decide (source.kind = .scheduleArtifact) := rfl
  have sources : s.database.sourceReader.listTerminalSources id =
      s.database.listTerminalSources id := rfl
  rw [kinds, sources]
  cases (s.database.listTerminalSources id).find? fun source => source.kind = .scheduleArtifact with
  | none => rfl
  | some source => rfl

/-- A link that is shown is of a source that is registered for the terminal as a schedule. -/
theorem registeredSchedule_known {s : Server} {id : UUID} {link : ScheduleLink}
    (h : registeredSchedule s id = .known link) :
    ∃ source ∈ s.database.registry.sources, source.terminalId = some id ∧
      source.kind = .scheduleArtifact ∧ link.href = source.identity.url := by
  unfold registeredSchedule at h
  split at h
  case h_1 source found =>
    obtain ⟨registered, terminal⟩ :=
      Database.mem_listTerminalSources.1 (List.mem_of_find?_eq_some found)
    have kind : source.kind = .scheduleArtifact := by simpa using List.find?_some found
    obtain rfl := Fact.known.inj h
    exact ⟨source, registered, terminal, kind, rfl⟩
  case h_2 => cases h

/-- A row beside the page of its terminal: what both show is the same. -/
structure RowOf (numberText : ℚ → String) (s : Server) (now nowMs : Int) (trip : TripRead)
    (row : TerminalToCheckRowView) : Prop where
  origin : row.isOrigin = decide (row.id = trip.originTerminalId)
  detail : ∃ detail, s.detail now row.id = .ok detail ∧
    let screen := toTerminalDetailScreenModel numberText detail nowMs
    row.name = screen.terminal.name ∧ row.installation = screen.terminal.installation ∧
      row.evidence = screen.terminal.evidence ∧ row.age = screen.age ∧
      row.officialHref = screen.officialHref

section List

variable {site : Site} {s : Server} {reached : Bool} {now nowMs : Int} {trip : TripRead}
  {localeCompare : Identifier → Identifier → Ordering}

/-- **Every row is of a registered terminal**, and shows what came of that terminal's own read. -/
theorem rows_cases {readDetail : UUID → ApiResult TerminalDetailRead} {row : TerminalToCheckRowView}
    (h : row ∈ (toTerminalsToCheckViewModel localeCompare trip (s.network now)
      (readTerminalDetails readDetail (s.network now)) nowMs).rows) (numberText : ℚ → String) :
    RowOf numberText s now nowMs trip row ∧ row.schedule = scheduleFact (some (readDetail row.id)) := by
  obtain ⟨summary, hsummary, rfl⟩ := List.mem_map.1 h
  have within := (orderTerminals_perm _ trip.originTerminalId).mem_iff.1 hsummary
  obtain ⟨terminal, hterminal, rfl⟩ := List.mem_map.1 within
  have found := Database.mem_listTerminals.1 hterminal
  refine ⟨⟨rfl, _, getTerminalDetail_ok_iff.2 ⟨terminal, found, rfl⟩, rfl, rfl, rfl, rfl, rfl⟩, ?_⟩
  have distinct : ((s.network now).terminals.map (·.terminalId)).Nodup :=
    network_ids.nodup_iff.2 s.database.terminalsDistinct
  have asked := DistinctKeys.find?_key distinct within
  show scheduleFact (((s.network now).terminals.find? _).map _) = _
  rw [asked]
  rfl

/-- **The list of a trip's page is the registered terminals, each once, in an order that is no
ranking.** Each is shown as on its own page. Its schedule is linked only by the address that is
registered for it; a detail that cannot be read costs its own link and nothing else. -/
theorem terminals_to_check_true (site : Site) (s : Server) (now : Int)
    (admitted : Admitted site reached) (collates : Collates localeCompare)
    (numberText : ℚ → String) (trip : TripRead) (moment : UUID → Server) (reached' : UUID → Bool)
    (now' : UUID → Int) (nowMs : Int) :
    site.readNetwork s reached now = .ok (s.network now) ∧
      let readDetail := fun id => site.readDetail (moment id) (reached' id) (now' id) id
      let view := toTerminalsToCheckViewModel localeCompare trip (s.network now)
        (readTerminalDetails readDetail (s.network now)) nowMs
      (view.rows.map (·.id)).Perm (s.database.terminals.map (·.terminalId)) ∧
      (∃ ordered, OriginFirst localeCompare trip.originTerminalId (s.network now).terminals ordered ∧
        view.rows.map (·.id) = ordered.map (·.terminalId)) ∧
      (∀ row ∈ view.rows, RowOf numberText s now nowMs trip row) ∧
      ∀ row ∈ view.rows,
        let readable := Admitted site (reached' row.id) ∧
          ∃ terminal, (moment row.id).database.getTerminal row.id = some terminal
        (readable → row.schedule = registeredSchedule (moment row.id) row.id) ∧
        (¬ readable → row.schedule = .unknown (some scheduleLoadFailed)) ∧
        ∀ link, row.schedule = .known link →
          ∃ source ∈ (moment row.id).database.registry.sources, source.terminalId = some row.id ∧
            source.kind = .scheduleArtifact ∧ link.href = source.identity.url := by
  refine ⟨readNetwork_admitted admitted, ?_⟩
  intro readDetail view
  have ids : view.rows.map (·.id) = (orderTerminals localeCompare (s.network now).terminals
      trip.originTerminalId).map (·.terminalId) := List.map_map
  refine ⟨?_, ⟨_, orderTerminals_originFirst collates, ids⟩,
    fun row hrow => (rows_cases hrow numberText).1, ?_⟩
  · rw [ids]
    exact ((orderTerminals_perm _ _).map _).trans network_ids
  · intro row hrow readable
    rw [(rows_cases hrow numberText).2]
    rcases readDetail_cases site (moment row.id) (reached' row.id) (now' row.id) row.id with
      ⟨admitted', detail, hdetail, read⟩ | ⟨unreadable, failure, read⟩
    · have found : readable := by
        obtain ⟨terminal, found, -⟩ := getTerminalDetail_ok_iff.1 hdetail
        exact ⟨admitted', terminal, found⟩
      rw [show readDetail row.id = .ok detail from read, scheduleFact_detail hdetail]
      exact ⟨fun _ => rfl, fun unreadable => absurd found unreadable,
        fun link known => registeredSchedule_known known⟩
    · rw [show readDetail row.id = .error failure from read]
      refine ⟨fun readable => absurd readable unreadable, fun _ => rfl, fun link known => ?_⟩
      cases known

/-- Names by their code points. -/
def fixtureCompare (a b : Identifier) : Ordering := compare a.text b.text

theorem fixture_collates : Collates fixtureCompare where
  swap a b := by
    show compare b.text a.text = (compare a.text b.text).swap
    exact Std.OrientedCmp.eq_swap
  trans a b c hab hbc := by
    have le : ∀ x y : String, compare x y ≠ .gt ↔ (compare x y).isLE = true := by
      intro x y
      cases compare x y <;> decide
    exact (le _ _).2 (Std.TransCmp.isLE_trans ((le _ _).1 hab) ((le _ _).1 hbc))

/-- The list beside a trip of the fixture database whose detail does not come through. -/
theorem fixture_schedule_lost :
    let s := Server.start (fixtureDatabase (fixtureSource 1) [])
    let trip : TripRead :=
      { tripId := 7, originTerminalId := 1, originTerminalName := .lit "Origin of the list"
        destinationText := "Example destination", windowStart := 0, windowEnd := 1, partySize := 2
        createdAt := 0 }
    let view := toTerminalsToCheckViewModel fixtureCompare trip (s.network 0)
      (readTerminalDetails (fun id => fixtureSite.readDetail s false 0 id) (s.network 0)) 0
    view.rows.length = 1 ∧ ∀ row ∈ view.rows, row.schedule = .unknown (some scheduleLoadFailed) := by
  intro s trip view
  obtain ⟨-, perm, -, -, links⟩ := terminals_to_check_true fixtureSite s 0 fixture_admitted
    fixture_collates (fun _ => "") trip (fun _ => s) (fun _ => false) (fun _ => 0) 0
  refine ⟨?_, fun row hrow => (links row hrow).2.1 ?_⟩
  · have length := perm.length_eq
    rwa [List.length_map, List.length_map] at length
  · rintro ⟨admitted, -⟩
    cases admitted.reached

end List

end PaxPivot
