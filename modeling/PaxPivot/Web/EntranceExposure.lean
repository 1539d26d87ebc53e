import Mathlib
import PaxPivot.Application.TerminalEntrance
import PaxPivot.Web.TerminalScreens

/-!
# Where an entrance is shown

`select_entrance` decides whether an entrance may be shown. The read services do not ask it:
they show what the registry carries, and the screens show what the read services answer. Here
is when the two agree, on the network read, the detail read and every screen model built
from them.
-/

namespace PaxPivot

/-! ## What each path shows -/

/-- The entrance fields of a summary are those of the selected entrance. -/
structure SummaryShows (selected : Option VerifiedEntrance) (summary : TerminalSummaryRead) :
    Prop where
  entrance : summary.entrance = selected.map (·.coordinates)
  kind : summary.entranceKind = selected.map (·.kind)

/-- A card is labelled with the kind of the selected entrance. -/
def CardShows (selected : Option VerifiedEntrance) (card : TerminalCardView) : Prop :=
  card.entrance =
    match selected with
    | some entrance => ⟨.verified, .known (entranceLabel entrance.kind)⟩
    | none => ⟨.unverified, .unknown (some noEntrance)⟩

/-- A marker stands at the selected entrance. -/
def MarkerShows (selected : Option VerifiedEntrance) (marker : MapMarkerView) : Prop :=
  marker.coordinates =
    match selected with
    | some entrance =>
      .known ⟨entrance.coordinates.latitude, entrance.coordinates.longitude⟩
    | none => .unknown (some noEntrance)

section Paths

variable (numberText : ℚ → String) (terminals : TerminalReader) (sources : SourceReader)
  (observations : ObservationReader) (now nowMs : Int)

/-- The `i`-th row of the network read, and of the screen built from it. -/
structure NetworkShows (selected : Option VerifiedEntrance) (i : Nat) : Prop where
  summary : ∀ s, (listTerminalNetwork terminals sources observations now).terminals[i]? = some s →
    SummaryShows selected s
  card : ∀ c, (toTerminalNetworkScreenModel (listTerminalNetwork terminals sources observations now)
    nowMs).terminals[i]? = some c → CardShows selected c
  marker : ∀ m, (toTerminalNetworkScreenModel (listTerminalNetwork terminals sources observations
    now) nowMs).map.markers[i]? = some m → MarkerShows selected m

/-- A detail read, and the screen built from it. -/
structure DetailShows (selected : Option VerifiedEntrance) (detail : TerminalDetailRead) :
    Prop where
  summary : SummaryShows selected detail.summary
  instructions : detail.entranceInstructions = selected.map (·.instructions)
  card : CardShows selected (toTerminalDetailScreenModel numberText detail nowMs).terminal
  marker : ∀ m ∈ (toTerminalDetailScreenModel numberText detail nowMs).map.markers,
    MarkerShows selected m
  stat : ⟨"Entrance", Fact.ofOption "Not verified" (selected.map (entranceLabel ·.kind))⟩ ∈
    (toTerminalDetailScreenModel numberText detail nowMs).stats
  directions : (toTerminalDetailScreenModel numberText detail nowMs).directionsHref =
    selected.map (directions numberText ·.coordinates)

/-- Every path shows the entrance that `select_entrance` answers, and none without one. -/
structure EntranceShown (terminal : Terminal) (id : UUID) : Prop where
  network : ∀ i, terminals.listTerminals[i]? = some terminal →
    NetworkShows terminals sources observations now nowMs (selectEntrance terminal).toOption i
  detail : ∀ detail, getTerminalDetail id terminals sources observations now = .ok detail →
    DetailShows numberText nowMs (selectEntrance terminal).toOption detail

/-- The registry with other base coordinates. -/
def TerminalReader.rebased (base : Terminal → Option Coordinates) : TerminalReader where
  listTerminals := terminals.listTerminals.map fun t => { t with baseCoordinates := base t }
  getTerminal id := (terminals.getTerminal id).map fun t => { t with baseCoordinates := base t }
  listCurrentFacts := terminals.listCurrentFacts

/-- Whatever the base coordinates are, the reads are the same, and so is all that the web makes
of them. -/
structure BaseHidden (id : UUID) : Prop where
  network : ∀ base, listTerminalNetwork (terminals.rebased base) sources observations now =
    listTerminalNetwork terminals sources observations now
  detail : ∀ base, getTerminalDetail id (terminals.rebased base) sources observations now =
    getTerminalDetail id terminals sources observations now

end Paths

/-! ## The reads show what the registry carries -/

section Reads

variable {numberText : ℚ → String} {terminals : TerminalReader} {sources : SourceReader}
  {observations : ObservationReader} {now nowMs : Int} {terminal : Terminal}
  {summary : TerminalSummaryRead} {id : UUID}

theorem terminalSummary_shows (terminalSources : List Source)
    (latest : UUID → Option SourceObservation) :
    SummaryShows terminal.entrance (terminalSummary terminal terminalSources latest now) :=
  ⟨rfl, rfl⟩

/-- A card shows what its summary shows. -/
theorem toTerminalCard_shows {selected : Option VerifiedEntrance}
    (h : SummaryShows selected summary) : CardShows selected (toTerminalCard summary nowMs) := by
  unfold CardShows toTerminalCard
  rw [h.entrance, h.kind]
  cases selected <;> rfl

theorem toMarker_shows {selected : Option VerifiedEntrance} (h : SummaryShows selected summary) :
    MarkerShows selected (toMarker summary nowMs) := by
  unfold MarkerShows toMarker
  rw [h.entrance]
  cases selected <;> rfl

theorem entranceStat_shows {selected : Option VerifiedEntrance}
    (h : SummaryShows selected summary) :
    entranceStat summary = Fact.ofOption "Not verified" (selected.map (entranceLabel ·.kind)) := by
  unfold entranceStat
  rw [h.entrance, h.kind]
  cases selected <;> rfl

/-- A row of the network read and of its screen shows the entrance of its terminal. -/
theorem network_shows {i : Nat} (h : terminals.listTerminals[i]? = some terminal) :
    NetworkShows terminals sources observations now nowMs terminal.entrance i := by
  have shown : ∀ s, (listTerminalNetwork terminals sources observations now).terminals[i]? =
      some s → SummaryShows terminal.entrance s := by
    intro s hs
    unfold listTerminalNetwork at hs
    rw [List.getElem?_map, h, Option.map_some, Option.some_inj] at hs
    subst hs
    exact terminalSummary_shows _ _
  refine ⟨shown, ?_, ?_⟩
  · intro c hc
    unfold toTerminalNetworkScreenModel at hc
    rw [List.getElem?_map, Option.map_eq_some_iff] at hc
    obtain ⟨s, hs, rfl⟩ := hc
    exact toTerminalCard_shows (shown s hs)
  · intro m hm
    unfold toTerminalNetworkScreenModel mapView at hm
    rw [List.getElem?_map, Option.map_eq_some_iff] at hm
    obtain ⟨s, hs, rfl⟩ := hm
    exact toMarker_shows (shown s hs)

/-- The detail screen shows what its summary shows. -/
theorem detailScreen_shows {selected : Option VerifiedEntrance} {detail : TerminalDetailRead}
    (shown : SummaryShows selected detail.summary)
    (instructions : detail.entranceInstructions = selected.map (·.instructions)) :
    DetailShows numberText nowMs selected detail := by
  refine
    { summary := shown
      instructions
      card := toTerminalCard_shows shown
      marker := ?marker
      stat := ?stat
      directions := ?directions }
  case marker =>
    intro m hm
    rw [List.mem_singleton.1 hm]
    exact toMarker_shows shown
  case stat =>
    rw [← entranceStat_shows shown]
    exact List.mem_cons_self
  case directions =>
    unfold toTerminalDetailScreenModel
    dsimp only
    rw [shown.entrance, Option.map_map]
    rfl

/-- A detail read and its screen show the entrance of the terminal. -/
theorem detail_shows (hget : terminals.getTerminal id = some terminal) {detail : TerminalDetailRead}
    (h : getTerminalDetail id terminals sources observations now = .ok detail) :
    DetailShows numberText nowMs terminal.entrance detail := by
  obtain ⟨t, ht, rfl⟩ := getTerminalDetail_ok_iff.1 h
  rw [hget, Option.some_inj] at ht
  subst ht
  exact detailScreen_shows (terminalSummary_shows _ _) rfl

/-- A summary that shows what the registry carries shows no selection but that one. -/
theorem selected_of_shown (shown : SummaryShows (selectEntrance terminal).toOption summary)
    (carried : SummaryShows terminal.entrance summary) :
    (selectEntrance terminal).toOption = terminal.entrance := by
  rcases selectEntrance_toOption_cases terminal with h | h
  · exact h
  · have hentrance := carried.entrance
    rw [shown.entrance, h] at hentrance
    rw [h, eq_comm]
    exact Option.map_eq_none_iff.1 hentrance.symm

theorem base_hidden : BaseHidden terminals sources observations now id := by
  constructor
  · intro base
    unfold listTerminalNetwork TerminalReader.rebased
    rw [List.map_map]
    rfl
  · intro base
    unfold getTerminalDetail TerminalReader.rebased
    dsimp only
    cases terminals.getTerminal id <;> rfl

/-- **Entrances are shown as selected exactly where nothing hangs on the operational state.** Every
path forgets the rule for a terminal that has an entrance and is not verified. -/
theorem entrance_shown_iff (numberText : ℚ → String) (terminals : TerminalReader)
    (sources : SourceReader) (observations : ObservationReader) (now nowMs : Int) (id : UUID)
    (terminal : Terminal) (hget : terminals.getTerminal id = some terminal) :
    EntranceShown numberText terminals sources observations now nowMs terminal id ∧
        BaseHidden terminals sources observations now id ↔
      terminal.entrance = none ∨ terminal.operationalState = .verified := by
  rw [← selectEntrance_toOption_eq_iff]
  constructor
  · rintro ⟨shown, -⟩
    obtain ⟨detail, read⟩ : ∃ detail,
        getTerminalDetail id terminals sources observations now = .ok detail :=
      ⟨_, getTerminalDetail_ok_iff.2 ⟨terminal, hget, rfl⟩⟩
    have carried : DetailShows numberText nowMs terminal.entrance detail := detail_shows hget read
    exact selected_of_shown (shown.detail detail read).summary carried.summary
  · intro same
    refine ⟨⟨?_, ?_⟩, base_hidden⟩
    · intro i h
      rw [same]
      exact network_shows h
    · intro detail h
      rw [same]
      exact detail_shows hget h

end Reads

/-- A gate with instructions. -/
def fixtureEntrance : VerifiedEntrance where
  kind := .documentedGate
  coordinates := ⟨1 / 2, 1 / 2, by norm_num⟩
  verification := fixtureProvenance (fixtureSource 1) 0
  instructions := .lit "Use the documented gate"

/-- Terminal 1, with an entrance and in some operational state. -/
def gateTerminal (operationalState : OperationalState) : Terminal :=
  { fixtureTerminal 1 with operationalState, entrance := some fixtureEntrance }

def gateDatabase (operationalState : OperationalState) : Database :=
  { fixtureDatabase (fixtureSource 1) [] with
    terminals := [gateTerminal operationalState]
    terminalsDistinct := List.nodup_singleton _ }

theorem verified_gate_is_shown :
    (gateDatabase .verified).getTerminal 1 = some (gateTerminal .verified) ∧
      EntranceShown (fun _ => "0.5") (gateDatabase .verified).terminalReader
        (gateDatabase .verified).sourceReader (gateDatabase .verified).observationReader 0 0
        (gateTerminal .verified) 1 :=
  ⟨rfl, ((entrance_shown_iff (fun _ => "0.5") (gateDatabase .verified).terminalReader
    (gateDatabase .verified).sourceReader (gateDatabase .verified).observationReader 0 0 1
    (gateTerminal .verified) rfl).2 (.inr rfl)).1⟩

/-- A gate where operations have ended is shown with its instructions, and the traveler is sent
there. -/
theorem ended_gate_is_shown :
    selectEntrance (gateTerminal .ended) = .error (terminalFailure .unavailable serviceEnded) ∧
    ∃ detail, getTerminalDetail 1 (gateDatabase .ended).terminalReader
        (gateDatabase .ended).sourceReader (gateDatabase .ended).observationReader 0 = .ok detail ∧
      detail.summary.entrance = some fixtureEntrance.coordinates ∧
      detail.entranceInstructions = some fixtureEntrance.instructions ∧
      (toTerminalDetailScreenModel (fun _ => "0.5") detail 0).directionsHref =
        some "https://www.google.com/maps/dir/?api=1&destination=0.5,0.5" := by
  refine ⟨rfl, _, rfl, rfl, rfl, ?_⟩
  decide

end PaxPivot
