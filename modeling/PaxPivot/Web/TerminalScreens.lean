import Mathlib
import PaxPivot.Web.Presentation
import PaxPivot.Web.Terminals

/-!
# The terminal screens

`lib/presentation/adapters/terminals.ts`: the card, the marker and the screen models that the web
builds from a network read and a detail read. JavaScript writes the coordinates of the
directions link as text, and the model takes any writing of numbers.
-/

namespace PaxPivot

/-! ## Views -/

inductive EntranceStatus where
  | verified | unverified
  deriving DecidableEq

structure EntranceView where
  status : EntranceStatus
  label : Fact String
  deriving DecidableEq

structure TerminalCardView where
  id : UUID
  name : Identifier
  installation : Option Identifier
  accessText : Fact String
  evidence : Option SourceEvidenceView
  entrance : EntranceView
  href : String

structure MapPoint where
  latitude : ℚ
  longitude : ℚ
  deriving DecidableEq

/-- A marker of kind `"terminal"`. -/
structure MapMarkerView where
  id : UUID
  label : Identifier
  tone : StatusTone
  statusText : String
  coordinates : Fact MapPoint
  href : String

inductive ScreenStatus where
  | ready | empty
  deriving DecidableEq

structure MapView where
  title : String
  status : ScreenStatus
  markers : List MapMarkerView
  note : String

structure FactView where
  label : String
  value : Fact String
  deriving DecidableEq

structure EvidenceRowView where
  id : UUID
  label : Identifier
  value : Fact String
  tone : StatusTone
  href : HttpUrl

/-- An instant with the text that is shown of it. -/
structure TimeView where
  iso : Int
  text : String
  deriving DecidableEq

structure EvidenceAgeView where
  sourceTime : Fact TimeView
  observedAt : TimeView
  ageText : Fact String

structure TerminalNetworkScreenModel where
  status : ScreenStatus
  reachable : Fact Nat
  excluded : Fact Nat
  map : MapView
  filter : String
  terminals : List TerminalCardView

/-- Without the parts that are the same on every detail screen: no opportunities, no travel
options and no history. -/
structure TerminalDetailScreenModel where
  status : ScreenStatus
  terminal : TerminalCardView
  map : MapView
  stats : List FactView
  directionsHref : Option String
  officialHref : Option HttpUrl
  opportunitiesNote : String
  age : Option EvidenceAgeView
  evidenceRows : List EvidenceRowView
  whyIncluded : String

/-! ## Adapters -/

/-- `ENTRANCE_LABEL`. -/
def entranceLabel : EntranceKind → String
  | .passengerTerminal => "Passenger terminal entrance"
  | .visitorCenter => "Visitor center"
  | .documentedGate => "Documented gate"

def noTrip : String := "Not computed for a trip yet"

def notChecked : String := "Not checked yet"

def noEntrance : String := "No verified passenger entrance on record"

def terminalHref (terminalId : UUID) : String := "/terminals/" ++ terminalId.str

def statusText (summary : TerminalSummaryRead) (nowMs : Int) : String :=
  match summary.latest with
  | none => notChecked
  | some latest => (lexemeFor latest.state).label ++ " · " ++ formatAge latest.observedAt nowMs

def toTerminalCard (summary : TerminalSummaryRead) (nowMs : Int) : TerminalCardView where
  id := summary.terminalId
  name := summary.name
  installation := summary.installation
  accessText := .unknown (some noTrip)
  evidence := summary.latest.map (toEvidenceView · nowMs)
  entrance :=
    match summary.entrance, summary.entranceKind with
    | some _, some kind => ⟨.verified, .known (entranceLabel kind)⟩
    | _, _ => ⟨.unverified, .unknown (some noEntrance)⟩
  href := terminalHref summary.terminalId

/-- Only an entrance becomes a point; a row without one has no location. -/
def toMarker (summary : TerminalSummaryRead) (nowMs : Int) : MapMarkerView where
  id := summary.terminalId
  label := summary.name
  tone := evidenceTone summary.latest
  statusText := statusText summary nowMs
  coordinates := Fact.ofOption noEntrance
    (summary.entrance.map fun e => ⟨e.latitude, e.longitude⟩)
  href := terminalHref summary.terminalId

def mapView (title : String) (summaries : List TerminalSummaryRead) (nowMs : Int) : MapView :=
  let markers := summaries.map (toMarker · nowMs)
  { title
    status := if markers.length > 0 then .ready else .empty
    markers
    note := "Basemap not loaded" }

def toTerminalNetworkScreenModel (read : TerminalNetworkRead) (nowMs : Int) :
    TerminalNetworkScreenModel where
  status := if read.terminals.length > 0 then .ready else .empty
  reachable := .unknown (some noTrip)
  excluded := .unknown (some noTrip)
  map := mapView "Terminal network" read.terminals nowMs
  filter := "all"
  terminals := read.terminals.map (toTerminalCard · nowMs)

def factValue (facts : List TerminalFactRead) (kind : TerminalFactKind) : Fact String :=
  Fact.ofOption "Not published" ((facts.find? fun f => f.kind = kind).map (·.value.text))

def ageView (summary : TerminalSummaryRead) (nowMs : Int) : Option EvidenceAgeView :=
  summary.latest.map fun latest =>
    { sourceTime := Fact.ofOption "Page showed no timestamp"
        (latest.sourceTime.map fun t => ⟨t, formatTimestamp t⟩)
      observedAt := ⟨latest.observedAt, formatTimestamp latest.observedAt⟩
      ageText := .known (formatAge latest.observedAt nowMs) }

/-- A restricted source is never retrieved; without an observation it is shown as restricted, not as
unchecked. -/
def evidenceRow (source : TerminalSourceRead) : EvidenceRowView :=
  if source.latest.isNone ∧ source.reviewState = .restricted then
    let restricted := lexemeFor .restricted
    { id := source.sourceId
      label := source.name
      value := .known restricted.label
      tone := restricted.tone
      href := source.url }
  else
    { id := source.sourceId
      label := source.name
      value := Fact.ofOption notChecked (source.latest.map fun e => (lexemeFor e.state).label)
      tone := evidenceTone source.latest
      href := source.url }

/-- The entrance among the stats of the detail screen. -/
def entranceStat (summary : TerminalSummaryRead) : Fact String :=
  match summary.entrance, summary.entranceKind with
  | some _, some kind => .known (entranceLabel kind)
  | _, _ => .unknown (some "Not verified")

section Detail

-- `${n}` of a number.
variable (numberText : ℚ → String)

def directions (entrance : Coordinates) : String :=
  "https://www.google.com/maps/dir/?api=1&destination=" ++ numberText entrance.latitude ++ "," ++
    numberText entrance.longitude

def toTerminalDetailScreenModel (read : TerminalDetailRead) (nowMs : Int) :
    TerminalDetailScreenModel :=
  let summary := read.summary
  { status := .ready
    terminal := toTerminalCard summary nowMs
    map := mapView "Terminal map" [summary] nowMs
    stats :=
      [⟨"Entrance", entranceStat summary⟩,
        ⟨"Hours", factValue read.facts .counterHours⟩,
        ⟨"Published opportunities", .unknown (some "No approved schedule source yet")⟩,
        ⟨"Parking", factValue read.facts .parking⟩]
    directionsHref := summary.entrance.map (directions numberText)
    officialHref := summary.officialUrl
    opportunitiesNote := opportunitiesNote summary
    age := ageView summary nowMs
    evidenceRows := read.sources.map evidenceRow
    whyIncluded := "Listed in the terminal registry. Travel-time inclusion for a trip is not " ++
      "computed yet." }

end Detail

end PaxPivot
