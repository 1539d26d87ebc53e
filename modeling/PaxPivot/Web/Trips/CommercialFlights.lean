import PaxPivot.Application.TripService
import PaxPivot.Library.FormText
import PaxPivot.Web.Timestamps
import PaxPivot.Web.TerminalScreens

/-!
# The commercial handoff

`lib/presentation/commercial-flights-link.ts`, `terminal-origin-airports.ts` and
`adapters/commercial-handoff.ts`: a link to a flight search with what the trip asks for. The text of
an instant on the wire is a parameter.
-/

namespace PaxPivot

open FormEncoding (formEncode formParse formSerialize)
open WebUrl (Origin Url)

/-! ## The link -/

structure CommercialFlightsLinkInput where
  destinationText : String
  windowStartIso : String
  windowEndIso : String
  partySize : Int
  originAirports : List String

/-- `iso.slice(0, 10)`. -/
def isoDateOnly (iso : String) : String := String.ofList (iso.toList.take 10)

def partyText (size : Int) : String :=
  if size = 1 then "1 traveler" else toString size ++ " travelers"

def buildGoogleFlightsQueryText (input : CommercialFlightsLinkInput) : String :=
  let start := isoDateOnly input.windowStartIso
  let stop := isoDateOnly input.windowEndIso
  let fromClause := if input.originAirports.length > 0 then
    " from " ++ ", ".intercalate input.originAirports else ""
  "Flights to " ++ input.destinationText ++ fromClause ++ " on " ++ start ++ " through " ++
    stop ++ " for " ++ partyText input.partySize

def googleOrigin : Origin := { scheme := .https, host := "www.google.com", port := none }

def flightsPath : List (List Char) := ["travel".toList, "flights".toList]

/-- `GOOGLE_FLIGHTS_BASE_URL`. -/
def googleFlightsPlainUrl : Url := { origin := googleOrigin, path := flightsPath, query := none }

def qField : List Char := ['q']

/-- `searchParams.set("q", …)` on the base. -/
def buildGoogleFlightsSearchUrl (input : CommercialFlightsLinkInput) : Url :=
  { googleFlightsPlainUrl with
    query := some (formSerialize [(qField, (buildGoogleFlightsQueryText input).toList)]) }

/-- `url.toString()`. -/
def hrefText (url : Url) : List Char := url.origin.text.toList ++ url.pathSearch

/-! ## Origin airports -/

def curatedOriginAirports : List (String × List String) :=
  [("Joint Base McGuire-Dix-Lakehurst Passenger Terminal", ["PHL", "TTN", "EWR"]),
    ("Dover AFB Passenger Terminal", ["PHL", "BWI"]),
    ("BWI AMC Passenger Terminal", ["BWI"]),
    ("Joint Base Andrews Passenger Terminal", ["DCA", "IAD", "BWI"])]

/-- The functions with parameters that every object has by name. -/
def inheritedFunctions : List String :=
  ["constructor", "hasOwnProperty", "isPrototypeOf", "propertyIsEnumerable", "__defineGetter__",
    "__defineSetter__", "__lookupGetter__", "__lookupSetter__"]

/-- `originAirportsForTerminal`, and `none` where the name is that of an inherited function: it has
a length, and `join` raises on it. -/
def originAirportsForTerminal (terminalName : String) : Option (List String) :=
  match curatedOriginAirports.find? fun entry => entry.1 = terminalName with
  | some entry => some entry.2
  | none => if terminalName ∈ inheritedFunctions then none else some []

/-! ## The handoff -/

structure CommercialHandoffViewModel where
  facts : List FactView
  prefilledHref : Url
  plainHref : Url

def noCuratedAirportsNote : String := "No curated airports are listed for this terminal yet."

def windowText (trip : TripRead) : String :=
  formatTimestamp trip.windowStart ++ " – " ++ formatTimestamp trip.windowEnd

section Handoff

-- An instant as the API writes it.
variable (isoText : Int → String)

def linkInput (trip : TripRead) (originAirports : List String) : CommercialFlightsLinkInput where
  destinationText := trip.destinationText
  windowStartIso := isoText trip.windowStart
  windowEndIso := isoText trip.windowEnd
  partySize := trip.partySize
  originAirports

/-- `none` when it raises. -/
def toCommercialHandoffViewModel (trip : TripRead) : Option CommercialHandoffViewModel :=
  (originAirportsForTerminal trip.originTerminalName.text).map fun originAirports =>
    { facts :=
        [⟨"Destination", .known trip.destinationText⟩,
          ⟨"Window", .known (windowText trip)⟩,
          ⟨"Party", .known (partyText trip.partySize)⟩,
          ⟨"Suggested origin airports", if originAirports.length > 0 then
            .known (", ".intercalate originAirports) else .unknown (some noCuratedAirportsNote)⟩]
      prefilledHref := buildGoogleFlightsSearchUrl (linkInput isoText trip originAirports)
      plainHref := googleFlightsPlainUrl }

end Handoff

/-! ## What the link asks -/

theorem flightsPath_plain : ∀ segment ∈ flightsPath, WebUrl.PlainSegment segment := by
  have all : flightsPath.all (fun s => s.all WebUrl.plainChar && !WebUrl.isSingleDot s &&
      !WebUrl.isDoubleDot s) = true := by decide
  intro segment hsegment
  have plain := List.all_eq_true.1 all segment hsegment
  simp only [Bool.and_eq_true, Bool.not_eq_true'] at plain
  exact ⟨List.all_eq_true.1 plain.1.1, plain.1.2, plain.2⟩

theorem formEncode_qField : formEncode qField = ['q'] := by decide

theorem searchQuery (input : CommercialFlightsLinkInput) :
    (buildGoogleFlightsSearchUrl input).query =
      some ('q' :: '=' :: formEncode (buildGoogleFlightsQueryText input).toList) := by
  unfold buildGoogleFlightsSearchUrl formSerialize
  rw [List.map_singleton, List.intercalate_singleton, formEncode_qField]
  rfl

theorem searchUrl_normal (input : CommercialFlightsLinkInput) :
    (buildGoogleFlightsSearchUrl input).Normal := by
  refine ⟨flightsPath_plain, List.cons_ne_nil _ _, ?_⟩
  intro q hq c hc
  rw [searchQuery] at hq
  obtain rfl := Option.some.inj hq
  rcases List.mem_cons.1 hc with rfl | hc
  · decide
  · rcases List.mem_cons.1 hc with rfl | hc
    · decide
    · obtain ⟨visible, marks⟩ := FormEncoding.formEncode_plain hc
      exact FormEncoding.specialQuerySet_of_plain visible marks

/-- The link up to the query's value. -/
def linkStart : List Char := "https://www.google.com/travel/flights?q=".toList

theorem hrefText_eq (input : CommercialFlightsLinkInput) :
    hrefText (buildGoogleFlightsSearchUrl input) =
      linkStart ++ formEncode (buildGoogleFlightsQueryText input).toList := by
  have start : linkStart =
      googleOrigin.text.toList ++ googleFlightsPlainUrl.pathname ++ ['?', 'q', '='] := by decide
  unfold hrefText Url.pathSearch Url.search
  rw [searchQuery, start]
  generalize formEncode (buildGoogleFlightsQueryText input).toList = value
  simp only [List.append_assoc]
  rfl

/-- **The link asks what the trip asks.** Whatever the destination is, the link leads to the flight
search and nowhere else, has one parameter, and that reads as the query text; the link's own
text is visible ASCII that no page ends early, and is read back as the same link. -/
theorem flight_link_asks (input : CommercialFlightsLinkInput)
    (hostParse : List Char → Option String) :
    let link := buildGoogleFlightsSearchUrl input
    link.origin = googleFlightsPlainUrl.origin ∧ link.path = googleFlightsPlainUrl.path ∧
      (∃ query, link.query = some query ∧ link.search = '?' :: query ∧
        formParse query = [(qField, (buildGoogleFlightsQueryText input).toList)]) ∧
      WebUrl.resolve hostParse link.origin link.pathSearch = some link ∧
      ∀ c ∈ hrefText link, (0x20 < c.toNat ∧ c.toNat ≤ 0x7E) ∧ c ∉ ['"', '<', '>', '#'] := by
  intro link
  have normal : link.Normal := searchUrl_normal input
  have query : link.query =
      some ('q' :: '=' :: formEncode (buildGoogleFlightsQueryText input).toList) :=
    searchQuery input
  have relative : link.protocolRelative = false := by
    have path : googleFlightsPlainUrl.protocolRelative = false := by decide
    exact path
  refine ⟨rfl, rfl, ⟨_, query, ?_, ?_⟩, ?_, ?_⟩
  · unfold Url.search
    rw [query]
  · have pair := FormEncoding.formParse_formSerialize
      [(qField, (buildGoogleFlightsQueryText input).toList)]
    unfold formSerialize at pair
    rwa [List.map_singleton, List.intercalate_singleton, formEncode_qField] at pair
  · have filled : link.query.filter (· ≠ []) = link.query := by
      rw [query, Option.filter_some, if_pos (by simp)]
    rw [WebUrl.resolve_pathSearch normal relative, filled]
  · intro c hc
    rw [hrefText_eq] at hc
    rcases List.mem_append.1 hc with hc | hc
    · have all : linkStart.all (fun c => decide ((0x20 < c.toNat ∧ c.toNat ≤ 0x7E) ∧
          c ∉ ['"', '<', '>', '#'])) = true := by decide
      simpa using List.all_eq_true.1 all c hc
    · obtain ⟨visible, marks⟩ := FormEncoding.formEncode_plain hc
      have fewer : ['"', '<', '>', '#'] ⊆ FormEncoding.urlMarks := by decide
      exact ⟨visible, fun mark => marks (fewer mark)⟩

end PaxPivot
