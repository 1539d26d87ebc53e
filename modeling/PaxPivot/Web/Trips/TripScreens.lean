import PaxPivot.Web.RegistryPages
import PaxPivot.Web.Trips.CommercialFlights
import PaxPivot.Web.Trips.TerminalsToCheck

/-!
# The trip pages

`lib/presentation/adapters/trips.ts`, `app/trips/page.tsx` and `app/trips/[tripId]/page.tsx`. A page is
shown, or says why it is not: only a trip that is not there is not found.
-/

namespace PaxPivot

open JsText (ofString fits unit)

/-! ## Screen models -/

/-- Without its sources, of which a trip has none yet. -/
structure TripCardView where
  id : UUID
  name : String
  windowText : String
  partyText : String
  href : String
  deriving DecidableEq

/-- Without what is the same on every trips screen. -/
structure TripsScreenModel where
  status : ScreenStatus
  trips : List TripCardView
  deriving DecidableEq

structure TripDetailModel where
  title : String
  facts : List FactView
  createdText : String
  deriving DecidableEq

def tripHref (tripId : UUID) : String := "/trips/" ++ tripId.str

def tripName (trip : TripRead) : String :=
  trip.originTerminalName.text ++ " → " ++ trip.destinationText

def toTripCardView (trip : TripRead) : TripCardView where
  id := trip.tripId
  name := tripName trip
  windowText := windowText trip
  partyText := partyText trip.partySize
  href := tripHref trip.tripId

def emptyTrips : TripsScreenModel := { status := .empty, trips := [] }

def toTripsScreenModel (read : TripListRead) : TripsScreenModel where
  status := .ready
  trips := read.trips.map toTripCardView

def toTripDetailModel (trip : TripRead) : TripDetailModel where
  title := tripName trip
  facts :=
    [⟨"From", .known trip.originTerminalName.text⟩, ⟨"To", .known trip.destinationText⟩,
      ⟨"Window", .known (windowText trip)⟩, ⟨"Party", .known (partyText trip.partySize)⟩]
  createdText := "Requested " ++ formatTimestamp trip.createdAt

/-! ## Pages -/

def tripsPage : ApiResult TripListRead → PageAnswer TripsScreenModel
  | .error .notConfigured => .notConfigured
  | .error _ => .failed
  | .ok read => .shown (if read.trips.length = 0 then emptyTrips else toTripsScreenModel read)

def isHex (u : CodeUnit) : Bool :=
  JsText.isDigit u || decide (0x61 ≤ u.toNat ∧ u.toNat ≤ 0x66) ||
    decide (0x41 ≤ u.toNat ∧ u.toNat ≤ 0x46)

def hyphen : CodeUnit → Bool := fun u => decide (u = unit '-')

/-- `/^[0-9a-f]{8}-[0-9a-f]{4}-[0-9a-f]{4}-[0-9a-f]{4}-[0-9a-f]{12}$/i`. -/
def tripIdShape : List (CodeUnit → Bool) :=
  List.replicate 8 isHex ++ hyphen :: (List.replicate 4 isHex ++ hyphen ::
    (List.replicate 4 isHex ++ hyphen :: (List.replicate 4 isHex ++ hyphen ::
      List.replicate 12 isHex)))

/-- The trip page without its fixed texts; `none` where the terminals could not be loaded. -/
structure TripPageModel where
  detail : TripDetailModel
  terminals : Option TerminalsToCheckViewModel
  handoff : CommercialHandoffViewModel

section TripPage

variable (localeCompare : Identifier → Identifier → Ordering) (isoText : Int → String)

/-- `readTerminalDetails`. -/
def readTerminalDetails (readDetail : UUID → ApiResult TerminalDetailRead)
    (network : TerminalNetworkRead) (id : UUID) : Option (ApiResult TerminalDetailRead) :=
  (network.terminals.find? fun t => t.terminalId = id).map fun t => readDetail t.terminalId

def tripPage (tripId : JsString) (readTrip : JsString → ApiResult TripRead)
    (readNetwork : ApiResult TerminalNetworkRead)
    (readDetail : UUID → ApiResult TerminalDetailRead) (nowMs : Int) : PageAnswer TripPageModel :=
  if ¬ fits tripIdShape tripId then .notFound
  else match readTrip tripId with
    | .error .notFound | .error .invalid => .notFound
    | .error .notConfigured => .notConfigured
    | .error _ => .failed
    | .ok trip =>
      match toCommercialHandoffViewModel isoText trip with
      | none => .raised
      | some handoff =>
        .shown
          { detail := toTripDetailModel trip
            terminals := readNetwork.toOption.map fun network =>
              toTerminalsToCheckViewModel localeCompare trip network
                (readTerminalDetails readDetail network) nowMs
            handoff }

end TripPage

/-! ## Reading through the client -/

namespace ApiAnswer

/-- The body of an answer, as the page takes it. -/
def tripsJson : ApiAnswer → Option TripListRead
  | .trips read => some read
  | _ => none

def tripJson : ApiAnswer → Option TripRead
  | .trip read => some read
  | _ => none

end ApiAnswer

namespace Site

variable (site : Site) (s : Server) (reached : Bool) (now : Int)

def readTrips : ApiResult TripListRead := site.readApi s reached now .trips ApiAnswer.tripsJson

/-- An id that is no UUID is a 422, for who may call. -/
def readTrip (tripId : JsString) : ApiResult TripRead :=
  match UUID.parse (String.ofList (JsText.scalars tripId)) with
  | some id => site.readApi s reached now (.trip id) ApiAnswer.tripJson
  | none => callApi site.env (site.fetch reached ApiAnswer.tripJson fun authorization =>
      some (match requirePrincipal site.api.token authorization with
        | .error _ => .failed
        | .ok (.error messageKey) => .unauthorized messageKey
        | .ok (.ok _) => .malformed))

end Site

end PaxPivot
