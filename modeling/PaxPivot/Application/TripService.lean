import PaxPivot.Infrastructure.Repositories
import PaxPivot.Infrastructure.TripRepository

/-!
# Trip use cases

`application/trip_service.py`: a request is kept for a registered origin only, and read with
the name that its origin has at the time of the read.
-/

namespace PaxPivot

structure TripRead where
  tripId : UUID
  originTerminalId : UUID
  originTerminalName : Identifier
  destinationText : String
  windowStart : Int
  windowEnd : Int
  partySize : Int
  createdAt : Int
  deriving DecidableEq

structure TripListRead where
  trips : List TripRead
  deriving DecidableEq

/-- What the use cases read trips with; a read may raise. -/
structure TripReader where
  listTrips : Except PyError (List TripRequest)
  getTrip : UUID → Except PyError (Option TripRequest)

def unknownOriginTerminal : Identifier := .lit "trip.unknown_origin_terminal"

def tripNotFound : Identifier := .lit "trip.not_found"

def unknownTerminal : Identifier := .lit "Unknown terminal"

/-- `_read`. -/
def tripRead (trip : TripRequest) (originName : Identifier) : TripRead where
  tripId := trip.tripId
  originTerminalId := trip.originTerminalId
  originTerminalName := originName
  destinationText := trip.destinationText.text
  windowStart := trip.windowStart
  windowEnd := trip.windowEnd
  partySize := trip.partySize
  createdAt := trip.createdAt

/-- `_origin_name`. -/
def originName (terminals : TerminalReader) (terminalId : UUID) : Identifier :=
  match terminals.getTerminal terminalId with
  | some terminal => terminal.name
  | none => unknownTerminal

/-- `create_trip_request` up to `trips.add`: the trip to be added, and its origin. The request
is validated once more as a `TripRequest`, which leaves it as it is. What follows `trips.add` is
`tripRead` with the name of that origin. -/
def newTripRequest (request : Domain.NewTripRequest) (terminals : TerminalReader) (tripId : UUID)
    (now : Int) : Result (TripRequest × Terminal) :=
  match terminals.getTerminal request.originTerminalId with
  | none =>
    .error { code := .invalidInput, messageKey := unknownOriginTerminal, retryable := false }
  | some terminal => .ok ({ request with tripId, createdAt := now }, terminal)

def listTripRequests (trips : TripReader) (terminals : TerminalReader) :
    Except PyError TripListRead := do
  let stored ← trips.listTrips
  return ⟨stored.map fun t => tripRead t (originName terminals t.originTerminalId)⟩

def getTripRequest (tripId : UUID) (trips : TripReader) (terminals : TerminalReader) :
    Except PyError (Result TripRead) := do
  match ← trips.getTrip tripId with
  | none =>
    return .error { code := .unavailable, messageKey := tripNotFound, retryable := false }
  | some trip => return .ok (tripRead trip (originName terminals trip.originTerminalId))

/-- The reader over a table. -/
def tripReader (rows : List TripRow) : TripReader where
  listTrips := listTrips rows
  getTrip := getTrip rows

end PaxPivot
