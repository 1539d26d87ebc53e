import PaxPivot.Application.ReadServices
import PaxPivot.Application.TripService
import PaxPivot.Infrastructure.Auth
import PaxPivot.Library.Trace

/-!
# The HTTP API

`api.py` as a machine. A read answers from one snapshot. A new trip is checked against the
terminals of its snapshot, and inserted later, against what is committed by then. Its answer is
sent before its transaction is committed, as the framework leaves a dependency with `yield` after
the response; in between other requests and other writers go on.
-/

namespace PaxPivot

/-! ## Calls and answers -/

inductive ApiRead where
  | terminalNetwork
  | terminalDetail (terminalId : UUID)
  | sourceHealth
  | trips
  | trip (tripId : UUID)
  deriving DecidableEq

/-- The body of a `POST`: one that the decoder raises on (no UTF-8, too many digits, too deep),
one that is no JSON, JSON whose fields are missing, unknown or of other types, or fields to be
checked. -/
inductive RequestBody where
  | undecodable
  | notJson
  | mistyped
  | typed (body : TripBody)
  deriving DecidableEq

inductive ApiCall where
  | read (call : ApiRead)
  | createTrip (body : RequestBody)
  deriving DecidableEq

inductive ApiAnswer where
  | terminalNetwork (read : TerminalNetworkRead)
  | terminalDetail (read : TerminalDetailRead)
  | sourceHealth (read : SourceHealthRead)
  | trips (read : TripListRead)
  | trip (read : TripRead)
  | created (read : TripRead)
  | unauthorized (messageKey : Identifier)
  | notFound (messageKey : Identifier)
  | unprocessable (messageKey : Identifier)
  | invalid (errors : List FieldError)
  | malformed
  | badRequest
  | failed

def ApiAnswer.status : ApiAnswer → Nat
  | .terminalNetwork _ | .terminalDetail _ | .sourceHealth _ | .trips _ | .trip _ => 200
  | .created _ => 201
  | .badRequest => 400
  | .unauthorized _ => 401
  | .notFound _ => 404
  | .unprocessable _ | .invalid _ | .malformed => 422
  | .failed => 500

/-- The trip that an answer says was created. -/
def ApiAnswer.createdTrip : ApiAnswer → Option TripRead
  | .created read => some read
  | _ => none

/-- A use case's answer; what it raises is a 500. -/
def answered {α : Type} (answer : α → ApiAnswer) : Except PyError α → ApiAnswer
  | .ok value => answer value
  | .error _ => .failed

/-- A use case that may find nothing. -/
def orNotFound {α : Type} (answer : α → ApiAnswer) : Result α → ApiAnswer
  | .ok value => answer value
  | .error e => .notFound e.messageKey

/-! ## The machine -/

/-- What is committed; the new trips that were checked and are not inserted yet, each with the
origin it was checked against; and the rows that were inserted in transactions still open. -/
structure Server where
  database : Database
  trips : List TripRow
  inFlight : List (TripRequest × Terminal)
  inserted : List TripRow

/-- The rows of the table, committed or not. -/
def Server.rows (s : Server) : List TripRow := s.trips ++ s.inserted

def Server.hasTerminal (s : Server) (id : UUID) : Bool := (s.database.getTerminal id).isSome

/-- What the server is started with: the token of its environment. -/
structure ApiEnv where
  token : Option PyStr

inductive ApiMove where
  /-- A request; `tripId` is the `uuid4` and `now` the clock of its handler. -/
  | call (authorization : Option (List UInt8)) (call : ApiCall) (tripId : UUID) (now : Int)
  /-- The `INSERT` of the `n`th trip in flight, and the answer to its request. -/
  | insert (n : Nat)
  /-- The database ends the transaction of the `n`th trip in flight by itself. -/
  | fail (n : Nat)
  /-- The `COMMIT` of the `n`th trip inserted. -/
  | commit (n : Nat)
  /-- The `COMMIT` of the `n`th trip inserted fails, or is never made. -/
  | rollback (n : Nat)
  /-- Another writer commits; the trips' foreign key refuses what removes an origin of theirs. -/
  | write (database : Database)

/-- What is seen of a move: an answer, or the end of a transaction. -/
inductive ApiEvent where
  | answered (answer : ApiAnswer)
  | committed (row : TripRow)
  | rolledBack (row : TripRow)

/-- The `GET` handlers. -/
def Server.answerRead (s : Server) (now : Int) : ApiRead → ApiAnswer
  | .terminalNetwork =>
    .terminalNetwork (listTerminalNetwork s.database.terminalReader s.database.sourceReader
      s.database.observationReader now)
  | .terminalDetail terminalId =>
    orNotFound .terminalDetail (getTerminalDetail terminalId s.database.terminalReader
      s.database.sourceReader s.database.observationReader now)
  | .sourceHealth =>
    .sourceHealth (listSourceHealth s.database.sourceReader s.database.observationReader
      s.database.killSwitchReader now)
  | .trips =>
    answered .trips (listTripRequests (tripReader s.trips) s.database.terminalReader)
  | .trip tripId =>
    answered (orNotFound .trip)
      (getTripRequest tripId (tripReader s.trips) s.database.terminalReader)

/-- `create_trip` up to its `INSERT`. -/
def Server.beginTrip (s : Server) (body : TripBody) (tripId : UUID) (now : Int) :
    Server × Option ApiAnswer :=
  match Domain.NewTripRequest.validate body with
  | .error errors => (s, some (.invalid errors))
  | .ok request =>
    match newTripRequest request s.database.terminalReader tripId now with
    | .error e => (s, some (.unprocessable e.messageKey))
    | .ok checked => ({ s with inFlight := s.inFlight ++ [checked] }, none)

/-- A call with a principal. -/
def Server.serve (s : Server) (tripId : UUID) (now : Int) : ApiCall → Server × Option ApiAnswer
  | .read call => (s, some (s.answerRead now call))
  | .createTrip (.typed body) => s.beginTrip body tripId now
  | .createTrip _ => (s, some .malformed)

/-- The answer to a body that cannot be read. -/
def ApiCall.unread : ApiCall → Option ApiAnswer
  | .createTrip .undecodable => some .badRequest
  | .createTrip .notJson => some .malformed
  | _ => none

section Machine

variable (env : ApiEnv)

/-- A request. A body that cannot be read is refused before anybody is asked who calls. -/
def Server.call (s : Server) (authorization : Option (List UInt8)) (call : ApiCall)
    (tripId : UUID) (now : Int) : Server × Option ApiAnswer :=
  match call.unread with
  | some answer => (s, some answer)
  | none =>
    match requirePrincipal env.token authorization with
    | .error _ => (s, some .failed)
    | .ok (.error messageKey) => (s, some (.unauthorized messageKey))
    | .ok (.ok _) => s.serve tripId now call

/-- An `INSERT` waits for an open transaction that inserted its id. -/
def Server.waits (s : Server) (trip : TripRequest) : Bool :=
  storableText trip.destinationText.text && s.inserted.any fun r => r.tripId = trip.tripId

/-- The `INSERT` of `create_trip` and what it answers; `IntegrityError` alone is caught. -/
def Server.insert (s : Server) (n : Nat) : Server × Option ApiAnswer :=
  match s.inFlight[n]? with
  | none => (s, none)
  | some (trip, origin) =>
    if s.waits trip then (s, none)
    else
      let landed := { s with inFlight := s.inFlight.eraseIdx n }
      match addTrip s.hasTerminal s.trips trip with
      | .ok _ =>
        ({ landed with inserted := s.inserted ++ [tripRow trip] },
          some (.created (tripRead trip origin.name)))
      | .error (.integrity _) => (landed, some (.unprocessable unknownOriginTerminal))
      | .error .data => (landed, some .failed)

/-- A lost connection, or a serialization failure, as when the origin went since it was checked:
nobody catches these. -/
def Server.fail (s : Server) (n : Nat) : Server × Option ApiAnswer :=
  match s.inFlight[n]? with
  | none => (s, none)
  | some _ => ({ s with inFlight := s.inFlight.eraseIdx n }, some .failed)

/-- The exit of `transaction`: commit on success. -/
def Server.commit (s : Server) (n : Nat) : Server × Option ApiEvent :=
  match s.inserted[n]? with
  | none => (s, none)
  | some row =>
    ({ s with trips := s.trips ++ [row], inserted := s.inserted.eraseIdx n },
      some (.committed row))

/-- The exit of `transaction`: roll back on failure. -/
def Server.rollback (s : Server) (n : Nat) : Server × Option ApiEvent :=
  match s.inserted[n]? with
  | none => (s, none)
  | some row => ({ s with inserted := s.inserted.eraseIdx n }, some (.rolledBack row))

/-- The origins of trips that are not committed yet are locked. -/
def Server.write (s : Server) (database : Database) : Server :=
  let written := { s with database }
  if s.rows.all fun r => written.hasTerminal r.originTerminalId then written else s

/-- A move that ends in an answer, or in none yet. -/
def replied (outcome : Server × Option ApiAnswer) : Server × Option ApiEvent :=
  (outcome.1, outcome.2.map .answered)

def Server.step (s : Server) : ApiMove → Server × Option ApiEvent
  | .call authorization call tripId now => replied (s.call env authorization call tripId now)
  | .insert n => replied (s.insert n)
  | .fail n => replied (s.fail n)
  | .commit n => s.commit n
  | .rollback n => s.rollback n
  | .write database => (s.write database, none)

/-- A server with no trips. -/
def Server.start (database : Database) : Server :=
  { database, trips := [], inFlight := [], inserted := [] }

abbrev Server.run (s : Server) (moves : List ApiMove) : Server × List ApiEvent :=
  Trace.run (Server.step env) s moves

end Machine

/-! ## What is seen of a run -/

/-- The row of a trip that was read. -/
def TripRead.row (read : TripRead) : TripRow where
  tripId := read.tripId
  originTerminalId := read.originTerminalId
  destinationText := read.destinationText
  windowStart := read.windowStart
  windowEnd := read.windowEnd
  partySize := read.partySize
  createdAt := read.createdAt

theorem row_tripRead (trip : TripRequest) (name : Identifier) :
    (tripRead trip name).row = tripRow trip := rfl

def ApiEvent.answer : ApiEvent → Option ApiAnswer
  | .answered answer => some answer
  | _ => none

/-- The row of a 201. -/
def ApiEvent.createdRow : ApiEvent → Option TripRow
  | .answered answer => answer.createdTrip.map TripRead.row
  | _ => none

def ApiEvent.committedRow : ApiEvent → Option TripRow
  | .committed row => some row
  | _ => none

def ApiEvent.rolledBackRow : ApiEvent → Option TripRow
  | .rolledBack row => some row
  | _ => none

def answers (events : List ApiEvent) : List ApiAnswer := events.filterMap ApiEvent.answer

/-- The rows of the trips that the answers of a run say were created. -/
def createdTrips (events : List ApiEvent) : List TripRow := events.filterMap ApiEvent.createdRow

/-- The rows that a run committed. -/
def committedTrips (events : List ApiEvent) : List TripRow :=
  events.filterMap ApiEvent.committedRow

/-- The rows that were inserted in a run, or before it, and rolled back. -/
def rolledBackTrips (events : List ApiEvent) : List TripRow :=
  events.filterMap ApiEvent.rolledBackRow

/-! ## One step -/

section Step

variable {env : ApiEnv} {s : Server}

theorem answered_createdTrip {α : Type} {answer : α → ApiAnswer}
    (h : ∀ a, (answer a).createdTrip = none) (result : Except PyError α) :
    (answered answer result).createdTrip = none := by
  cases result with
  | error e => rfl
  | ok a => exact h a

theorem orNotFound_createdTrip {α : Type} {answer : α → ApiAnswer}
    (h : ∀ a, (answer a).createdTrip = none) (result : Result α) :
    (orNotFound answer result).createdTrip = none := by
  cases result with
  | error e => rfl
  | ok a => exact h a

/-- A read creates nothing. -/
theorem answerRead_createdTrip (s : Server) (now : Int) (call : ApiRead) :
    (s.answerRead now call).createdTrip = none := by
  cases call with
  | terminalNetwork => rfl
  | terminalDetail id => exact orNotFound_createdTrip (fun _ => rfl) _
  | sourceHealth => rfl
  | trips => exact answered_createdTrip (fun _ => rfl) _
  | trip id => exact answered_createdTrip (orNotFound_createdTrip fun _ => rfl) _

theorem unread_createdTrip {call : ApiCall} {answer : ApiAnswer} (h : call.unread = some answer) :
    answer.createdTrip = none := by
  unfold ApiCall.unread at h
  split at h <;> cases h <;> rfl

/-- **Everything a call can do**: answer and leave the server as it is, or put a checked trip in
flight. -/
theorem call_cases (authorization : Option (List UInt8)) (call : ApiCall) (tripId : UUID)
    (now : Int) :
    (∃ answer, s.call env authorization call tripId now = (s, some answer) ∧
      answer.createdTrip = none) ∨
    ∃ checked, s.call env authorization call tripId now =
      ({ s with inFlight := s.inFlight ++ [checked] }, none) := by
  unfold Server.call
  split
  case h_1 answer unread => exact .inl ⟨_, rfl, unread_createdTrip unread⟩
  case h_2 =>
    split
    case h_1 => exact .inl ⟨_, rfl, rfl⟩
    case h_2 => exact .inl ⟨_, rfl, rfl⟩
    case h_3 =>
      unfold Server.serve
      split
      case h_1 => exact .inl ⟨_, rfl, answerRead_createdTrip s now _⟩
      case h_2 =>
        unfold Server.beginTrip
        split
        case h_1 => exact .inl ⟨_, rfl, rfl⟩
        case h_2 =>
          split
          case h_1 => exact .inl ⟨_, rfl, rfl⟩
          case h_2 => exact .inr ⟨_, rfl⟩
      case h_3 => exact .inl ⟨_, rfl, rfl⟩

/-- **Everything an insert can do**: nothing, refuse its trip, or insert its row and say so. -/
theorem insert_cases (s : Server) (n : Nat) :
    s.insert n = (s, none) ∨
    (∃ answer, s.insert n = ({ s with inFlight := s.inFlight.eraseIdx n }, some answer) ∧
      answer.createdTrip = none) ∨
    ∃ trip origin, s.inFlight[n]? = some (trip, origin) ∧
      (∀ r ∈ s.rows, r.tripId ≠ trip.tripId) ∧ s.hasTerminal trip.originTerminalId = true ∧
      s.insert n =
        ({ s with inFlight := s.inFlight.eraseIdx n, inserted := s.inserted ++ [tripRow trip] },
          some (.created (tripRead trip origin.name))) := by
  unfold Server.insert
  split
  case h_1 => exact .inl rfl
  case h_2 trip origin found =>
    split
    case isTrue => exact .inl rfl
    case isFalse free =>
      dsimp only
      split
      case h_1 rows added =>
        obtain ⟨storable, fresh, registered, -⟩ := addTrip_ok_iff.1 added
        have alone : ∀ r ∈ s.inserted, r.tripId ≠ trip.tripId := by
          simpa [Server.waits, storable] using free
        exact .inr (.inr ⟨trip, origin, found, List.forall_mem_append.2 ⟨fresh, alone⟩, registered,
          rfl⟩)
      case h_2 => exact .inr (.inl ⟨_, rfl, rfl⟩)
      case h_3 => exact .inr (.inl ⟨_, rfl, rfl⟩)

theorem fail_cases (s : Server) (n : Nat) :
    s.fail n = (s, none) ∨
      s.fail n = ({ s with inFlight := s.inFlight.eraseIdx n }, some .failed) := by
  unfold Server.fail
  split
  case h_1 => exact .inl rfl
  case h_2 => exact .inr rfl

/-- An inserted row, and the others. -/
theorem inserted_perm {n : Nat} {row : TripRow} (h : s.inserted[n]? = some row) :
    s.inserted.Perm (row :: s.inserted.eraseIdx n) := by
  obtain ⟨bound, rfl⟩ := List.getElem?_eq_some_iff.1 h
  exact (List.getElem_cons_eraseIdx_perm bound).symm

/-- **Everything a commit can do**: nothing, or move a row to what is committed. -/
theorem commit_cases (s : Server) (n : Nat) :
    s.commit n = (s, none) ∨
    ∃ row rest, s.inserted.Perm (row :: rest) ∧
      s.commit n =
        ({ s with trips := s.trips ++ [row], inserted := rest }, some (.committed row)) := by
  unfold Server.commit
  split
  case h_1 => exact .inl rfl
  case h_2 row found => exact .inr ⟨row, _, inserted_perm found, rfl⟩

/-- **Everything a rollback can do**: nothing, or drop a row. -/
theorem rollback_cases (s : Server) (n : Nat) :
    s.rollback n = (s, none) ∨
    ∃ row rest, s.inserted.Perm (row :: rest) ∧
      s.rollback n = ({ s with inserted := rest }, some (.rolledBack row)) := by
  unfold Server.rollback
  split
  case h_1 => exact .inl rfl
  case h_2 row found => exact .inr ⟨row, _, inserted_perm found, rfl⟩

/-- Another writer keeps the trips, and their origins. -/
theorem write_cases (s : Server) (database : Database) :
    s.write database = s ∨
    (∀ r ∈ s.rows, (s.write database).hasTerminal r.originTerminalId = true) ∧
      s.write database = { s with database } := by
  unfold Server.write
  dsimp only
  split
  case isTrue kept => exact .inr ⟨List.all_eq_true.1 kept, rfl⟩
  case isFalse => exact .inl rfl

/-! ## Runs -/

/-- What holds between any two moves. -/
structure Server.Sound (s : Server) : Prop where
  distinct : (s.rows.map (·.tripId)).Nodup
  registered : ∀ r ∈ s.rows, s.hasTerminal r.originTerminalId = true
  contracts : ∀ r ∈ s.rows, ∃ trip, tripRow trip = r

theorem sound_start (database : Database) : (Server.start database).Sound :=
  ⟨List.nodup_nil, List.forall_mem_nil _, List.forall_mem_nil _⟩

/-- Rows that go, or change their places, leave a server sound. -/
theorem Server.Sound.fewer {s' : Server} (sound : s.Sound) (rows : s'.rows.Subperm s.rows)
    (database : s'.database = s.database) : s'.Sound := by
  have terminals : ∀ id, s'.hasTerminal id = s.hasTerminal id := by
    intro id
    unfold Server.hasTerminal
    rw [database]
  refine ⟨?_, fun r hr => ?_, fun r hr => sound.contracts r (rows.subset hr)⟩
  · obtain ⟨left, perm, sublist⟩ := rows
    exact (perm.map _).nodup_iff.1 (sound.distinct.sublist (sublist.map _))
  · rw [terminals]
    exact sound.registered r (rows.subset hr)

/-- **Step lemma.** -/
theorem step_sound (sound : s.Sound) (move : ApiMove) : (s.step env move).1.Sound := by
  cases move with
  | call authorization call tripId now =>
    show (s.call env authorization call tripId now).1.Sound
    rcases call_cases authorization call tripId now with ⟨answer, h, -⟩ | ⟨checked, h⟩
    · rw [h]
      exact sound
    · rw [h]
      exact ⟨sound.distinct, sound.registered, sound.contracts⟩
  | insert n =>
    show (s.insert n).1.Sound
    rcases insert_cases s n with h | ⟨answer, h, -⟩ | ⟨trip, origin, -, fresh, registered, h⟩
    · rw [h]
      exact sound
    · rw [h]
      exact ⟨sound.distinct, sound.registered, sound.contracts⟩
    · have rows : (s.insert n).1.rows = s.rows ++ [tripRow trip] := by
        rw [h]
        exact (List.append_assoc _ _ _).symm
      have database : (s.insert n).1.hasTerminal = s.hasTerminal := by rw [h]; rfl
      refine ⟨?_, ?_, ?_⟩
      · rw [rows]
        exact KeyedTable.append_singleton_distinct sound.distinct fresh
      · rw [rows, database]
        exact List.forall_mem_append.2
          ⟨sound.registered, List.forall_mem_singleton.2 registered⟩
      · rw [rows]
        exact List.forall_mem_append.2
          ⟨sound.contracts, List.forall_mem_singleton.2 ⟨trip, rfl⟩⟩
  | fail n =>
    show (s.fail n).1.Sound
    rcases fail_cases s n with h | h
    · rw [h]
      exact sound
    · rw [h]
      exact ⟨sound.distinct, sound.registered, sound.contracts⟩
  | commit n =>
    show (s.commit n).1.Sound
    rcases commit_cases s n with h | ⟨row, rest, perm, h⟩
    · rw [h]
      exact sound
    · rw [h]
      refine sound.fewer (List.Perm.subperm ?_) rfl
      show (s.trips ++ [row] ++ rest).Perm (s.trips ++ s.inserted)
      rw [List.append_assoc]
      exact perm.symm.append_left _
  | rollback n =>
    show (s.rollback n).1.Sound
    rcases rollback_cases s n with h | ⟨row, rest, perm, h⟩
    · rw [h]
      exact sound
    · rw [h]
      refine sound.fewer ?_ rfl
      have dropped : rest.Subperm s.inserted :=
        (List.sublist_cons_self row rest).subperm.trans perm.symm.subperm
      exact (List.subperm_append_left s.trips).2 dropped
  | write database =>
    show (s.write database).Sound
    rcases write_cases s database with h | ⟨kept, h⟩
    · rw [h]
      exact sound
    · have rows : (s.write database).rows = s.rows := by rw [h]; rfl
      refine ⟨rows ▸ sound.distinct, ?_, rows ▸ sound.contracts⟩
      rw [rows]
      exact kept

/-- **A step commits the rows that it says it commits**, and no other. -/
theorem step_trips (env : ApiEnv) (s : Server) (move : ApiMove) :
    (s.step env move).1.trips = s.trips ++
      (s.step env move).2.toList.flatMap fun event => event.committedRow.toList := by
  have answered : ∀ outcome : Server × Option ApiAnswer, ((replied outcome).2.toList.flatMap
      fun event => event.committedRow.toList) = [] := by
    rintro ⟨s', _ | answer⟩ <;> rfl
  cases move with
  | call authorization call tripId now =>
    show (s.call env authorization call tripId now).1.trips = _ ++
      (replied _).2.toList.flatMap _
    rw [answered, List.append_nil]
    rcases call_cases authorization call tripId now with ⟨answer, h, -⟩ | ⟨checked, h⟩ <;> rw [h]
  | insert n =>
    show (s.insert n).1.trips = _ ++ (replied _).2.toList.flatMap _
    rw [answered, List.append_nil]
    rcases insert_cases s n with h | ⟨answer, h, -⟩ | ⟨trip, origin, -, -, -, h⟩ <;> rw [h]
  | fail n =>
    show (s.fail n).1.trips = _ ++ (replied _).2.toList.flatMap _
    rw [answered, List.append_nil]
    rcases fail_cases s n with h | h <;> rw [h]
  | commit n =>
    show (s.commit n).1.trips = _ ++ (s.commit n).2.toList.flatMap _
    rcases commit_cases s n with h | ⟨row, rest, -, h⟩ <;> rw [h]
    · exact (List.append_nil _).symm
    · rfl
  | rollback n =>
    show (s.rollback n).1.trips = _ ++ (s.rollback n).2.toList.flatMap _
    rcases rollback_cases s n with h | ⟨row, rest, -, h⟩ <;> rw [h] <;>
      exact (List.append_nil _).symm
  | write database =>
    show (s.write database).trips = _ ++ []
    rw [List.append_nil]
    rcases write_cases s database with h | ⟨-, h⟩ <;> rw [h]

/-- **A step loses no trip**: what was inserted before it or is created by it is committed by it,
rolled back by it, or inserted after it. -/
theorem step_inserted (env : ApiEnv) (s : Server) (move : ApiMove) :
    (s.inserted ++ (s.step env move).2.toList.flatMap fun event => event.createdRow.toList).Perm
      ((s.step env move).2.toList.flatMap (fun event =>
        event.committedRow.toList ++ event.rolledBackRow.toList) ++
          (s.step env move).1.inserted) := by
  cases move with
  | call authorization call tripId now =>
    show (s.inserted ++ (replied (s.call env authorization call tripId now)).2.toList.flatMap
      _).Perm ((replied (s.call env authorization call tripId now)).2.toList.flatMap _ ++
        (s.call env authorization call tripId now).1.inserted)
    rcases call_cases authorization call tripId now with ⟨answer, h, none⟩ | ⟨checked, h⟩
    · rw [h]
      simp [replied, ApiEvent.createdRow, ApiEvent.committedRow, ApiEvent.rolledBackRow, none]
    · rw [h]
      simp [replied]
  | insert n =>
    show (s.inserted ++ (replied (s.insert n)).2.toList.flatMap _).Perm
      ((replied (s.insert n)).2.toList.flatMap _ ++ (s.insert n).1.inserted)
    rcases insert_cases s n with h | ⟨answer, h, none⟩ | ⟨trip, origin, -, -, -, h⟩
    · rw [h]
      simp [replied]
    · rw [h]
      simp [replied, ApiEvent.createdRow, ApiEvent.committedRow, ApiEvent.rolledBackRow, none]
    · rw [h]
      exact List.Perm.refl _
  | fail n =>
    show (s.inserted ++ (replied (s.fail n)).2.toList.flatMap _).Perm
      ((replied (s.fail n)).2.toList.flatMap _ ++ (s.fail n).1.inserted)
    rcases fail_cases s n with h | h
    · rw [h]
      simp [replied]
    · rw [h]
      simp [replied, ApiEvent.createdRow, ApiEvent.committedRow, ApiEvent.rolledBackRow,
        ApiAnswer.createdTrip]
  | commit n =>
    show (s.inserted ++ (s.commit n).2.toList.flatMap _).Perm
      ((s.commit n).2.toList.flatMap _ ++ (s.commit n).1.inserted)
    rcases commit_cases s n with h | ⟨row, rest, perm, h⟩
    · rw [h]
      simp
    · rw [h]
      simpa [ApiEvent.createdRow, ApiEvent.committedRow, ApiEvent.rolledBackRow] using perm
  | rollback n =>
    show (s.inserted ++ (s.rollback n).2.toList.flatMap _).Perm
      ((s.rollback n).2.toList.flatMap _ ++ (s.rollback n).1.inserted)
    rcases rollback_cases s n with h | ⟨row, rest, perm, h⟩
    · rw [h]
      simp
    · rw [h]
      simpa [ApiEvent.createdRow, ApiEvent.committedRow, ApiEvent.rolledBackRow] using perm
  | write database =>
    show (s.inserted ++ []).Perm ([] ++ (s.write database).inserted)
    rcases write_cases s database with h | ⟨-, h⟩
    · rw [h]
      simp
    · rw [h]
      simp

end Step

end PaxPivot
