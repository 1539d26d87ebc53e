import PaxPivot.Api

/-!
# What the API keeps and shows

Runs of the server from an empty trip table, with any requests, any order of inserts, commits and
rollbacks, and any other writers in between. The table is the log of the commits, each of a trip
that an answer said was created; what was committed is read by everyone who holds the token, from
then on, and by nobody else.
-/

namespace PaxPivot

/-! ## The door -/

section Door

variable {env : ApiEnv} {authorization : Option (List UInt8)}

/-- A header that bears the token: the scheme, and between spaces the token alone, which has at
least 32 characters and no space at its ends. -/
def Bears (env : ApiEnv) (authorization : Option (List UInt8)) : Prop :=
  ∃ secret value before after, env.token = some secret ∧ 32 ≤ secret.length ∧
    authorization = some value ∧ latin1 value = bearerScheme ++ (before ++ secret ++ after) ∧
    (∀ c ∈ before, PyStr.isSpace c = true) ∧ (∀ c ∈ after, PyStr.isSpace c = true) ∧
    (∀ c ∈ secret.head?, PyStr.isSpace c = false) ∧ ∀ c ∈ secret.getLast?, PyStr.isSpace c = false

theorem bears_iff :
    Bears env authorization ↔
      requirePrincipal env.token authorization = .ok (.ok ⟨localPrincipalId⟩) := by
  rw [requirePrincipal_granted_iff]
  constructor
  · rintro ⟨secret, value, before, after, token, long, header, whole, spaces, spaces', head, last⟩
    have filled : secret ≠ [] := by
      rintro rfl
      cases long
    exact ⟨rfl, secret, token, long, credentialOf_eq_some_iff.2
      ⟨filled, value, header, before, after, whole, spaces, spaces', head, last⟩⟩
  · rintro ⟨-, secret, token, long, credential⟩
    obtain ⟨-, value, header, before, after, whole, spaces, spaces', head, last⟩ :=
      credentialOf_eq_some_iff.1 credential
    exact ⟨secret, value, before, after, token, long, header, whole, spaces, spaces', head, last⟩

/-- With the token a call is served. -/
theorem call_of_bears (bears : Bears env authorization) {call : ApiCall} (read : call.unread = none)
    (s : Server) (tripId : UUID) (now : Int) :
    s.call env authorization call tripId now = s.serve tripId now call := by
  unfold Server.call
  rw [read, bears_iff.1 bears]

/-- Without it the answer is the same on every server. -/
theorem call_refused (denied : ¬ Bears env authorization) {call : ApiCall}
    (read : call.unread = none) (tripId : UUID) (now : Int) :
    ∃ answer : ApiAnswer, answer.status ∈ [401, 500] ∧
      ∀ s : Server, s.call env authorization call tripId now = (s, some answer) := by
  unfold Server.call
  simp only [read]
  cases hprincipal : requirePrincipal env.token authorization with
  | error e => exact ⟨.failed, by decide, fun s => rfl⟩
  | ok result =>
    cases result with
    | error messageKey => exact ⟨.unauthorized messageKey, List.mem_cons_self, fun s => rfl⟩
    | ok principal =>
      obtain ⟨rfl, -⟩ := requirePrincipal_granted_iff.1 hprincipal
      exact absurd (bears_iff.2 hprincipal) denied

/-- A body that cannot be read has its answer, whoever calls. -/
theorem call_unread {call : ApiCall} {answer : ApiAnswer} (unread : call.unread = some answer)
    (s : Server) (tripId : UUID) (now : Int) :
    s.call env authorization call tripId now = (s, some answer) := by
  unfold Server.call
  rw [unread]

theorem unread_status {call : ApiCall} {answer : ApiAnswer} (h : call.unread = some answer) :
    answer.status ∈ [400, 422] := by
  unfold ApiCall.unread at h
  split at h <;> cases h <;> decide

/-- **The API serves who bears the token, and tells others nothing.** A call whose body can be read
is served as written to who bears the token; to others every server gives the same answer, a 401 or
a 500, and stays as it is. A body that cannot be read is a 400 or a 422 to everybody. -/
theorem api_serves_bearers (env : ApiEnv) (authorization : Option (List UInt8)) (call : ApiCall)
    (tripId : UUID) (now : Int) :
    (Bears env authorization → call.unread = none → ∀ s : Server,
      s.call env authorization call tripId now = s.serve tripId now call) ∧
    (¬ Bears env authorization → call.unread = none → ∃ answer : ApiAnswer,
      answer.status ∈ [401, 500] ∧
      ∀ s : Server, s.call env authorization call tripId now = (s, some answer)) ∧
    ∀ answer, call.unread = some answer → answer.status ∈ [400, 422] ∧
      ∀ s : Server, s.call env authorization call tripId now = (s, some answer) := by
  refine ⟨fun bears read s => call_of_bears bears read s tripId now,
    fun denied read => call_refused denied read tripId now, fun answer unread => ?_⟩
  exact ⟨unread_status unread, fun s => call_unread unread s tripId now⟩

end Door

/-! ## Fixture records -/

def fixtureApiToken : PyStr := PyStr.ofString "synthetic-token-with-at-least-32-characters"

/-- The header that bears the token. -/
def fixtureAuthorization : List UInt8 :=
  (bearerScheme ++ fixtureApiToken).map fun c => UInt8.ofNat c.val

def fixtureApiEnv : ApiEnv where
  token := some fixtureApiToken

/-- Five days for two, from the terminal of the fixture database. -/
def fixtureTripBody : TripBody where
  originTerminalId := 1
  destinationText := " Example destination "
  windowStart := some 0
  windowEnd := some (5 * 86400000000)
  partySize := 2

/-- Four requests: the first is committed, the second and the fourth are rolled back before and
after it, and the third is left open. -/
def fixtureMoves : List ApiMove :=
  let create id now := ApiMove.call (some fixtureAuthorization)
    (.createTrip (.typed fixtureTripBody)) id now
  [create 7 10, create 8 20, create 9 30, .insert 1, .insert 1, .insert 0, .rollback 0, .commit 1,
    create 8 40, .insert 0, .rollback 1]

theorem fixture_bears : Bears fixtureApiEnv (some fixtureAuthorization) := by
  have kept : ∀ o : Option CodePoint, o.all (fun c => !PyStr.isSpace c) = true →
      ∀ c ∈ o, PyStr.isSpace c = false := by
    intro o h c hc
    rw [Option.mem_def.1 hc] at h
    simpa using h
  exact ⟨fixtureApiToken, fixtureAuthorization, [], [], rfl, by decide, rfl, by decide +kernel,
    by simp, by simp, kept _ (by decide), kept _ (by decide)⟩

/-! ## What is kept -/

section Kept

variable {env : ApiEnv} {database : Database} {moves : List ApiMove}

theorem Server.Sound.run {s : Server} (sound : s.Sound) (env : ApiEnv) (moves : List ApiMove) :
    (s.run env moves).1.Sound :=
  Trace.run_invariant Server.Sound (fun _ move sound => step_sound sound move) sound

theorem run_sound : ((Server.start database).run env moves).1.Sound :=
  (sound_start database).run env moves

theorem run_trips (env : ApiEnv) (s : Server) (moves : List ApiMove) :
    (s.run env moves).1.trips = s.trips ++ committedTrips (s.run env moves).2 := by
  rw [committedTrips, List.filterMap_eq_flatMap_toList]
  exact Trace.run_log Server.trips (fun event : ApiEvent => event.committedRow.toList)
    (step_trips env)

/-- What a run has of the trips that it was given or created. -/
theorem run_inserted (env : ApiEnv) (s : Server) (moves : List ApiMove) :
    (s.inserted ++ createdTrips (s.run env moves).2).Perm
      (committedTrips (s.run env moves).2 ++ rolledBackTrips (s.run env moves).2 ++
        (s.run env moves).1.inserted) := by
  unfold createdTrips committedTrips rolledBackTrips
  simp only [List.filterMap_eq_flatMap_toList]
  refine (Trace.run_ledger Server.inserted _ _ (step_inserted env)).trans ?_
  exact (List.flatMap_append_perm _ _ _).symm.append_right _

/-- The table of a new server is what its run committed. -/
theorem trips_run (env : ApiEnv) (database : Database) (moves : List ApiMove) :
    ((Server.start database).run env moves).1.trips =
      committedTrips ((Server.start database).run env moves).2 :=
  run_trips env (Server.start database) moves

theorem Server.Sound.contract {s : Server} (sound : s.Sound) {r : TripRow} (hr : r ∈ s.trips) :
    ∃ trip, tripOf r = .ok trip ∧ tripRow trip = r := by
  obtain ⟨trip, rfl⟩ := sound.contracts r (List.mem_append_left _ hr)
  exact ⟨trip, tripOf_tripRow trip, rfl⟩

/-- The committed rows have ids of their own, and so have the inserted ones. -/
theorem Server.Sound.ids {s : Server} (sound : s.Sound) :
    (s.trips.map (·.tripId)).Nodup ∧ (s.inserted.map (·.tripId)).Nodup ∧
      ∀ r ∈ s.trips, ∀ r' ∈ s.inserted, r.tripId ≠ r'.tripId := by
  have distinct := sound.distinct
  rw [Server.rows, List.map_append, List.nodup_append] at distinct
  obtain ⟨trips, inserted, apart⟩ := distinct
  refine ⟨trips, inserted, fun r hr r' hr' => ?_⟩
  exact apart _ (List.mem_map_of_mem hr) _ (List.mem_map_of_mem hr')

/-- **What becomes of an inserted trip**: it is open, with no other row of its id, or it was
committed, or rolled back; then no row has its id, unless another trip was created with it. -/
theorem run_outcome (env : ApiEnv) {s : Server} (sound : s.Sound) {r : TripRow}
    (hr : r ∈ s.inserted) (more : List ApiMove) :
    let later := (s.run env more).1
    let events := (s.run env more).2
    (r ∈ later.inserted ∨ r ∈ committedTrips events ∨ r ∈ rolledBackTrips events) ∧
    (r ∈ later.inserted → ∀ r' ∈ later.trips, r'.tripId ≠ r.tripId) ∧
    (r ∈ committedTrips events → r ∈ later.trips) ∧
    (r ∈ rolledBackTrips events → (∀ r' ∈ createdTrips events, r'.tripId ≠ r.tripId) →
      ∀ r' ∈ later.trips, r'.tripId ≠ r.tripId) := by
  intro later events
  have ledger : (s.inserted ++ createdTrips events).Perm
      (committedTrips events ++ rolledBackTrips events ++ later.inserted) := run_inserted env s more
  have trips : later.trips = s.trips ++ committedTrips events := run_trips env s more
  refine ⟨?_, fun open_ r' hr' same => ?_, fun committed => ?_, fun lost other r' hr' same => ?_⟩
  · have taken := ledger.mem_iff.1 (List.mem_append_left _ hr)
    simpa only [List.mem_append, or_assoc, or_comm, or_left_comm] using taken
  · exact (sound.run env more).ids.2.2 r' hr' r open_ same
  · rw [trips]
    exact List.mem_append_right _ committed
  · rw [trips] at hr'
    rcases List.mem_append.1 hr' with hr' | committed
    · exact sound.ids.2.2 r' hr' r hr same
    · -- Both were inserted, and only one row of the id was.
      have once := (ledger.filter fun q => q.tripId = r.tripId).length_eq
      have none : (createdTrips events).filter (fun q => q.tripId = r.tripId) = [] :=
        List.filter_eq_nil_iff.2 fun q hq => by simpa using other q hq
      have one : 1 ≤ ((committedTrips events).filter fun q => q.tripId = r.tripId).length :=
        List.length_pos_of_mem (List.mem_filter.2 ⟨committed, by simpa using same⟩)
      have two : 1 ≤ ((rolledBackTrips events).filter fun q => q.tripId = r.tripId).length :=
        List.length_pos_of_mem (List.mem_filter.2 ⟨lost, by simp⟩)
      rw [List.filter_append, DistinctKeys.filter_key sound.ids.2.1 hr, none, List.append_nil,
        List.length_singleton, List.filter_append, List.filter_append, List.length_append,
        List.length_append] at once
      omega

/-- A row is read back as its trip, unless an instant of it cannot be. -/
theorem getTrip_kept {s : Server} (sound : s.Sound) {r : TripRow} (hr : r ∈ s.trips) :
    ∃ trip, tripRow trip = r ∧
      getTrip s.trips r.tripId = if r.loads then .ok (some trip) else .error .other := by
  have found : s.trips.find? (fun r' => r'.tripId = r.tripId) = some r :=
    DistinctKeys.find?_key sound.ids.1 hr
  obtain ⟨trip, -, rfl⟩ := sound.contract hr
  refine ⟨trip, rfl, ?_⟩
  split
  case isTrue loads => exact getTrip_found found loads
  case isFalse unread => exact getTrip_unread found (by simpa using unread)

/-- **The table is the log of the commits**, and nothing is committed that was not answered with a
201: after every run the trips that were answered so are the committed ones, the ones that were
rolled back, and the ones still open, each once. Rows have different ids, origins that are
registered, and read back as the trips that they were written from; none that is committed is
edited or removed by anything that follows. -/
theorem created_trips_kept (env : ApiEnv) (database : Database) (moves : List ApiMove) :
    let s := ((Server.start database).run env moves).1
    let events := ((Server.start database).run env moves).2
    s.trips = committedTrips events ∧
    (createdTrips events).Perm (committedTrips events ++ rolledBackTrips events ++ s.inserted) ∧
    (s.rows.map (·.tripId)).Nodup ∧
    (∀ r ∈ s.rows, ∃ terminal, s.database.getTerminal r.originTerminalId = some terminal) ∧
    (∀ r ∈ s.trips, ∃ trip, tripRow trip = r ∧
      getTrip s.trips r.tripId = if r.loads then .ok (some trip) else .error .other) ∧
    ∀ more, s.trips <+: (s.run env more).1.trips := by
  intro s events
  have sound : s.Sound := run_sound
  refine ⟨trips_run env database moves, run_inserted env (Server.start database) moves,
    sound.distinct, fun r hr => Option.isSome_iff_exists.1 (sound.registered r hr),
    fun r hr => getTrip_kept sound hr, fun more => ?_⟩
  rw [run_trips env s]
  exact List.prefix_append _ _

end Kept

/-! ## What is shown -/

section Shown

variable {env : ApiEnv} {s : Server}

theorem Server.Sound.origin (sound : s.Sound) {r : TripRow} (hr : r ∈ s.trips) :
    ∃ terminal, s.database.getTerminal r.originTerminalId = some terminal ∧
      originName s.database.terminalReader r.originTerminalId = terminal.name := by
  obtain ⟨terminal, found⟩ :=
    Option.isSome_iff_exists.1 (sound.registered r (List.mem_append_left _ hr))
  refine ⟨terminal, found, ?_⟩
  unfold originName
  rw [show s.database.terminalReader.getTerminal = s.database.getTerminal from rfl, found]

/-- A trip as the list and the page show it: what was kept, with the name that its registered
origin has now. -/
def ShownAs (s : Server) (r : TripRow) (read : TripRead) : Prop :=
  read.row = r ∧ ∃ terminal, s.database.getTerminal r.originTerminalId = some terminal ∧
    read.originTerminalName = terminal.name

/-- The list has every trip once, newest first. -/
theorem answerRead_trips (sound : s.Sound) (now : Int) :
    if s.trips.all TripRow.loads then
      ∃ reads, s.answerRead now .trips = .trips ⟨reads⟩ ∧
        (reads.map TripRead.row).Perm s.trips ∧
        (reads.map TripRead.row).Pairwise TripRow.listedBefore ∧
        ∀ read ∈ reads, ShownAs s read.row read
    else s.answerRead now .trips = .failed := by
  have perm : (s.trips.insertionSort TripRow.listedBefore).Perm s.trips :=
    List.perm_insertionSort _ _
  have answer : s.answerRead now .trips = answered .trips (listTrips s.trips >>=
      fun stored => .ok ⟨stored.map fun t => tripRead t
        (originName s.database.terminalReader t.originTerminalId)⟩) := rfl
  rw [answer]
  split
  case isFalse unread =>
    rw [listTrips_unread (by simpa using unread)]
    rfl
  case isTrue loads =>
    obtain ⟨trips, listed, rows⟩ := listTrips_ok loads fun r => sound.contract
    have read : (TripRead.row ∘ fun t : TripRequest => tripRead t
        (originName s.database.terminalReader t.originTerminalId)) = tripRow := rfl
    rw [listed]
    refine ⟨_, rfl, ?_, ?_, ?_⟩
    · rw [List.map_map, read, rows]
      exact perm
    · rw [List.map_map, read, rows]
      exact listed_sorted s.trips
    · intro shown hshown
      obtain ⟨trip, htrip, rfl⟩ := List.mem_map.1 hshown
      have hr : tripRow trip ∈ s.trips := by
        apply perm.mem_iff.1
        rw [← rows]
        exact List.mem_map_of_mem htrip
      obtain ⟨terminal, found, name⟩ := sound.origin hr
      exact ⟨rfl, terminal, found, name⟩

/-- A trip's page shows it, and there is none for an id that no trip has. -/
theorem answerRead_trip (sound : s.Sound) (now : Int) :
    (∀ r ∈ s.trips, if r.loads then
        ∃ read, s.answerRead now (.trip r.tripId) = .trip read ∧ ShownAs s r read
      else s.answerRead now (.trip r.tripId) = .failed) ∧
    ∀ id, (∀ r ∈ s.trips, r.tripId ≠ id) →
      s.answerRead now (.trip id) = .notFound tripNotFound := by
  have answer : ∀ id, s.answerRead now (.trip id) = answered (orNotFound .trip)
      (getTripRequest id (tripReader s.trips) s.database.terminalReader) := fun _ => rfl
  have reader : ∀ id, (tripReader s.trips).getTrip id = getTrip s.trips id := fun _ => rfl
  constructor
  · intro r hr
    obtain ⟨trip, rfl, read⟩ := getTrip_kept sound hr
    obtain ⟨terminal, registered, name⟩ := sound.origin hr
    rw [answer, getTripRequest, reader, read]
    split
    case isFalse => rfl
    case isTrue => exact ⟨_, rfl, rfl, terminal, registered, name⟩
  · intro id absent
    rw [answer, getTripRequest, reader, getTrip_absent absent]
    rfl

/-- **Whoever bears the token reads what is committed, and nothing else.** After every run the
list is the committed trips, each once, newest first; the page of a committed trip shows it and
other ids are not found; each with the name its origin has by then. Only where an instant of a
stored trip is outside the years of a `datetime` does a read fail: its own page, and the whole
list. -/
theorem created_trips_shown (env : ApiEnv) (database : Database) (moves : List ApiMove)
    {authorization : Option (List UInt8)} (bears : Bears env authorization) (tripId : UUID)
    (now : Int) :
    let s := ((Server.start database).run env moves).1
    let kept := committedTrips ((Server.start database).run env moves).2
    let get call := s.call env authorization (.read call) tripId now
    (if kept.all TripRow.loads then
      ∃ reads, get .trips = (s, some (.trips ⟨reads⟩)) ∧ (reads.map TripRead.row).Perm kept ∧
        (reads.map TripRead.row).Pairwise TripRow.listedBefore ∧
        ∀ read ∈ reads, ShownAs s read.row read
      else get .trips = (s, some .failed)) ∧
    (∀ r ∈ kept, if r.loads then
        ∃ read, get (.trip r.tripId) = (s, some (.trip read)) ∧ ShownAs s r read
      else get (.trip r.tripId) = (s, some .failed)) ∧
    ∀ id, (∀ r ∈ kept, r.tripId ≠ id) → get (.trip id) = (s, some (.notFound tripNotFound)) := by
  intro s kept get
  have sound : s.Sound := run_sound
  have log : s.trips = kept := trips_run env database moves
  have served : ∀ call, get call = (s, some (s.answerRead now call)) := fun call =>
    call_of_bears bears rfl s tripId now
  obtain ⟨pages, absent⟩ := answerRead_trip sound now
  have list := answerRead_trips sound now
  rw [log] at pages absent list
  refine ⟨?_, ?_, fun id hid => ?_⟩
  · rw [served]
    split
    case isTrue loads =>
      rw [if_pos loads] at list
      obtain ⟨reads, answer, rest⟩ := list
      exact ⟨reads, by rw [answer], rest⟩
    case isFalse unread =>
      rw [if_neg unread] at list
      rw [list]
  · intro r hr
    have page := pages r hr
    rw [served]
    split
    case isTrue loads =>
      rw [if_pos loads] at page
      obtain ⟨read, answer, shown⟩ := page
      exact ⟨read, by rw [answer], shown⟩
    case isFalse unread =>
      rw [if_neg unread] at page
      rw [page]
  · rw [served, absent id hid]

/-- The committed one of four. -/
theorem fixture_trips_shown :
    let s := ((Server.start (fixtureDatabase (fixtureSource 1) [])).run fixtureApiEnv
      fixtureMoves).1
    ∃ read, s.call fixtureApiEnv (some fixtureAuthorization) (.read .trips) 0 0 =
      (s, some (.trips ⟨[read]⟩)) ∧ read.row.tripId = 7 := by
  intro s
  have shown := (created_trips_shown fixtureApiEnv (fixtureDatabase (fixtureSource 1) [])
    fixtureMoves fixture_bears 0 0).1
  rw [if_pos (by decide +kernel)] at shown
  obtain ⟨reads, answer, perm, -⟩ := shown
  have ids : (reads.map TripRead.row).map (·.tripId) = [7] :=
    List.perm_singleton.1 ((perm.map _).trans (List.Perm.of_eq (by decide +kernel)))
  obtain ⟨read, rfl⟩ : ∃ read, reads = [read] := by
    rw [← List.length_eq_one_iff]
    simpa using congrArg List.length ids
  exact ⟨read, answer, by simpa using ids⟩

end Shown

/-! ## A trip created at one go -/

section Created

variable {env : ApiEnv} {s : Server} {body : TripBody}

/-- What a body asks for can be asked: a destination of 1 to 200 characters once it is stripped,
a window with zones that ends after it starts and within 30 days, and a party of 1 to 9. -/
structure Askable (body : TripBody) : Prop where
  destination : 1 ≤ (PyText.stripChars PyText.whiteSpace body.destinationText.toList).length ∧
    (PyText.stripChars PyText.whiteSpace body.destinationText.toList).length ≤ 200
  window : ∃ start stop, body.windowStart = some start ∧ body.windowEnd = some stop ∧
    start < stop ∧ stop - start ≤ maxWindow
  party : 1 ≤ body.partySize ∧ body.partySize ≤ 9

/-- **The contract accepts what can be asked.** -/
theorem validate_isOk_iff : (∃ r, Domain.NewTripRequest.validate body = .ok r) ↔ Askable body := by
  constructor
  · rintro ⟨r, h⟩
    obtain ⟨-, destination, start, stop, party⟩ := Domain.NewTripRequest.validate_ok_iff.1 h
    have sized := r.destinationText.sized
    rw [← String.length_toList, destination] at sized
    exact ⟨sized, ⟨_, _, start, stop, NewTripFields.windowIsSane_ok_iff.1 r.sane⟩,
      party ▸ r.partySize.2⟩
  · rintro ⟨destination, ⟨start, stop, hstart, hstop, window⟩, party⟩
    let fields : NewTripFields :=
      { originTerminalId := body.originTerminalId
        destinationText :=
          { text := String.ofList (PyText.stripChars PyText.whiteSpace body.destinationText.toList)
            stripped := by rw [String.toList_ofList, PyText.stripChars_idem]
            sized := by rwa [String.length_ofList] }
        windowStart := start
        windowEnd := stop
        partySize := ⟨body.partySize, party⟩ }
    refine ⟨{ fields with sane := NewTripFields.windowIsSane_ok_iff.2 window }, ?_⟩
    exact Domain.NewTripRequest.validate_ok_iff.2
      ⟨rfl, String.toList_ofList, hstart, hstop, rfl⟩

/-- The text that is stored of a destination. -/
def keptText (body : TripBody) : String :=
  String.ofList (PyText.stripChars PyText.whiteSpace body.destinationText.toList)

/-- The row that a body asks for. -/
def askedRow (body : TripBody) (tripId : UUID) (now : Int) : TripRow where
  tripId
  originTerminalId := body.originTerminalId
  destinationText := keptText body
  windowStart := body.windowStart.getD 0
  windowEnd := body.windowEnd.getD 0
  partySize := body.partySize
  createdAt := now

theorem tripRow_asked {r : Domain.NewTripRequest} {tripId : UUID} {now : Int}
    (h : Domain.NewTripRequest.validate body = .ok r) :
    tripRow { r with tripId, createdAt := now } = askedRow body tripId now := by
  obtain ⟨origin, destination, start, stop, party⟩ := Domain.NewTripRequest.validate_ok_iff.1 h
  have text : r.destinationText.text = keptText body := by
    rw [keptText, ← destination, String.ofList_toList]
  unfold tripRow askedRow
  rw [origin, text, start, stop, ← party]
  rfl

/-- **Everything the handler can do before its insert.** -/
theorem beginTrip_cases (s : Server) (body : TripBody) (tripId : UUID) (now : Int) :
    let origin := s.database.getTerminal body.originTerminalId
    (¬ Askable body ∧ ∃ errors, s.beginTrip body tripId now = (s, some (.invalid errors))) ∨
    Askable body ∧ (origin = none ∧
        s.beginTrip body tripId now = (s, some (.unprocessable unknownOriginTerminal)) ∨
      ∃ trip terminal, origin = some terminal ∧ tripRow trip = askedRow body tripId now ∧
        s.beginTrip body tripId now =
          ({ s with inFlight := s.inFlight ++ [(trip, terminal)] }, none)) := by
  intro origin
  unfold Server.beginTrip newTripRequest
  cases hvalid : Domain.NewTripRequest.validate body with
  | error errors =>
    refine .inl ⟨?_, errors, rfl⟩
    rw [← validate_isOk_iff, hvalid]
    rintro ⟨r, h⟩
    cases h
  | ok r =>
    have same : r.originTerminalId = body.originTerminalId :=
      (Domain.NewTripRequest.validate_ok_iff.1 hvalid).1.symm
    have found : s.database.terminalReader.getTerminal r.originTerminalId = origin := by
      rw [same]
      rfl
    refine .inr ⟨validate_isOk_iff.1 ⟨r, hvalid⟩, ?_⟩
    dsimp only
    rw [found]
    cases horigin : origin with
    | none => exact .inl ⟨rfl, rfl⟩
    | some terminal => exact .inr ⟨_, terminal, rfl, tripRow_asked hvalid, rfl⟩

/-- What was put at the end of a queue is taken from it at its old length. -/
theorem eraseIdx_concat_length {α : Type} (queue : List α) (last : α) :
    (queue ++ [last]).eraseIdx queue.length = queue := by
  rw [List.eraseIdx_append_of_length_le le_rfl, Nat.sub_self, List.eraseIdx_cons_zero,
    List.append_nil]

/-- The trip that was put in flight last, inserted before anything else happens. -/
theorem insert_last (s : Server) (trip : TripRequest) (origin : Terminal) :
    ({ s with inFlight := s.inFlight ++ [(trip, origin)] } : Server).insert s.inFlight.length =
      if s.waits trip then ({ s with inFlight := s.inFlight ++ [(trip, origin)] }, none)
      else match addTrip s.hasTerminal s.trips trip with
        | .ok _ =>
          ({ s with inserted := s.inserted ++ [tripRow trip] },
            some (.created (tripRead trip origin.name)))
        | .error (.integrity _) => (s, some (.unprocessable unknownOriginTerminal))
        | .error .data => (s, some .failed) := by
  have last : (s.inFlight ++ [(trip, origin)])[s.inFlight.length]? = some (trip, origin) :=
    List.getElem?_concat_length
  unfold Server.insert
  rewrite [last, eraseIdx_concat_length]
  rfl

/-- A request for a trip whose insert follows at once. -/
def Server.askMoves (s : Server) (authorization : Option (List UInt8)) (body : RequestBody)
    (tripId : UUID) (now : Int) : List ApiMove :=
  [.call authorization (.createTrip body) tripId now, .insert s.inFlight.length]

/-- A request for a trip whose insert and commit follow at once. -/
def Server.createMoves (s : Server) (authorization : Option (List UInt8)) (body : RequestBody)
    (tripId : UUID) (now : Int) : List ApiMove :=
  s.askMoves authorization body tripId now ++ [.commit s.inserted.length]

section Asked

variable {authorization : Option (List UInt8)} {request : RequestBody} {tripId : UUID} {now : Int}

/-- A request that is answered at once leaves nothing to insert. -/
theorem askMoves_answered {answer : ApiAnswer}
    (h : s.call env authorization (.createTrip request) tripId now = (s, some answer)) :
    s.run env (s.askMoves authorization request tripId now) = (s, [.answered answer]) := by
  have nothing : s.insert s.inFlight.length = (s, none) := by
    unfold Server.insert
    rw [List.getElem?_eq_none le_rfl]
  simp [Server.askMoves, Trace.run, Server.step, replied, h, nothing]

/-- A trip that is in flight at once comes to its insert. -/
theorem askMoves_inserted {checked : TripRequest × Terminal} {s' : Server}
    {answer : Option ApiAnswer}
    (h : s.call env authorization (.createTrip request) tripId now =
      ({ s with inFlight := s.inFlight ++ [checked] }, none))
    (inserted : ({ s with inFlight := s.inFlight ++ [checked] } : Server).insert s.inFlight.length =
      (s', answer)) :
    s.run env (s.askMoves authorization request tripId now) =
      (s', (answer.map .answered).toList) := by
  simp [Server.askMoves, Trace.run, Server.step, replied, h, inserted]

/-- **Everything that asking for a trip at one go can do**: it is inserted, its text is refused by
the driver, it waits for an open transaction with its id, or the request is refused. -/
theorem askMoves_cases (bears : Bears env authorization) (s : Server) (body : TripBody)
    (tripId : UUID) (now : Int) :
    let registered := ∃ terminal, s.database.getTerminal body.originTerminalId = some terminal
    let storable := storableText (keptText body) = true
    let waits := Askable body ∧ registered ∧ storable ∧ ∃ r ∈ s.inserted, r.tripId = tripId
    let asked := s.run env (s.askMoves authorization (.typed body) tripId now)
    ((Askable body ∧ registered ∧ storable ∧ ∀ r ∈ s.rows, r.tripId ≠ tripId) ∧
        ∃ trip name, tripRow trip = askedRow body tripId now ∧
          asked = ({ s with inserted := s.inserted ++ [askedRow body tripId now] },
            [.answered (.created (tripRead trip name))])) ∨
      ((Askable body ∧ registered ∧ ¬ storable) ∧ asked = (s, [.answered .failed])) ∨
      (waits ∧ ∃ checked, asked = ({ s with inFlight := s.inFlight ++ [checked] }, [])) ∨
      (¬ waits ∧ ¬ (Askable body ∧ registered ∧ (storable → ∀ r ∈ s.trips, r.tripId ≠ tripId)) ∧
        ∃ answer : ApiAnswer, answer.status = 422 ∧ asked = (s, [.answered answer])) := by
  intro registered storable waits asked
  have served : s.call env authorization (.createTrip (.typed body)) tripId now =
      s.beginTrip body tripId now := call_of_bears bears rfl s tripId now
  rcases beginTrip_cases s body tripId now with
    ⟨unasked, errors, begun⟩ | ⟨askable, ⟨unknown, begun⟩ | ⟨trip, terminal, found, row, begun⟩⟩
  · refine .inr (.inr (.inr ⟨fun h => unasked h.1, fun h => unasked h.1, .invalid errors, rfl, ?_⟩))
    exact askMoves_answered (served.trans begun)
  · have unregistered : ¬ registered := by
      rintro ⟨terminal, found⟩
      rw [unknown] at found
      cases found
    refine .inr (.inr (.inr ⟨fun h => unregistered h.2.1, fun h => unregistered h.2.1,
      .unprocessable unknownOriginTerminal, rfl, ?_⟩))
    exact askMoves_answered (served.trans begun)
  · have text : trip.destinationText.text = keptText body := congrArg TripRow.destinationText row
    have id : trip.tripId = tripId := congrArg TripRow.tripId row
    have origin : trip.originTerminalId = body.originTerminalId :=
      congrArg TripRow.originTerminalId row
    have known : registered := ⟨terminal, found⟩
    have has : s.hasTerminal trip.originTerminalId = true := by
      unfold Server.hasTerminal
      rw [origin, found]
      rfl
    have landed : ∀ {s'} {answer : Option ApiAnswer}, _ = (s', answer) →
        asked = (s', (answer.map .answered).toList) :=
      fun inserted => askMoves_inserted (served.trans begun) inserted
    rw [insert_last] at landed
    have waits_iff : s.waits trip = true ↔ storable ∧ ∃ r ∈ s.inserted, r.tripId = tripId := by
      simp [Server.waits, text, id, storable]
    by_cases wait : s.waits trip = true
    · obtain ⟨stored, taken⟩ := waits_iff.1 wait
      exact .inr (.inr (.inl ⟨⟨askable, known, stored, taken⟩, _, landed (if_pos wait)⟩))
    · have cases := addTrip_cases s.hasTerminal s.trips trip
      dsimp only at cases
      rw [text, id] at cases
      rw [if_neg wait] at landed
      rcases cases with ⟨nul, added⟩ | ⟨stored, ⟨⟨new, -⟩, added⟩ | ⟨misfit, e, added⟩⟩
      · refine .inr (.inl ⟨⟨askable, known, ?_⟩, landed (by rw [added])⟩)
        exact Bool.eq_false_iff.1 nul
      · have alone : ∀ r ∈ s.inserted, r.tripId ≠ tripId := fun r hr same =>
          wait (waits_iff.2 ⟨stored, r, hr, same⟩)
        refine .inl ⟨⟨askable, known, stored, List.forall_mem_append.2 ⟨new, alone⟩⟩, trip,
          terminal.name, row, ?_⟩
        rw [← row]
        exact landed (by rw [added])
      · refine .inr (.inr (.inr ⟨fun h => wait (waits_iff.2 h.2.2),
          fun h => misfit ⟨h.2.2 stored, has⟩, .unprocessable unknownOriginTerminal, rfl,
          landed (by rw [added])⟩))

/-- A commit of what was inserted last. -/
theorem createMoves_committed {row : TripRow} {events : List ApiEvent}
    (h : s.run env (s.askMoves authorization request tripId now) =
      ({ s with inserted := s.inserted ++ [row] }, events)) :
    s.run env (s.createMoves authorization request tripId now) =
      ({ s with trips := s.trips ++ [row] }, events ++ [.committed row]) := by
  have last : (s.inserted ++ [row])[s.inserted.length]? = some row := List.getElem?_concat_length
  unfold Server.createMoves
  rw [Server.run, Trace.run_snoc, ← Server.run, h]
  dsimp only [Server.step]
  unfold Server.commit
  rewrite [last, eraseIdx_concat_length]
  rfl

/-- There is nothing to commit where nothing was inserted. -/
theorem createMoves_uncommitted {s' : Server} {events : List ApiEvent}
    (h : s.run env (s.askMoves authorization request tripId now) = (s', events))
    (same : s'.inserted = s.inserted) :
    s.run env (s.createMoves authorization request tripId now) = (s', events) := by
  have nothing : s'.commit s.inserted.length = (s', none) := by
    unfold Server.commit
    rw [same, List.getElem?_eq_none le_rfl]
  unfold Server.createMoves
  rw [Server.run, Trace.run_snoc, ← Server.run, h]
  dsimp only [Server.step]
  rw [nothing, Option.toList_none, List.append_nil]

end Asked

/-- **A trip is created at one go exactly when it can be asked for, its origin is registered, its
destination has no NUL and its id is new.** The NUL is accepted by the contract and refused by
the driver, which ends in a 500; all else is a 422, but for a trip whose id is in an open
transaction: it gets no answer yet. Only a 201 changes the table, by the row that was asked for. -/
theorem create_trip_answers (env : ApiEnv) (s : Server) {authorization : Option (List UInt8)}
    (bears : Bears env authorization) (body : TripBody) (tripId : UUID) (now : Int) :
    let registered := ∃ terminal, s.database.getTerminal body.originTerminalId = some terminal
    let fresh := ∀ r ∈ s.trips, r.tripId ≠ tripId
    let waits := Askable body ∧ registered ∧ storableText (keptText body) = true ∧
      ∃ r ∈ s.inserted, r.tripId = tripId
    let run := s.run env (s.createMoves authorization (.typed body) tripId now)
    (waits → answers run.2 = [] ∧ run.1.rows = s.rows) ∧
    (¬ waits → ∃ s' answer, run.1 = s' ∧ answers run.2 = [answer] ∧
      (answer.status = 201 ↔
        Askable body ∧ registered ∧ storableText (keptText body) = true ∧ fresh) ∧
      (answer.status = 500 ↔
        Askable body ∧ registered ∧ storableText (keptText body) = false) ∧
      (answer.status = 201 ∧ s' = { s with trips := s.trips ++ [askedRow body tripId now] } ∨
        (answer.status = 422 ∨ answer.status = 500) ∧ s' = s)) := by
  intro registered fresh waits run
  rcases askMoves_cases bears s body tripId now with
    ⟨⟨asked, known, storable, new⟩, trip, name, -, h⟩ | ⟨⟨asked, known, nul⟩, h⟩ |
      ⟨wait, checked, h⟩ | ⟨free, refused, answer, status, h⟩
  · have done : run = ({ s with trips := s.trips ++ [askedRow body tripId now] }, _) :=
      createMoves_committed h
    rw [done]
    obtain ⟨fresh, alone⟩ := List.forall_mem_append.1 new
    refine ⟨fun wait => ?_, fun _ => ⟨_, .created (tripRead trip name), rfl, rfl, ?_, ?_,
      .inl ⟨rfl, rfl⟩⟩⟩
    · obtain ⟨-, -, -, r, hr, same⟩ := wait
      exact absurd same (alone r hr)
    · exact iff_of_true rfl ⟨asked, known, storable, fresh⟩
    · refine iff_of_false (show (201 : Nat) ≠ 500 by decide) ?_
      rw [storable]
      exact fun h => Bool.noConfusion h.2.2
  · have done : run = (s, _) := createMoves_uncommitted h rfl
    rw [done]
    refine ⟨fun wait => absurd wait.2.2.1 nul, fun _ => ⟨_, .failed, rfl, rfl, ?_, ?_,
      .inr ⟨.inr rfl, rfl⟩⟩⟩
    · exact iff_of_false (by decide) fun h => nul h.2.2.1
    · exact iff_of_true rfl ⟨asked, known, Bool.eq_false_iff.2 nul⟩
  · have done : run = ({ s with inFlight := s.inFlight ++ [checked] }, []) :=
      createMoves_uncommitted h rfl
    rw [done]
    exact ⟨fun _ => ⟨rfl, rfl⟩, fun free => absurd wait free⟩
  · have done : run = (s, _) := createMoves_uncommitted h rfl
    rw [done]
    refine ⟨fun wait => absurd wait free, fun _ =>
      ⟨_, answer, rfl, rfl, ?_, ?_, .inr ⟨.inl status, rfl⟩⟩⟩
    · rw [status]
      exact iff_of_false (by decide) fun h => refused ⟨h.1, h.2.1, fun _ => h.2.2.2⟩
    · rw [status]
      refine iff_of_false (by decide) ?_
      rintro ⟨asked, known, nul⟩
      refine refused ⟨asked, known, fun storable => ?_⟩
      rw [nul] at storable
      cases storable

/-- The destination that the contract accepts and the driver does not. -/
theorem fixture_trip_nul :
    let s := Server.start (fixtureDatabase (fixtureSource 1) [])
    let body := { fixtureTripBody with destinationText := String.ofList [Char.ofNat 0] }
    let run := s.run fixtureApiEnv
      (s.createMoves (some fixtureAuthorization) (.typed body) 7 10)
    ∃ answer, answer.status = 500 ∧ answers run.2 = [answer] ∧ run.1 = s := by
  intro s body run
  have told := create_trip_answers fixtureApiEnv s fixture_bears body 7 10
  obtain ⟨s', answer, same, answered, -, failed, outcome⟩ := told.2 <| by
    rintro ⟨-, -, -, r, hr, -⟩
    cases hr
  have asked : Askable body :=
    ⟨by decide, ⟨0, 5 * 86400000000, rfl, rfl, by decide, by decide⟩, by decide⟩
  have status : answer.status = 500 := failed.2 ⟨asked, ⟨_, rfl⟩, by decide⟩
  refine ⟨answer, status, answered, same.trans ?_⟩
  rcases outcome with ⟨created, -⟩ | ⟨-, kept⟩
  · rw [status] at created
    cases created
  · exact kept

end Created

end PaxPivot
