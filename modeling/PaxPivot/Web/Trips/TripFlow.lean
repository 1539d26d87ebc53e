import PaxPivot.Web.Trips.NewTrip
import PaxPivot.Web.Trips.TripPages

/-!
# From the form to the page

`app/trips/new/route.ts` through `writeApi`, the API and back: a form that is answered with a trip's
page is inserted as it was typed, and shown so by every view of that page from its commit on. What
the contract library reads in the JSON of a request is a parameter.
-/

namespace PaxPivot

open JsInstant (Fields)
open JsText (ofString unit)

/-! ## The wire -/

/-- What the API reads in the strings of a body, `none` for a value it refuses. -/
structure Wire where
  uuid : JsString → Option UUID
  datetime : JsString → Option (Option Int)

/-- Text of JSON; a surrogate that stands alone is refused. -/
def jsonText (text : JsString) : Option String :=
  let chars := JsText.scalars text
  if JsText.ofScalars chars = text then some (String.ofList chars) else none

def Wire.body (wire : Wire) (request : NewTripRequest) : RequestBody :=
  match wire.uuid request.originTerminalId, jsonText request.destinationText,
      wire.datetime request.windowStart, wire.datetime request.windowEnd with
  | some originTerminalId, some destinationText, some windowStart, some windowEnd =>
    .typed { originTerminalId, destinationText, windowStart, windowEnd
             partySize := request.partySize }
  | _, _, _, _ => .mistyped

/-- Date-times in UTC are read as they are written, from the year 1 on. -/
structure Wire.ReadsIso (wire : Wire) : Prop where
  real : ∀ f : Fields, f.Real → 1 ≤ f.year → f.year ≤ 9999 →
    wire.datetime f.isoForm = some (some (1000 * f.instant))
  yearZero : ∀ f : Fields, f.Real → f.year = 0 → wire.datetime f.isoForm = none

/-! ## The form -/

def ApiAnswer.createdJson : ApiAnswer → Option TripRead
  | .created read => some read
  | _ => none

/-- What the handler makes of the outcome. -/
def tripAnswer : ApiResult TripRead → TripAnswer
  | .ok read => .created (pathId read.tripId)
  | .error failure => .refused (failure = .invalid)

namespace Site

variable (site : Site) (wire : Wire) (s : Server) (reached : Bool) (tripId : UUID) (now : Int)

/-- `writeApi` to `/api/v1/trips`, while the API is at `s` and does nothing else. -/
def writeTrip (request : NewTripRequest) : ApiResult TripRead :=
  callApi site.env (site.fetch reached ApiAnswer.createdJson fun authorization =>
    (answers (s.run site.api (s.askMoves authorization (wire.body request) tripId now)).2).head?)

/-- `POST` of a form. -/
def postTrip (integer : Option FormValue → Option Int) (form : Form) : NewTripAnswer :=
  newTrip integer (fun request => tripAnswer (site.writeTrip wire s reached tripId now request))
    (some form)

end Site

/-! ## What was typed -/

/-- The value of a field. -/
def Form.typed (form : Form) (name : String) : JsString := FormValue.toText (form.get name.toList)

/-- What a page shows of a typed date-time: its minutes, a space for the `T`, and the zone. -/
def asShown (typed : JsString) : JsString :=
  (typed.take 16).map (fun u => if u = unit 'T' then unit ' ' else u) ++ [unit 'Z']

theorem digits_map {width n : Nat} :
    (JsText.digits width n).map (fun u => if u = unit 'T' then unit ' ' else u) =
      JsText.digits width n := by
  apply (List.map_congr_left _).trans (List.map_id _)
  intro u hu
  apply if_neg
  rintro rfl
  exact absurd (JsText.isDigit_of_mem_digits hu) (by decide)

/-- A page shows what was typed. -/
theorem asShown_writes {f : Fields} {typed : JsString} (h : Writes f typed) :
    asShown typed = shownForm f := by
  have dash : (if unit '-' = unit 'T' then unit ' ' else unit '-') = unit '-' := by decide
  have colon : (if unit ':' = unit 'T' then unit ' ' else unit ':') = unit ':' := by decide
  unfold asShown shownForm
  rw [(fieldsOf_writes h).2]
  simp only [Fields.minuteForm, JsInstant.minuteText, List.map_append, List.map_cons, digits_map,
    dash, colon, if_true, List.append_assoc, List.cons_append]

/-- **A typed date-time is shown as it was typed.** -/
theorem formatTimestamp_typed {f : Fields} {typed : JsString} (real : f.Real) (h : Writes f typed)
    (year : 1000 ≤ f.year) : ofString (formatTimestamp (1000 * f.instant)) = asShown typed := by
  have written := h.written.year
  -- The minute that the seconds are in.
  have minute : InMinute { f with second := 0 } (1000 * f.instant) := by
    have seconds := real.second
    refine ⟨⟨real.date, real.hour, real.minute, Nat.zero_le _⟩, rfl,
      ⟨year, show f.year ≤ 9999 by omega⟩, ?_, ?_⟩
    · show 1000 * Fields.instant { f with second := 0 } ≤ 1000 * f.instant
      unfold Fields.instant Fields.date
      dsimp only
      omega
    · show 1000 * f.instant < 1000 * Fields.instant { f with second := 0 } + 60000000
      unfold Fields.instant Fields.date
      dsimp only
      omega
  rw [formatTimestamp_of_minute minute, asShown_writes h]
  rfl

/-! ## Fixture records -/

/-- Reads UUIDs and date-times in UTC. -/
def fixtureWire : Wire where
  uuid text := UUID.parse (String.ofList (JsText.scalars text))
  datetime text :=
    let f := fieldsOf text
    if f.isoForm = text ∧ 1 ≤ f.year then (JsInstant.getTime f).map fun t => some (1000 * t)
    else none

/-- The date-time that an ISO text writes is read back. -/
theorem fieldsOf_isoForm {f : Fields} (written : f.Written) : fieldsOf f.isoForm = f := by
  have text : f.isoForm = f.minuteForm ++
      (unit ':' :: (JsText.digits 2 f.second ++
        unit '.' :: (JsText.digits 3 0 ++ [unit 'Z']))) := by
    simp [Fields.isoForm, Fields.secondForm]
  rw [text, (fieldsOf_minuteForm written _).1]
  have seconds : JsText.number (((unit ':' :: (JsText.digits 2 f.second ++
      unit '.' :: (JsText.digits 3 0 ++ [unit 'Z']))).drop 1).take 2) = f.second := by
    rw [List.drop_one, List.tail_cons, List.take_left' (JsText.length_digits 2 f.second),
      JsText.number_digits, Nat.mod_eq_of_lt written.second]
  rw [seconds]

theorem fixtureWire_readsIso : fixtureWire.ReadsIso where
  real f real year years := by
    have read : fieldsOf f.isoForm = f := fieldsOf_isoForm (written_of_real real years)
    have time : JsInstant.getTime f = some f.instant := if_pos real.accepted
    simp only [fixtureWire, read, time, year, and_self, if_true, Option.map_some]
  yearZero f real zero := by
    have read : fieldsOf f.isoForm = f := fieldsOf_isoForm (written_of_real real (by omega))
    simp only [fixtureWire, read, zero]
    exact if_neg fun h => absurd h.2 (by decide)

def fixtureTripForm : Form :=
  [("origin_terminal_id", UUID.str 1), ("destination_text", " Example destination "),
    ("window_start", "2026-09-10T08:30"), ("window_end", "2026-09-12T17:00:30"),
    ("party_size", "2")].map fun (name, value) => (ofString name, .text (ofString value))

/-- A party of two. -/
def fixtureInteger (_value : Option FormValue) : Option Int := some 2

/-! ## What a trip's page answers for -/

section Created

variable {site : Site} {wire : Wire} {s : Server} {reached : Bool} {tripId : UUID} {now : Int}
  {integer : Option FormValue → Option Int} {form : Form} {path : JsString}

/-- Any other answer of the handler than a trip's page. -/
theorem elsewhere {text : String} (h : text ∈ ["/?error=invalid", "/?error=unavailable"])
    (path : JsString) :
    NewTripAnswer.redirect (ofString text) ≠ .redirect (ofString "/trips/" ++ path) := by
  intro same
  -- The paths differ in their second character.
  have second := congrArg (fun t : JsString => t[1]?) (NewTripAnswer.redirect.inj same)
  have trips : (ofString "/trips/" ++ path)[1]? = some (unit 't') := rfl
  have error : (ofString text)[1]? = some (unit '?') := by
    rcases List.mem_pair.1 h with rfl | rfl
    · rfl
    · rfl
  rw [error, trips] at second
  exact absurd second (by decide)

/-- The handler sends to a trip's page for a filled form that the API created a trip for. -/
theorem newTrip_created_iff {writeApi : NewTripRequest → TripAnswer} :
    newTrip integer writeApi (some form) = .redirect (ofString "/trips/" ++ path) ↔
      ((newTripBody integer form).windowStart ≠ [] ∧ (newTripBody integer form).windowEnd ≠ [] ∧
        (newTripBody integer form).destinationText ≠ []) ∧
      writeApi (newTripBody integer form) = .created path := by
  unfold newTrip
  dsimp only
  constructor
  · intro h
    split at h
    case isTrue => exact absurd h (elsewhere (by decide) path)
    case isFalse filled =>
      rw [not_or, not_or] at filled
      refine ⟨filled, ?_⟩
      split at h
      case h_1 => exact absurd h (elsewhere (by decide) path)
      case h_2 => exact absurd h (elsewhere (by decide) path)
      case h_3 tripId answer =>
        rw [answer, List.append_cancel_left (NewTripAnswer.redirect.inj h)]
  · rintro ⟨⟨windowStart, windowEnd, destination⟩, created⟩
    rw [if_neg (by simp only [windowStart, windowEnd, destination, or_self, not_false_iff]),
      created]

theorem outcome_created {answer : ApiAnswer} {read : TripRead}
    (h : answer.outcome ApiAnswer.createdJson = .ok read) : answer = .created read := by
  unfold ApiAnswer.outcome at h
  cases answer with
  | created read' => exact congrArg ApiAnswer.created (Except.ok.inj h)
  | _ => cases h

theorem tripAnswer_created {result : ApiResult TripRead} (h : tripAnswer result = .created path) :
    ∃ read, result = .ok read ∧ pathId read.tripId = path := by
  cases result with
  | ok read => exact ⟨read, rfl, TripAnswer.created.inj h⟩
  | error failure => cases h

theorem body_read (wire : Wire) (request : NewTripRequest) :
    (ApiCall.createTrip (wire.body request)).unread = none := by
  unfold Wire.body
  split <;> rfl

/-- **A trip that was created was asked for**: by who is let in, in a body that the contract
accepts, and its row is what the body asks for. -/
theorem writeTrip_created {request : NewTripRequest} {read : TripRead}
    (h : site.writeTrip wire s reached tripId now request = .ok read) :
    Admitted site reached ∧ ∃ body header, wire.body request = .typed body ∧ Askable body ∧
      (∃ terminal, s.database.getTerminal body.originTerminalId = some terminal) ∧
      storableText (keptText body) = true ∧ (∀ r ∈ s.rows, r.tripId ≠ tripId) ∧
      site.authorization = some header ∧ read.row = askedRow body tripId now ∧
      (s.run site.api (s.askMoves (some header) (.typed body) tripId now)).1 =
        { s with inserted := s.inserted ++ [askedRow body tripId now] } := by
  obtain ⟨set, delivered, header, answer, hheader, answered, outcome⟩ := callApi_ok h
  obtain rfl : answer = .created read := outcome_created outcome
  have created : (ApiAnswer.created read).status = 201 := rfl
  have only : ∀ answer, answers [.answered answer] = [answer] := fun _ => rfl
  by_cases bears : Bears site.api (some header)
  case neg =>
    obtain ⟨answer, status, same⟩ := call_refused bears (body_read wire request) tripId now
    rw [askMoves_answered (same s), only] at answered
    rw [Option.some.inj answered, created] at status
    exact absurd status (by decide)
  case pos =>
    have readable := body_read wire request
    cases hbody : wire.body request with
    | undecodable =>
      rw [hbody] at readable
      cases readable
    | notJson =>
      rw [hbody] at readable
      cases readable
    | mistyped =>
      have served : s.call site.api (some header) (.createTrip .mistyped) tripId now =
          (s, some .malformed) := call_of_bears bears rfl s tripId now
      rw [hbody, askMoves_answered served, only] at answered
      cases answered
    | typed body =>
      rw [hbody] at answered
      rcases askMoves_cases bears s body tripId now with
        ⟨⟨asked, known, storable, fresh⟩, trip, name, row, run⟩ | ⟨-, run⟩ | ⟨-, checked, run⟩ |
          ⟨-, -, answer, status, run⟩
      · rw [run, only] at answered
        refine ⟨⟨set, delivered, by rwa [hheader]⟩, body, header, rfl, asked, known, storable,
          fresh, hheader, ?_, by rw [run]⟩
        rw [← ApiAnswer.created.inj (Option.some.inj answered), row_tripRead, row]
      · rw [run, only] at answered
        cases answered
      · rw [run] at answered
        cases answered
      · rw [run, only] at answered
        rw [Option.some.inj answered, created] at status
        cases status

/-- **A trip that can be created is**, when it is asked for by who is let in. -/
theorem writeTrip_creates {request : NewTripRequest} {body : TripBody}
    (admitted : Admitted site reached) (hbody : wire.body request = .typed body)
    (asked : Askable body)
    (known : ∃ terminal, s.database.getTerminal body.originTerminalId = some terminal)
    (storable : storableText (keptText body) = true) (fresh : ∀ r ∈ s.rows, r.tripId ≠ tripId) :
    ∃ read, site.writeTrip wire s reached tripId now request = .ok read ∧ read.tripId = tripId := by
  obtain ⟨header, hheader⟩ := admitted.header
  have bears := admitted.bears
  rw [hheader] at bears
  obtain ⟨new, alone⟩ := List.forall_mem_append.1 fresh
  rcases askMoves_cases bears s body tripId now with
    ⟨-, trip, name, row, run⟩ | ⟨⟨-, -, nul⟩, -⟩ | ⟨⟨-, -, -, r, hr, same⟩, -⟩ |
      ⟨-, refused, -⟩
  · refine ⟨tripRead trip name, ?_, congrArg TripRow.tripId row⟩
    unfold Site.writeTrip
    rw [callApi_set admitted.configured, if_pos admitted.reached, hheader]
    dsimp only
    rw [hbody, run]
    rfl
  · exact absurd storable nul
  · exact absurd same (alone r hr)
  · exact absurd ⟨asked, known, fun _ => new⟩ refused

/-! ## What a form asks for -/

theorem body_typed_iff {request : NewTripRequest} {body : TripBody} :
    wire.body request = .typed body ↔
      wire.uuid request.originTerminalId = some body.originTerminalId ∧
      jsonText request.destinationText = some body.destinationText ∧
      wire.datetime request.windowStart = some body.windowStart ∧
      wire.datetime request.windowEnd = some body.windowEnd ∧
      request.partySize = body.partySize := by
  unfold Wire.body
  constructor
  · intro h
    split at h
    case h_1 origin destination windowStart windowEnd =>
      obtain rfl := RequestBody.typed.inj h
      exact ⟨origin, destination, windowStart, windowEnd, rfl⟩
    case h_2 => cases h
  · rintro ⟨origin, destination, windowStart, windowEnd, party⟩
    rw [origin, destination, windowStart, windowEnd, party]

/-- A form that asks for a trip: two real date-times from the year 1 on, and strings that can be
read. -/
structure AsksFor (wire : Wire) (integer : Option FormValue → Option Int) (form : Form)
    (body : TripBody) : Prop where
  origin : wire.uuid (form.typed "origin_terminal_id") = some body.originTerminalId
  destination : jsonText (trim (form.typed "destination_text")) = some body.destinationText
  windowStart : ∃ f : Fields, f.Real ∧ 1 ≤ f.year ∧ Writes f (form.typed "window_start") ∧
    body.windowStart = some (1000 * f.instant)
  windowEnd : ∃ f : Fields, f.Real ∧ 1 ≤ f.year ∧ Writes f (form.typed "window_end") ∧
    body.windowEnd = some (1000 * f.instant)
  party : (integer (form.get "party_size".toList)).getD 0 = body.partySize

/-- A destination within the contract's bounds is not empty in the form. -/
theorem filled_of_askable {text : JsString} {body : TripBody}
    (h : jsonText text = some body.destinationText) (asked : Askable body) : text ≠ [] := by
  rintro rfl
  have empty : body.destinationText = "" := (Option.some.inj h).symm
  have least := asked.destination.1
  rw [empty] at least
  exact absurd least (by decide)

/-- What the API reads of a field with a real date-time. -/
theorem datetime_typed (iso : wire.ReadsIso) {value : Option FormValue} {read : Option Int}
    (filled : (toIso value).getD [] ≠ [])
    (h : wire.datetime ((toIso value).getD []) = some read) :
    ∃ f : Fields, f.Real ∧ 1 ≤ f.year ∧ Writes f (FormValue.toText value) ∧
      read = some (1000 * f.instant) := by
  cases htyped : toIso value with
  | none =>
    rw [htyped] at filled
    exact absurd rfl filled
  | some text =>
    obtain ⟨f, real, writes, rfl⟩ := toIso_eq_some_iff.1 htyped
    rw [htyped, Option.getD_some] at h
    have years := writes.written.year
    rcases Nat.eq_zero_or_pos f.year with zero | year
    · rw [iso.yearZero f real zero] at h
      cases h
    · rw [iso.real f real year (by omega)] at h
      exact ⟨f, real, year, writes, (Option.some.inj h).symm⟩

/-- A real date-time in a field is sent, and read by the API. -/
theorem typed_datetime (iso : wire.ReadsIso) {value : Option FormValue} {f : Fields}
    (real : f.Real) (year : 1 ≤ f.year) (writes : Writes f (FormValue.toText value)) :
    (toIso value).getD [] ≠ [] ∧
      wire.datetime ((toIso value).getD []) = some (some (1000 * f.instant)) := by
  have years := writes.written.year
  rw [toIso_eq_some_iff.2 ⟨f, real, writes, rfl⟩, Option.getD_some]
  refine ⟨?_, iso.real f real year (by omega)⟩
  unfold Fields.isoForm
  simp

/-- **A form that asks for a trip that can be created is answered with its page.** -/
theorem postTrip_creates (iso : wire.ReadsIso) {body : TripBody} (admitted : Admitted site reached)
    (asks : AsksFor wire integer form body) (asked : Askable body)
    (known : ∃ terminal, s.database.getTerminal body.originTerminalId = some terminal)
    (storable : storableText (keptText body) = true) (fresh : ∀ r ∈ s.rows, r.tripId ≠ tripId) :
    site.postTrip wire s reached tripId now integer form =
      .redirect (ofString "/trips/" ++ pathId tripId) := by
  obtain ⟨f, freal, fyear, fwrites, start⟩ := asks.windowStart
  obtain ⟨g, greal, gyear, gwrites, stop⟩ := asks.windowEnd
  obtain ⟨fsent, fread⟩ := typed_datetime iso freal fyear fwrites
  obtain ⟨gsent, gread⟩ := typed_datetime iso greal gyear gwrites
  have hbody : wire.body (newTripBody integer form) = .typed body :=
    body_typed_iff.2 ⟨asks.origin, asks.destination, fread.trans (by rw [start]),
      gread.trans (by rw [stop]), asks.party⟩
  obtain ⟨read, written, id⟩ := writeTrip_creates admitted hbody asked known storable fresh
  refine newTrip_created_iff.2 ⟨⟨fsent, gsent, filled_of_askable asks.destination asked⟩, ?_⟩
  rw [written, ← id]
  rfl

/-- **A form that is answered with a trip's page** asked for a trip that could be created, and its
row is inserted. -/
theorem postTrip_created (iso : wire.ReadsIso)
    (h : site.postTrip wire s reached tripId now integer form =
      .redirect (ofString "/trips/" ++ path)) :
    path = pathId tripId ∧ Admitted site reached ∧ ∃ body header, AsksFor wire integer form body ∧
      Askable body ∧
      (∃ terminal, s.database.getTerminal body.originTerminalId = some terminal) ∧
      storableText (keptText body) = true ∧ (∀ r ∈ s.rows, r.tripId ≠ tripId) ∧
      wire.body (newTripBody integer form) = .typed body ∧ site.authorization = some header ∧
      (s.run site.api (s.askMoves (some header) (.typed body) tripId now)).1 =
        { s with inserted := s.inserted ++ [askedRow body tripId now] } := by
  obtain ⟨⟨windowStart, windowEnd, -⟩, created⟩ := newTrip_created_iff.1 h
  obtain ⟨read, written, rfl⟩ := tripAnswer_created created
  obtain ⟨admitted, body, header, hbody, asked, known, storable, fresh, hheader, row, kept⟩ :=
    writeTrip_created written
  obtain ⟨origin, destination, start, stop, party⟩ := body_typed_iff.1 hbody
  have id : read.tripId = tripId := congrArg TripRow.tripId row
  have asks : AsksFor wire integer form body :=
    ⟨origin, destination, datetime_typed iso windowStart start, datetime_typed iso windowEnd stop,
      party⟩
  exact ⟨by rw [id], admitted, body, header, asks, asked, known, storable, fresh, hbody, hheader,
    kept⟩

def fixtureStart : Fields := ⟨2026, 9, 10, 8, 30, 0⟩

def fixtureStop : Fields := ⟨2026, 9, 12, 17, 0, 30⟩

/-- What the form asks for. -/
def fixtureTypedBody : TripBody where
  originTerminalId := 1
  destinationText := "Example destination"
  windowStart := some (1000 * fixtureStart.instant)
  windowEnd := some (1000 * fixtureStop.instant)
  partySize := 2

theorem fixture_asksFor : AsksFor fixtureWire fixtureInteger fixtureTripForm fixtureTypedBody where
  origin := by decide +kernel
  destination := by decide +kernel
  windowStart := by
    refine ⟨fixtureStart, ⟨⟨by decide, by decide, by decide⟩, by decide, by decide, by decide⟩,
      by decide,
      ⟨⟨by decide, by decide, by decide, by decide, by decide, by decide⟩, .inl ⟨rfl, ?_⟩⟩, rfl⟩
    decide +kernel
  windowEnd := by
    refine ⟨fixtureStop, ⟨⟨by decide, by decide, by decide⟩, by decide, by decide, by decide⟩,
      by decide,
      ⟨⟨by decide, by decide, by decide, by decide, by decide, by decide⟩, .inr ?_⟩, rfl⟩
    decide +kernel
  party := rfl

theorem fixture_askable : Askable fixtureTypedBody :=
  ⟨by decide, ⟨_, _, rfl, rfl, by decide +kernel, by decide +kernel⟩, by decide⟩

/-- **The handler sends to a trip's page exactly when its form asks for a trip that can be
created**: by who is let in, with real date-times, within the contract's bounds, from a
registered terminal and without a NUL; then it is the page of the new id. -/
theorem new_trip_exact (site : Site) (wire : Wire) (iso : wire.ReadsIso) (s : Server)
    (reached : Bool) (tripId : UUID) (now : Int) (integer : Option FormValue → Option Int)
    (form : Form) :
    let answer := site.postTrip wire s reached tripId now integer form
    (∀ path, answer = .redirect (ofString "/trips/" ++ path) → path = pathId tripId) ∧
    (answer = .redirect (ofString "/trips/" ++ pathId tripId) ↔
      Admitted site reached ∧ ∃ body, AsksFor wire integer form body ∧ Askable body ∧
        (∃ terminal, s.database.getTerminal body.originTerminalId = some terminal) ∧
        storableText (keptText body) = true ∧ ∀ r ∈ s.rows, r.tripId ≠ tripId) := by
  refine ⟨fun path h => (postTrip_created iso h).1, fun h => ?_, ?_⟩
  · obtain ⟨-, admitted, body, -, asks, asked, known, storable, fresh, -⟩ := postTrip_created iso h
    exact ⟨admitted, body, asks, asked, known, storable, fresh⟩
  · rintro ⟨admitted, body, asks, asked, known, storable, fresh⟩
    exact postTrip_creates iso admitted asks asked known storable fresh

theorem fixture_trip_created :
    fixtureSite.postTrip fixtureWire (Server.start (fixtureDatabase (fixtureSource 1) [])) true 7
      10 fixtureInteger fixtureTripForm = .redirect (ofString "/trips/" ++ pathId 7) := by
  refine (new_trip_exact fixtureSite fixtureWire fixtureWire_readsIso _ true 7 10 fixtureInteger
    fixtureTripForm).2.2 ⟨fixture_admitted, fixtureTypedBody, fixture_asksFor, fixture_askable,
      ⟨_, rfl⟩, by decide, ?_⟩
  exact List.forall_mem_nil _

end Created

/-! ## What was typed and what is shown -/

/-- White space of the form handler or of the contract. -/
def isBlank (u : CodeUnit) : Bool := isTrimmed u || PyText.whiteSpace (Char.ofNat u.toNat)

/-- An instant that was typed, to the second. Years are written without leading zeros on a page, so
it is shown as it was typed from the year 1000 on. -/
def HoldsTime (typed : JsString) (instant : Int) : Prop :=
  ∃ f : Fields, f.Real ∧ 1 ≤ f.year ∧ Writes f typed ∧ instant = 1000 * f.instant ∧
    (1000 ≤ f.year → ofString (formatTimestamp instant) = asShown typed)

/-- A row that holds what was typed into a form. -/
structure HoldsTyped (wire : Wire) (integer : Option FormValue → Option Int) (form : Form)
    (r : TripRow) : Prop where
  origin : wire.uuid (form.typed "origin_terminal_id") = some r.originTerminalId
  destination : ∃ before after : JsString,
    form.typed "destination_text" = before ++ ofString r.destinationText ++ after ∧
    ∀ u ∈ before ++ after, isBlank u = true
  windowStart : HoldsTime (form.typed "window_start") r.windowStart
  windowEnd : HoldsTime (form.typed "window_end") r.windowEnd
  party : integer (form.get "party_size".toList) = some r.partySize

theorem blank_trimmed {text : JsString} (h : ∀ u ∈ text, isTrimmed u = true) :
    ∀ u ∈ text, isBlank u = true := by
  intro u hu
  unfold isBlank
  rw [h u hu, Bool.true_or]

theorem blank_whiteSpace {text : List Char} (h : ∀ c ∈ text, PyText.whiteSpace c = true) :
    ∀ u ∈ JsText.ofScalars text, isBlank u = true := by
  intro u hu
  obtain ⟨c, hc, hu⟩ := List.mem_flatMap.1 hu
  have space := h c hc
  have small : c.toNat ≤ 0x3000 := by
    unfold PyText.whiteSpace at space
    simp only [Bool.or_eq_true, Bool.and_eq_true, decide_eq_true_eq, beq_iff_eq] at space
    omega
  unfold JsText.utf16 at hu
  rw [if_pos (by omega)] at hu
  obtain rfl := List.mem_singleton.1 hu
  unfold isBlank unit
  rw [BitVec.toNat_ofNat, Nat.mod_eq_of_lt (by omega), Char.ofNat_toNat, space, Bool.or_true]

/-- What stands in a text that can be read, as the API's strings have it. -/
theorem ofString_jsonText {typed : JsString} {text : String} (h : jsonText typed = some text) :
    ofString text = typed := by
  unfold jsonText at h
  dsimp only at h
  split at h
  case isFalse => cases h
  case isTrue scalar =>
    rw [← Option.some.inj h]
    unfold ofString
    rw [String.toList_ofList]
    exact scalar

/-- **The stored destination stands in the typed one**, between white space. -/
theorem destination_typed {typed : JsString} {body : TripBody}
    (h : jsonText (trim typed) = some body.destinationText) :
    ∃ before after : JsString, typed = before ++ ofString (keptText body) ++ after ∧
      ∀ u ∈ before ++ after, isBlank u = true := by
  obtain ⟨front, back, whole, hfront, hback, -⟩ :=
    Stripping.dropEnds_between isTrimmed typed
  have trimmed : Stripping.dropEnds isTrimmed typed = trim typed := rfl
  obtain ⟨front', back', whole', hfront', hback', -⟩ :=
    Stripping.dropEnds_between PyText.whiteSpace body.destinationText.toList
  have kept : (keptText body).toList =
      Stripping.dropEnds PyText.whiteSpace body.destinationText.toList := String.toList_ofList
  have inner : trim typed =
      JsText.ofScalars front' ++ ofString (keptText body) ++ JsText.ofScalars back' := by
    rw [← ofString_jsonText h]
    unfold ofString JsText.ofScalars
    rw [kept, whole', List.flatMap_append, List.flatMap_append, ← whole']
  refine ⟨front ++ JsText.ofScalars front', JsText.ofScalars back' ++ back, ?_, ?_⟩
  · rw [whole, trimmed, inner]
    simp only [List.append_assoc]
  · have ends := List.forall_mem_append.2 ⟨blank_trimmed hfront, blank_whiteSpace hfront'⟩
    have ends' := List.forall_mem_append.2 ⟨blank_whiteSpace hback', blank_trimmed hback⟩
    exact List.forall_mem_append.2 ⟨ends, ends'⟩

theorem window_typed {typed : JsString} {read : Option Int}
    (h : ∃ f : Fields, f.Real ∧ 1 ≤ f.year ∧ Writes f typed ∧ read = some (1000 * f.instant)) :
    HoldsTime typed (read.getD 0) := by
  obtain ⟨f, real, year, writes, rfl⟩ := h
  exact ⟨f, real, year, writes, rfl, fun year => formatTimestamp_typed real writes year⟩

/-- A typed instant can be read back. -/
theorem HoldsTime.isDatetime {typed : JsString} {instant : Int} (h : HoldsTime typed instant) :
    isDatetime instant = true := by
  obtain ⟨f, real, year, writes, rfl, -⟩ := h
  obtain ⟨first, last⟩ := real.date.inYear
  have years := writes.written.year
  have first_year : Calendar.dayFromYear 1 ≤ Calendar.dayFromYear f.date.year :=
    Calendar.dayFromYear_mono (show (1 : Int) ≤ f.year by omega)
  have last_year : Calendar.dayFromYear (f.date.year + 1) ≤ Calendar.dayFromYear 10000 :=
    Calendar.dayFromYear_mono (show (f.year : Int) + 1 ≤ 10000 by omega)
  have epoch : Calendar.dayFromYear 1 = -719162 ∧ Calendar.dayFromYear 10000 = 2932897 := by decide
  have hour := real.hour
  have minute := real.minute
  have second := real.second
  unfold PaxPivot.isDatetime Fields.instant JsInstant.msPerDay
  rw [decide_eq_true_eq]
  omega

/-- **The row that a form asks for holds what was typed.** -/
theorem holdsTyped {wire : Wire} {integer : Option FormValue → Option Int} {form : Form}
    {body : TripBody} (asks : AsksFor wire integer form body) (asked : Askable body)
    (tripId : UUID) (now : Int) : HoldsTyped wire integer form (askedRow body tripId now) where
  origin := asks.origin
  destination := destination_typed asks.destination
  windowStart := window_typed asks.windowStart
  windowEnd := window_typed asks.windowEnd
  party := by
    have party := asks.party
    have least := asked.party.1
    show integer (form.get "party_size".toList) = some body.partySize
    cases hparty : integer (form.get "party_size".toList) with
    | some n =>
      rw [hparty] at party
      exact congrArg some party
    | none =>
      rw [hparty] at party
      have zero : (0 : Int) = body.partySize := party
      omega

section Later

variable {site : Site} {wire : Wire} {reached : Bool} {tripId : UUID} {now : Int}
  {integer : Option FormValue → Option Int} {form : Form} {path : JsString}

/-- **What was typed is kept and shown.** A form that is answered with a trip's page leaves one
inserted row that holds what was typed. Whatever other requests and writers do before and after,
it is open, committed or rolled back. Until its commit its page is not found; from then on it is
the only row of its id, and the page shows it to everyone who is let in. If it is rolled back its
page is not found, unless another request draws its id. -/
theorem new_trip_shown (iso : wire.ReadsIso) (database : Database) (moves : List ApiMove)
    (sent : site.postTrip wire ((Server.start database).run site.api moves).1 reached tripId now
      integer form = .redirect (ofString "/trips/" ++ path))
    (more : List ApiMove) {reached' : Bool} (admitted : Admitted site reached') (now' : Int)
    (localeCompare : Identifier → Identifier → Ordering) (isoText : Int → String)
    (readNetwork : ApiResult TerminalNetworkRead)
    (readDetail : UUID → ApiResult TerminalDetailRead) (nowMs : Int) :
    let s := ((Server.start database).run site.api moves).1
    let asked := (s.run site.api (s.askMoves site.authorization
      (wire.body (newTripBody integer form)) tripId now)).1
    let later := (asked.run site.api more).1
    let events := (asked.run site.api more).2
    let page := tripPage localeCompare isoText path (site.readTrip later reached' now') readNetwork
      readDetail nowMs
    ∃ r : TripRow, r.tripId = tripId ∧ r.createdAt = now ∧ HoldsTyped wire integer form r ∧
      (r ∈ later.inserted ∨ r ∈ committedTrips events ∨ r ∈ rolledBackTrips events) ∧
      (r ∈ later.inserted → page = .notFound) ∧
      (r ∈ committedTrips events → later.trips.filter (fun r => r.tripId = tripId) = [r] ∧
        if isDatetime now then ∃ read, ShownAs later r read ∧ PageOf isoText read page
        else page = .failed) ∧
      (r ∈ rolledBackTrips events → (∀ r' ∈ createdTrips events, r'.tripId ≠ tripId) →
        page = .notFound) := by
  obtain ⟨same, -, body, header, asks, askable, -, -, -, hbody, hheader, created⟩ :=
    postTrip_created iso sent
  intro s asked later events page
  have holds := holdsTyped asks askable tripId now
  have inserted : asked = { s with inserted := s.inserted ++ [askedRow body tripId now] } := by
    show (s.run site.api (s.askMoves site.authorization
      (wire.body (newTripBody integer form)) tripId now)).1 = _
    rw [hbody, hheader]
    exact created
  have loads : (askedRow body tripId now).loads = isDatetime now := by
    unfold TripRow.loads
    rw [holds.windowStart.isDatetime, holds.windowEnd.isDatetime]
    rfl
  have sound : asked.Sound := ((sound_start database).run site.api _).run site.api _
  have within : askedRow body tripId now ∈ asked.inserted := by
    rw [inserted]
    exact List.mem_append_right _ (List.mem_singleton_self _)
  have sound' : later.Sound := sound.run site.api more
  obtain ⟨becomes, open_, committed, lost⟩ := run_outcome site.api sound within more
  have absent : (∀ r' ∈ later.trips, r'.tripId ≠ tripId) → page = .notFound := by
    intro absent
    show tripPage localeCompare isoText path _ readNetwork readDetail nowMs = _
    rw [same]
    exact tripPage_absent localeCompare isoText tripId now' readNetwork readDetail nowMs sound'
      admitted absent
  refine ⟨askedRow body tripId now, rfl, rfl, holds, becomes, fun h => absent (open_ h),
    fun h => ⟨DistinctKeys.filter_key sound'.ids.1 (committed h), ?_⟩,
    fun h other => absent (lost h other)⟩
  have shown := tripPage_kept localeCompare isoText now' readNetwork readDetail nowMs sound'
    admitted (committed h)
  rw [loads, show pathId (askedRow body tripId now).tripId = path from same.symm] at shown
  exact shown

/-- The window that was typed, as the page of the trip shows it once it is committed. -/
theorem fixture_trip_typed :
    let site := fixtureSite
    let s := ((Server.start (fixtureDatabase (fixtureSource 1) [])).run site.api []).1
    let asked := (s.run site.api (s.askMoves site.authorization
      (fixtureWire.body (newTripBody fixtureInteger fixtureTripForm)) 7 10)).1
    let later := (asked.run site.api [.call none (.read .trips) 0 0, .commit 0]).1
    ∃ read, ofString (formatTimestamp read.windowStart) = ofString "2026-09-10 08:30Z" ∧
      PageOf (fun _ => "") read (tripPage (fun _ _ => .eq) (fun _ => "") (pathId 7)
        (site.readTrip later true 20) (.error .unavailable) (fun _ => .error .unavailable) 20) := by
  intro site s asked later
  have sent : site.postTrip fixtureWire s true 7 10 fixtureInteger fixtureTripForm =
      .redirect (ofString "/trips/" ++ pathId 7) :=
    postTrip_creates fixtureWire_readsIso fixture_admitted fixture_asksFor fixture_askable
      ⟨_, rfl⟩ (by decide) (List.forall_mem_nil _)
  obtain ⟨r, -, -, typed, becomes, -, shown, -⟩ := new_trip_shown fixtureWire_readsIso
    (fixtureDatabase (fixtureSource 1) []) [] sent [.call none (.read .trips) 0 0, .commit 0]
    fixture_admitted 20 (fun _ _ => .eq) (fun _ => "") (.error .unavailable)
    (fun _ => .error .unavailable) 20
  have settled : later.inserted = [] := by decide +kernel
  have kept : rolledBackTrips (asked.run site.api [.call none (.read .trips) 0 0, .commit 0]).2 =
      [] := by decide +kernel
  rcases becomes with open_ | committed | lost
  · exact absurd open_ (settled ▸ List.not_mem_nil)
  · have page := (shown committed).2
    rw [if_pos (by decide)] at page
    obtain ⟨read, ⟨same, -⟩, page⟩ := page
    refine ⟨read, ?_, page⟩
    have start : read.windowStart = r.windowStart := congrArg TripRow.windowStart same
    obtain ⟨f, -, -, writes, -, minute⟩ := typed.windowStart
    have year : (fieldsOf (fixtureTripForm.typed "window_start")).year = 2026 := by decide +kernel
    rw [(fieldsOf_writes writes).1] at year
    rw [start, minute (by omega)]
    decide +kernel
  · exact absurd lost (kept ▸ List.not_mem_nil)

end Later

end PaxPivot
