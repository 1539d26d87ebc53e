import PaxPivot.Domain.Trip
import PaxPivot.Infrastructure.Rows

/-!
# The trip table

`trip_requests` of `infrastructure/database.py` and `SqlTripRepository`. A row is added or
refused, and never edited. The CHECKs let through what a contract accepts; what comes back
is validated again.
-/

namespace PaxPivot

structure TripRow where
  tripId : UUID
  originTerminalId : UUID
  destinationText : String
  windowStart : Int
  windowEnd : Int
  partySize : Int
  createdAt : Int
  deriving DecidableEq

/-- `trip.model_dump()`. -/
def tripRow (trip : TripRequest) : TripRow where
  tripId := trip.tripId
  originTerminalId := trip.originTerminalId
  destinationText := trip.destinationText.text
  windowStart := trip.windowStart
  windowEnd := trip.windowEnd
  partySize := trip.partySize
  createdAt := trip.createdAt

/-! ## Constraints -/

/-- `btrim(text)`: SQL trims the space alone. -/
def btrim (text : String) : List Char := PyText.stripChars (· = ' ') text.toList

/-- The CHECK constraints of `trip_requests`, by name. -/
def tripChecks : List (String × (TripRow → Bool)) :=
  [("window_order", fun r => decide (r.windowStart < r.windowEnd)),
    ("window_span", fun r => decide (r.windowEnd - r.windowStart ≤ 30 * 86400000000)),
    ("party_size", fun r => decide (1 ≤ r.partySize ∧ r.partySize ≤ 9)),
    ("destination_present", fun r => decide (0 < (btrim r.destinationText).length))]

/-- Why a statement raises: a constraint refused it (`IntegrityError`), or the driver could not
send a value (`DataError`). -/
inductive DbapiError where
  | integrity (e : SqlError)
  | data
  deriving DecidableEq

/-- A text value of Postgres has no NUL. -/
def storableText (text : String) : Bool := !text.toList.contains (Char.ofNat 0)

/-- `SqlTripRepository.add`, where `hasTerminal` is the reference to `terminals`. -/
def addTrip (hasTerminal : UUID → Bool) (rows : List TripRow) (trip : TripRequest) :
    Except DbapiError (List TripRow) :=
  let row := tripRow trip
  if !storableText row.destinationText then .error .data
  else match violated tripChecks row with
    | some c => .error (.integrity (.check c))
    | none =>
      if rows.any fun r => r.tripId = row.tripId then
        .error (.integrity (.unique "pk_trip_requests"))
      else if !hasTerminal row.originTerminalId then
        .error (.integrity (.foreignKey "fk_trip_requests_origin_terminal_id_terminals"))
      else .ok (rows ++ [row])

/-! ## Reading -/

/-- The instants that the driver makes a `datetime` of: the years 1 to 9999 in the zone of its
session, which is UTC. -/
def isDatetime (t : Int) : Bool := decide (-62135596800000000 ≤ t ∧ t ≤ 253402300799999999)

def TripRow.loads (r : TripRow) : Bool :=
  isDatetime r.windowStart && isDatetime r.windowEnd && isDatetime r.createdAt

/-- `ORDER BY created_at DESC, trip_id`. -/
def TripRow.listedBefore (a b : TripRow) : Prop :=
  b.createdAt < a.createdAt ∨ a.createdAt = b.createdAt ∧ a.tripId ≤ b.tripId

instance TripRow.decidableListedBefore : DecidableRel TripRow.listedBefore :=
  fun _ _ => inferInstanceAs (Decidable (_ ∨ _ ∧ _))

/-- A row whose values the driver could read. -/
def fetched (rows : List TripRow) : Except PyError (List TripRow) :=
  if rows.all TripRow.loads then .ok rows else .error .other

/-- What the contract is given of a row. -/
def TripRow.body (r : TripRow) : TripBody where
  originTerminalId := r.originTerminalId
  destinationText := r.destinationText
  windowStart := some r.windowStart
  windowEnd := some r.windowEnd
  partySize := r.partySize

/-- `_trip`. The wall clocks that `window_is_sane` compares are in UTC, so they are instants. -/
def tripOf (r : TripRow) : Except PyError TripRequest :=
  match Domain.NewTripRequest.validate r.body with
  | .ok request => .ok { request with tripId := r.tripId, createdAt := r.createdAt }
  | .error _ => .error .validationError

/-- `SqlTripRepository.list_trips`: newest first. -/
def listTrips (rows : List TripRow) : Except PyError (List TripRequest) := do
  let rows ← fetched (rows.insertionSort TripRow.listedBefore)
  rows.mapM tripOf

/-- `SqlTripRepository.get_trip`. -/
def getTrip (rows : List TripRow) (tripId : UUID) :
    Except PyError (Option TripRequest) := do
  let rows ← fetched (rows.find? fun r => r.tripId = tripId).toList
  match rows.head? with
  | some row => some <$> tripOf row
  | none => .ok none

/-! ## What the contract and the table say of each other -/

section Contract

variable {trip : TripRequest} {rows rows' : List TripRow} {hasTerminal : UUID → Bool}

theorem TripRequest.window (trip : TripRequest) :
    trip.windowStart < trip.windowEnd ∧ trip.windowEnd - trip.windowStart ≤ maxWindow :=
  NewTripFields.windowIsSane_ok_iff.1 trip.sane

/-- The ends of a destination are no spaces, so `btrim` takes nothing. -/
theorem btrim_destination (d : DestinationText) : btrim d.text = d.text.toList := by
  have space : PyText.whiteSpace ' ' = true := by decide
  have kept : ∀ c, PyText.whiteSpace c = false → decide (c = ' ') = false := by
    intro c hc
    rw [decide_eq_false_iff_not]
    rintro rfl
    rw [space] at hc
    cases hc
  apply PyText.stripChars_eq_self
  · intro c hc
    rw [← d.stripped] at hc
    exact kept c (PyText.stripChars_ends.1 c hc)
  · intro c hc
    rw [← d.stripped] at hc
    exact kept c (PyText.stripChars_ends.2 c hc)

/-- **The CHECKs let every contract through.** -/
theorem tripRow_checked (trip : TripRequest) : violated tripChecks (tripRow trip) = none := by
  obtain ⟨order, span⟩ := trip.window
  have sized := trip.destinationText.sized
  have party := trip.partySize.2
  rw [violated_eq_none_iff]
  simp only [tripChecks, List.forall_mem_cons, tripRow, decide_eq_true_eq]
  refine ⟨order, span, party, ?_, List.forall_mem_nil _⟩
  rw [btrim_destination, String.length_toList]
  omega

theorem addTrip_ok_iff :
    addTrip hasTerminal rows trip = .ok rows' ↔
      storableText trip.destinationText.text = true ∧ (∀ r ∈ rows, r.tripId ≠ trip.tripId) ∧
        hasTerminal trip.originTerminalId = true ∧ rows' = rows ++ [tripRow trip] := by
  have text : (tripRow trip).destinationText = trip.destinationText.text := rfl
  have id : (tripRow trip).tripId = trip.tripId := rfl
  have origin : (tripRow trip).originTerminalId = trip.originTerminalId := rfl
  unfold addTrip
  simp only [tripRow_checked, text, id, origin, raise_if_eq_ok_iff, Bool.not_eq_true',
    Bool.not_eq_false, List.any_eq_true, decide_eq_true_eq, not_exists, not_and, Except.ok.injEq,
    ne_eq, eq_comm (a := rows ++ [tripRow trip])]

/-- **Everything an insert can do**: the driver refuses its text, a constraint its row, or the row
is added. -/
theorem addTrip_cases (hasTerminal : UUID → Bool) (rows : List TripRow) (trip : TripRequest) :
    let fits := (∀ r ∈ rows, r.tripId ≠ trip.tripId) ∧ hasTerminal trip.originTerminalId = true
    (storableText trip.destinationText.text = false ∧
      addTrip hasTerminal rows trip = .error .data) ∨
    storableText trip.destinationText.text = true ∧
      (fits ∧ addTrip hasTerminal rows trip = .ok (rows ++ [tripRow trip]) ∨
        ¬ fits ∧ ∃ e, addTrip hasTerminal rows trip = .error (.integrity e)) := by
  intro fits
  cases hadd : addTrip hasTerminal rows trip with
  | ok rows' =>
    obtain ⟨storable, fresh, registered, rfl⟩ := addTrip_ok_iff.1 hadd
    exact .inr ⟨storable, .inl ⟨⟨fresh, registered⟩, rfl⟩⟩
  | error raised =>
    by_cases storable : storableText trip.destinationText.text = true
    · have misfit : ¬ fits := by
        intro h
        have added := addTrip_ok_iff.2 ⟨storable, h.1, h.2, rfl⟩
        rw [hadd] at added
        cases added
      refine .inr ⟨storable, .inr ⟨misfit, ?_⟩⟩
      cases raised with
      | integrity e => exact ⟨e, rfl⟩
      | data =>
        have row : storableText (tripRow trip).destinationText = true := storable
        unfold addTrip at hadd
        dsimp only at hadd
        rw [tripRow_checked, row] at hadd
        simp only [Bool.not_true, Bool.false_eq_true, if_false] at hadd
        split at hadd
        · cases hadd
        · split at hadd <;> cases hadd
    · rw [Bool.not_eq_true] at storable
      refine .inl ⟨storable, ?_⟩
      have row : storableText (tripRow trip).destinationText = false := storable
      unfold addTrip at hadd
      dsimp only at hadd
      rw [row] at hadd
      exact hadd.symm

/-- **A row is read back as the trip it was written from.** -/
theorem tripOf_tripRow (trip : TripRequest) : tripOf (tripRow trip) = .ok trip := by
  have valid := Domain.NewTripRequest.validate_body trip.toNewTripRequest
  unfold tripOf
  rw [show (tripRow trip).body = trip.toNewTripRequest.body from rfl, valid]
  rfl

theorem mapM_tripOf (trips : List TripRequest) : (trips.map tripRow).mapM tripOf = .ok trips := by
  induction trips with
  | nil => rfl
  | cons trip rest ih =>
    rw [List.map_cons, List.mapM_cons, tripOf_tripRow, ih]
    rfl

end Contract

/-! ## What is read -/

section Read

variable {rows : List TripRow} {trip : TripRequest} {id : UUID}

theorem listedBefore_total : Std.Total TripRow.listedBefore :=
  ⟨fun a b => by
    rcases lt_trichotomy a.createdAt b.createdAt with h | h | h
    · exact .inr (.inl h)
    · exact (le_total a.tripId b.tripId).imp (fun hid => .inr ⟨h, hid⟩)
        (fun hid => .inr ⟨h.symm, hid⟩)
    · exact .inl (.inl h)⟩

theorem listedBefore_trans : IsTrans TripRow TripRow.listedBefore :=
  ⟨fun a b c => by
    rintro (hab | ⟨hab, ids⟩) (hbc | ⟨hbc, ids'⟩)
    · exact .inl (hbc.trans hab)
    · exact .inl (hbc ▸ hab)
    · exact .inl (hab ▸ hbc)
    · exact .inr ⟨hab.trans hbc, ids.trans ids'⟩⟩

theorem listed_sorted (rows : List TripRow) :
    (rows.insertionSort TripRow.listedBefore).Pairwise TripRow.listedBefore := by
  have total := listedBefore_total
  have trans := listedBefore_trans
  exact List.pairwise_insertionSort _ _

/-- Rows that were written from contracts are read as them. -/
theorem mapM_tripOf_rows (contracts : ∀ r ∈ rows, ∃ trip, tripOf r = .ok trip ∧ tripRow trip = r) :
    ∃ trips : List TripRequest, rows.mapM tripOf = .ok trips ∧ trips.map tripRow = rows := by
  induction rows with
  | nil => exact ⟨[], rfl, rfl⟩
  | cons r rest ih =>
    obtain ⟨trip, -, hr⟩ := contracts r List.mem_cons_self
    obtain ⟨trips, -, hrest⟩ := ih fun r' hr' => contracts r' (List.mem_cons_of_mem _ hr')
    refine ⟨trip :: trips, ?_, by rw [List.map_cons, hr, hrest]⟩
    rw [← hr, ← hrest, ← List.map_cons, mapM_tripOf]

theorem listTrips_ok (h : rows.all TripRow.loads = true)
    (contracts : ∀ r ∈ rows, ∃ trip, tripOf r = .ok trip ∧ tripRow trip = r) :
    ∃ trips, listTrips rows = .ok trips ∧
      trips.map tripRow = rows.insertionSort TripRow.listedBefore := by
  have perm : (rows.insertionSort TripRow.listedBefore).Perm rows := List.perm_insertionSort _ _
  obtain ⟨trips, mapped, sorted⟩ := mapM_tripOf_rows
    fun r (hr : r ∈ rows.insertionSort TripRow.listedBefore) => contracts r (perm.mem_iff.1 hr)
  refine ⟨trips, ?_, sorted⟩
  unfold listTrips fetched
  rw [perm.all_eq, if_pos h]
  exact mapped

/-- One row that the session cannot return fails the whole list. -/
theorem listTrips_unread (h : rows.all TripRow.loads = false) :
    listTrips rows = .error .other := by
  unfold listTrips fetched
  rw [(List.perm_insertionSort _ rows).all_eq, h]
  rfl

theorem getTrip_found (h : rows.find? (fun r => r.tripId = id) = some (tripRow trip))
    (hloads : (tripRow trip).loads = true) : getTrip rows id = .ok (some trip) := by
  have row : fetched [tripRow trip] = .ok [tripRow trip] := if_pos (by simpa using hloads)
  unfold getTrip
  rw [h, Option.toList_some, row]
  show some <$> tripOf (tripRow trip) = _
  rw [tripOf_tripRow]
  rfl

theorem getTrip_unread {r : TripRow} (h : rows.find? (fun r => r.tripId = id) = some r)
    (hloads : r.loads = false) : getTrip rows id = .error .other := by
  have row : fetched [r] = .error .other := if_neg (by simpa using hloads)
  unfold getTrip
  rw [h, Option.toList_some, row]
  rfl

theorem getTrip_absent (h : ∀ r ∈ rows, r.tripId ≠ id) : getTrip rows id = .ok none := by
  have none : rows.find? (fun r => r.tripId = id) = none := by
    rw [List.find?_eq_none]
    intro r hr
    simpa using h r hr
  unfold getTrip
  rw [none]
  rfl

end Read

end PaxPivot
