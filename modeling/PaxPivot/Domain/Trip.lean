import PaxPivot.Base

/-!
# Trip requests

`domain/trip.py`. A request is a question: an origin, a destination in the traveler's own
words, a window and a party. What a client sends is checked field by field and then as a
whole; a request that was accepted is accepted again, unchanged.
-/

namespace PaxPivot

/-! ## Fields -/

/-- The `StringConstraints` of `DestinationText`: stripped, 1 to 200 code points. -/
@[ext]
structure DestinationText where
  text : String
  stripped : PyText.stripChars PyText.whiteSpace text.toList = text.toList
  sized : 1 ≤ text.length ∧ text.length ≤ 200

instance : DecidableEq DestinationText := fun a b =>
  decidable_of_iff (a.text = b.text) DestinationText.ext_iff.symm

/-- `Field(ge=1, le=9)`. -/
abbrev PartySize := { n : Int // 1 ≤ n ∧ n ≤ 9 }

/-- 30 days. -/
def maxWindow : Int := 30 * 24 * 60 * 60 * 1000000

/-- The fields of a `NewTripRequest`, each right by itself. -/
structure NewTripFields where
  originTerminalId : UUID
  destinationText : DestinationText
  windowStart : Int
  windowEnd : Int
  partySize : PartySize
  deriving DecidableEq

/-- `NewTripRequest.window_is_sane`. -/
def NewTripFields.windowIsSane (r : NewTripFields) : Except String Unit :=
  if r.windowEnd ≤ r.windowStart then .error "The travel window must end after it starts"
  else if r.windowEnd - r.windowStart > maxWindow then
    .error "The travel window may span at most 30 days"
  else .ok ()

/-- `NewTripRequest`. -/
structure Domain.NewTripRequest extends NewTripFields where
  sane : toNewTripFields.windowIsSane = .ok ()
  deriving DecidableEq

structure TripRequest extends Domain.NewTripRequest where
  tripId : UUID
  createdAt : Int
  deriving DecidableEq

theorem NewTripFields.windowIsSane_ok_iff {r : NewTripFields} :
    r.windowIsSane = .ok () ↔
      r.windowStart < r.windowEnd ∧ r.windowEnd - r.windowStart ≤ maxWindow := by
  unfold windowIsSane
  simp only [raise_if_eq_ok_iff, not_le, gt_iff_lt, not_lt, and_true]

/-! ## What a client sends -/

/-- A body whose fields are of the right JSON types; a time without a zone is `none`. -/
structure TripBody where
  originTerminalId : UUID
  destinationText : String
  windowStart : Option Int
  windowEnd : Option Int
  partySize : Int
  deriving DecidableEq

inductive FieldErrorType where
  | stringTooShort | stringTooLong | timezoneAware | greaterThanEqual | lessThanEqual
  | valueError (message : String)
  deriving DecidableEq

/-- One error of a `ValidationError`; `loc` is empty for the request as a whole. -/
structure FieldError where
  loc : List String
  type : FieldErrorType
  deriving DecidableEq

/-- `DestinationText` of a raw string: strip it, then check what is left. -/
def DestinationText.validate (raw : String) : Except FieldErrorType DestinationText :=
  let text := PyText.stripChars PyText.whiteSpace raw.toList
  if short : text.length < 1 then .error .stringTooShort
  else if long : 200 < text.length then .error .stringTooLong
  else .ok
    { text := String.ofList text
      stripped := by rw [String.toList_ofList, PyText.stripChars_idem]
      sized := by
        rw [String.length_ofList]
        exact ⟨Nat.not_lt.1 short, Nat.not_lt.1 long⟩ }

/-- `AwareDatetime`. -/
def awareDatetime : Option Int → Except FieldErrorType Int
  | some instant => .ok instant
  | none => .error .timezoneAware

def PartySize.validate (n : Int) : Except FieldErrorType PartySize :=
  if low : n < 1 then .error .greaterThanEqual
  else if high : 9 < n then .error .lessThanEqual
  else .ok ⟨n, Int.not_lt.1 low, Int.not_lt.1 high⟩

/-- The error of a field that is wrong. -/
def fieldError {α : Type} (field : String) : Except FieldErrorType α → List FieldError
  | .ok _ => []
  | .error type => [⟨[field], type⟩]

/-- `NewTripRequest.model_validate`: every wrong field is reported, and the window is looked
at when no field is wrong. -/
def Domain.NewTripRequest.validate (body : TripBody) :
    Except (List FieldError) Domain.NewTripRequest :=
  let destination := DestinationText.validate body.destinationText
  let windowStart := awareDatetime body.windowStart
  let windowEnd := awareDatetime body.windowEnd
  let partySize := PartySize.validate body.partySize
  match destination, windowStart, windowEnd, partySize with
  | .ok destinationText, .ok windowStart, .ok windowEnd, .ok partySize =>
    let fields : NewTripFields :=
      { originTerminalId := body.originTerminalId
        destinationText, windowStart, windowEnd, partySize }
    match sane : fields.windowIsSane with
    | .ok () => .ok { fields with sane }
    | .error message => .error [⟨[], .valueError message⟩]
  | _, _, _, _ =>
    .error (fieldError "destination_text" destination ++ fieldError "window_start" windowStart ++
      fieldError "window_end" windowEnd ++ fieldError "party_size" partySize)

/-- The body that says what a request says. -/
def NewTripFields.body (r : NewTripFields) : TripBody where
  originTerminalId := r.originTerminalId
  destinationText := r.destinationText.text
  windowStart := some r.windowStart
  windowEnd := some r.windowEnd
  partySize := r.partySize

/-! ## What is accepted -/

theorem DestinationText.validate_ok_iff {raw : String} {d : DestinationText} :
    DestinationText.validate raw = .ok d ↔
      d.text.toList = PyText.stripChars PyText.whiteSpace raw.toList := by
  unfold DestinationText.validate
  dsimp only
  constructor
  · intro h
    split at h
    · cases h
    · split at h
      · cases h
      · obtain rfl := Except.ok.inj h
        exact String.toList_ofList
  · intro h
    have size := d.sized
    rw [← String.length_toList, h] at size
    rw [dif_neg (by omega), dif_neg (by omega)]
    congr 1
    cases d
    simp only at h
    simp only [← h, String.ofList_toList]

theorem awareDatetime_ok_iff {time : Option Int} {instant : Int} :
    awareDatetime time = .ok instant ↔ time = some instant := by
  cases time <;> simp [awareDatetime]

theorem PartySize.validate_ok_iff {n : Int} {size : PartySize} :
    PartySize.validate n = .ok size ↔ size.val = n := by
  unfold PartySize.validate
  constructor
  · intro h
    split at h
    · cases h
    · split at h
      · cases h
      · obtain rfl := Except.ok.inj h
        rfl
  · rintro rfl
    rw [dif_neg (Int.not_lt.2 size.2.1), dif_neg (Int.not_lt.2 size.2.2)]

namespace Domain.NewTripRequest

/-- **A body is accepted when it says what the request says**, white space around the
destination apart. -/
theorem validate_ok_iff {body : TripBody} {r : Domain.NewTripRequest} :
    validate body = .ok r ↔
      body.originTerminalId = r.originTerminalId ∧
      r.destinationText.text.toList =
        PyText.stripChars PyText.whiteSpace body.destinationText.toList ∧
      body.windowStart = some r.windowStart ∧ body.windowEnd = some r.windowEnd ∧
      r.partySize.val = body.partySize := by
  rw [← DestinationText.validate_ok_iff, ← awareDatetime_ok_iff, ← awareDatetime_ok_iff,
    ← PartySize.validate_ok_iff]
  unfold validate
  dsimp only
  constructor
  · intro h
    split at h
    case h_1 destination windowStart windowEnd partySize hd hs he hp =>
      split at h
      case h_1 sane =>
        obtain rfl := Except.ok.inj h
        exact ⟨rfl, hd, hs, he, hp⟩
      case h_2 => cases h
    case h_2 => cases h
  · rintro ⟨origin, hd, hs, he, hp⟩
    rw [hd, hs, he, hp, origin]
    dsimp only
    split
    case h_1 => rfl
    case h_2 message insane =>
      rw [show r.toNewTripFields.windowIsSane = .ok () from r.sane] at insane
      cases insane

/-- An accepted request is accepted again as itself. -/
theorem validate_body (r : Domain.NewTripRequest) : validate r.body = .ok r :=
  validate_ok_iff.2 ⟨rfl, r.destinationText.stripped.symm, rfl, rfl, rfl⟩

theorem fieldError_eq_nil {α : Type} {field : String} {result : Except FieldErrorType α}
    (h : fieldError field result = []) : ∃ a, result = .ok a := by
  cases result with
  | ok a => exact ⟨a, rfl⟩
  | error type => cases h

/-- A refusal says what is wrong. -/
theorem validate_error_ne_nil {body : TripBody} {errors : List FieldError}
    (h : validate body = .error errors) : errors ≠ [] := by
  unfold validate at h
  dsimp only at h
  split at h
  case h_1 =>
    split at h
    · cases h
    · obtain rfl := Except.error.inj h
      exact List.cons_ne_nil _ _
  case h_2 wrong =>
    obtain rfl := Except.error.inj h
    intro none
    simp only [List.append_eq_nil_iff] at none
    obtain ⟨⟨⟨hd, hs⟩, he⟩, hp⟩ := none
    obtain ⟨d, hd⟩ := fieldError_eq_nil hd
    obtain ⟨s, hs⟩ := fieldError_eq_nil hs
    obtain ⟨e, he⟩ := fieldError_eq_nil he
    obtain ⟨p, hp⟩ := fieldError_eq_nil hp
    exact wrong d s e p hd hs he hp

end Domain.NewTripRequest

end PaxPivot
