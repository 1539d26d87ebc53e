import PaxPivot.Library.JsInstant
import PaxPivot.Web.Auth.NextPath

/-!
# A new trip

`app/trips/new/route.ts`: the form's window goes to the API as instants in UTC, or the
form is refused. What the API answers and how a party size is read as a number are
parameters.
-/

namespace PaxPivot

open JsInstant (Fields getTime toISOString)
open JsText (ofString unit digits fits isDigit number)

/-! ## The window -/

def mark (c : Char) : CodeUnit → Bool := fun u => decide (u = unit c)

/-- `\d{4}-\d{2}-\d{2}T\d{2}:\d{2}`. -/
def minuteShape : List (CodeUnit → Bool) :=
  List.replicate 4 isDigit ++ ([mark '-'] ++ (List.replicate 2 isDigit ++ ([mark '-'] ++
    (List.replicate 2 isDigit ++ ([mark 'T'] ++ (List.replicate 2 isDigit ++ ([mark ':'] ++
      List.replicate 2 isDigit)))))))

/-- `:\d{2}`. -/
def secondShape : List (CodeUnit → Bool) := [mark ':'] ++ List.replicate 2 isDigit

/-- A value of an input `datetime-local`, the seconds left out or not. -/
def isDateTimeLocal (text : JsString) : Bool :=
  fits minuteShape text || fits (minuteShape ++ secondShape) text

/-- `text.slice(i, i + width)`, a number. -/
def numberAt (text : JsString) (i width : Nat) : Nat := number ((text.drop i).take width)

/-- What `Date` reads in such a text; seconds left out are 0. -/
def fieldsOf (text : JsString) : Fields where
  year := numberAt text 0 4
  month := numberAt text 5 2
  day := numberAt text 8 2
  hour := numberAt text 11 2
  minute := numberAt text 14 2
  second := numberAt text 17 2

def toIso (value : Option FormValue) : Option JsString :=
  let text := FormValue.toText value
  if ¬ isDateTimeLocal text then none
  else match getTime (fieldsOf text) with
    | none => none
    | some t =>
      -- The engine rolls an impossible day forward.
      if ¬ text.take 16 <+: toISOString t then none else some (toISOString t)

/-! ## The answer -/

/-- White space and line ends of the language, one code unit each. -/
def isTrimmed (u : CodeUnit) : Bool :=
  [0x9, 0xA, 0xB, 0xC, 0xD, 0x20, 0xA0, 0x1680, 0x2028, 0x2029, 0x202F, 0x205F, 0x3000,
    0xFEFF].contains u.toNat || decide (0x2000 ≤ u.toNat ∧ u.toNat ≤ 0x200A)

/-- `text.trim()`. -/
def trim (text : JsString) : JsString :=
  ((text.dropWhile isTrimmed).reverse.dropWhile isTrimmed).reverse

structure NewTripRequest where
  originTerminalId : JsString
  destinationText : JsString
  windowStart : JsString
  windowEnd : JsString
  partySize : Int

/-- What the API answers; `refused` is a failure, with `invalid` or another reason. -/
inductive TripAnswer where
  | created (tripId : JsString)
  | refused (invalid : Bool)

inductive NewTripAnswer where
  | badRequest
  | redirect (path : JsString)

/-- The body; `integer` reads the whole number that `Number` makes of a value. -/
def newTripBody (integer : Option FormValue → Option Int) (form : Form) : NewTripRequest where
  originTerminalId := FormValue.toText (form.get "origin_terminal_id".toList)
  destinationText := trim (FormValue.toText (form.get "destination_text".toList))
  windowStart := (toIso (form.get "window_start".toList)).getD []
  windowEnd := (toIso (form.get "window_end".toList)).getD []
  partySize := (integer (form.get "party_size".toList)).getD 0

/-- `POST`; `form` is `none` when `formData` raises. -/
def newTrip (integer : Option FormValue → Option Int) (writeApi : NewTripRequest → TripAnswer) :
    Option Form → NewTripAnswer
  | none => .badRequest
  | some form =>
    let body := newTripBody integer form
    if body.windowStart = [] ∨ body.windowEnd = [] ∨ body.destinationText = [] then
      .redirect (ofString "/?error=invalid")
    else match writeApi body with
      | .refused true => .redirect (ofString "/?error=invalid")
      | .refused false => .redirect (ofString "/?error=unavailable")
      | .created tripId => .redirect (ofString "/trips/" ++ tripId)

/-! ## What is accepted -/

theorem fits_mark {c : Char} {text : JsString} : fits [mark c] text = true ↔ text = [unit c] :=
  JsText.fits_unit

/-- The texts of a shape are those that some numbers write. -/
theorem fits_minuteShape {text : JsString} :
    fits minuteShape text = true ↔
      ∃ f : Fields, f.Written ∧ f.second = 0 ∧ text = f.minuteForm := by
  unfold minuteShape
  simp only [JsText.fits_append, JsText.fits_digits, fits_mark]
  constructor
  · rintro ⟨_, _, rfl, ⟨year, hyear, rfl⟩, _, _, rfl, rfl, _, _, rfl, ⟨month, hmonth, rfl⟩, _, _,
      rfl, rfl, _, _, rfl, ⟨day, hday, rfl⟩, _, _, rfl, rfl, _, _, rfl, ⟨hour, hhour, rfl⟩, _, _,
      rfl, rfl, minute, hminute, rfl⟩
    exact ⟨⟨year, month, day, hour, minute, 0⟩,
      ⟨hyear, hmonth, hday, hhour, hminute, Nat.zero_lt_succ _⟩, rfl, rfl⟩
  · rintro ⟨⟨year, month, day, hour, minute, second⟩, written, -, rfl⟩
    exact ⟨_, _, rfl, ⟨year, written.year, rfl⟩, _, _, rfl, rfl, _, _, rfl,
      ⟨month, written.month, rfl⟩, _, _, rfl, rfl, _, _, rfl, ⟨day, written.day, rfl⟩, _, _, rfl,
      rfl, _, _, rfl, ⟨hour, written.hour, rfl⟩, _, _, rfl, rfl, minute, written.minute, rfl⟩

theorem fits_secondShape {text : JsString} :
    fits (minuteShape ++ secondShape) text = true ↔
      ∃ f : Fields, f.Written ∧ text = f.secondForm := by
  unfold secondShape
  rw [JsText.fits_append]
  simp only [fits_minuteShape, JsText.fits_append, JsText.fits_digits, fits_mark]
  constructor
  · rintro ⟨_, _, rfl, ⟨f, written, -, rfl⟩, _, _, rfl, rfl, second, hsecond, rfl⟩
    exact ⟨{ f with second }, ⟨written.year, written.month, written.day, written.hour,
      written.minute, hsecond⟩, rfl⟩
  · rintro ⟨f, written, rfl⟩
    exact ⟨_, _, rfl, ⟨{ f with second := 0 }, ⟨written.year, written.month, written.day,
      written.hour, written.minute, Nat.zero_lt_succ _⟩, rfl, rfl⟩, _, _, rfl, rfl, f.second,
      written.second, rfl⟩

/-- A date-time in one of its two forms. -/
structure Writes (f : Fields) (text : JsString) : Prop where
  written : f.Written
  form : f.second = 0 ∧ text = f.minuteForm ∨ text = f.secondForm

theorem isDateTimeLocal_iff {text : JsString} :
    isDateTimeLocal text = true ↔ ∃ f, Writes f text := by
  unfold isDateTimeLocal
  rw [Bool.or_eq_true, fits_minuteShape, fits_secondShape]
  constructor
  · rintro (⟨f, written, second, text⟩ | ⟨f, written, text⟩)
    · exact ⟨f, written, .inl ⟨second, text⟩⟩
    · exact ⟨f, written, .inr text⟩
  · rintro ⟨f, written, ⟨second, text⟩ | text⟩
    · exact .inl ⟨f, written, second, text⟩
    · exact .inr ⟨f, written, text⟩

theorem numberAt_digits {width n : Nat} {rest : JsString} (hn : n < 10 ^ width) :
    numberAt (digits width n ++ rest) 0 width = n := by
  unfold numberAt
  rw [List.drop_zero, List.take_left' (JsText.length_digits width n), JsText.number_digits,
    Nat.mod_eq_of_lt hn]

/-- Digits and a mark in front of a text are passed. -/
theorem numberAt_next {width n i w : Nat} {u : CodeUnit} {rest : JsString} :
    numberAt (digits width n ++ u :: rest) (i + (width + 1)) w = numberAt rest i w := by
  unfold numberAt
  rw [Nat.add_comm i, ← List.drop_drop, List.append_cons,
    List.drop_left' (by rw [List.length_append, JsText.length_digits, List.length_singleton])]

/-- The numbers of a text are read back, its seconds from what follows the minutes. -/
theorem fieldsOf_minuteForm {f : Fields} (written : f.Written) (rest : JsString) :
    fieldsOf (f.minuteForm ++ rest) =
      { f with second := number ((rest.drop 1).take 2) } ∧
      (f.minuteForm ++ rest).take 16 = f.minuteForm := by
  have length : f.minuteForm.length = 16 := by
    simp [Fields.minuteForm, JsInstant.minuteText]
  have text : f.minuteForm ++ rest = digits 4 f.year ++ unit '-' :: (digits 2 f.month ++
      unit '-' :: (digits 2 f.day ++ unit 'T' :: (digits 2 f.hour ++ unit ':' ::
        (digits 2 f.minute ++ rest)))) := by
    simp [Fields.minuteForm, JsInstant.minuteText]
  have year : numberAt (f.minuteForm ++ rest) 0 4 = f.year := by
    rw [text]
    exact numberAt_digits written.year
  have month : numberAt (f.minuteForm ++ rest) 5 2 = f.month := by
    rw [text]
    exact numberAt_next.trans (numberAt_digits written.month)
  have day : numberAt (f.minuteForm ++ rest) 8 2 = f.day := by
    rw [text]
    exact numberAt_next.trans (numberAt_next.trans (numberAt_digits written.day))
  have hour : numberAt (f.minuteForm ++ rest) 11 2 = f.hour := by
    rw [text]
    exact numberAt_next.trans (numberAt_next.trans (numberAt_next.trans
      (numberAt_digits written.hour)))
  have minute : numberAt (f.minuteForm ++ rest) 14 2 = f.minute := by
    rw [text]
    exact numberAt_next.trans (numberAt_next.trans (numberAt_next.trans (numberAt_next.trans
      (numberAt_digits written.minute))))
  have second : numberAt (f.minuteForm ++ rest) 17 2 = number ((rest.drop 1).take 2) := by
    unfold numberAt
    rw [List.drop_append, length, List.drop_eq_nil_of_le (by omega), List.nil_append]
  refine ⟨?_, List.take_left' length⟩
  unfold fieldsOf
  rw [year, month, day, hour, minute, second]

/-- The numbers of a text are read back. -/
theorem fieldsOf_writes {f : Fields} {text : JsString} (h : Writes f text) :
    fieldsOf text = f ∧ text.take 16 = f.minuteForm := by
  obtain ⟨written, ⟨second, rfl⟩ | rfl⟩ := h
  · obtain ⟨read, front⟩ := fieldsOf_minuteForm written []
    have none : number ((([] : JsString).drop 1).take 2) = f.second := second.symm
    rw [List.append_nil, none] at read
    rw [List.append_nil] at front
    exact ⟨read, front⟩
  · obtain ⟨read, front⟩ := fieldsOf_minuteForm written (unit ':' :: digits 2 f.second)
    have seconds : number (((unit ':' :: digits 2 f.second).drop 1).take 2) = f.second := by
      rw [List.drop_one, List.tail_cons, List.take_of_length_le (by simp), JsText.number_digits,
        Nat.mod_eq_of_lt written.second]
    rw [seconds] at read
    exact ⟨read, front⟩

/-! ## Real times -/

/-- The window's values that become instants. -/
theorem toIso_eq_some_iff {value : Option FormValue} {iso : JsString} :
    toIso value = some iso ↔
      ∃ f : Fields, f.Real ∧ Writes f (FormValue.toText value) ∧ iso = f.isoForm := by
  unfold toIso
  dsimp only
  constructor
  · intro h
    split at h
    case isTrue => cases h
    case isFalse form =>
      obtain ⟨f, hf⟩ := isDateTimeLocal_iff.1 (not_not.1 form)
      obtain ⟨read, front⟩ := fieldsOf_writes hf
      rw [read, front] at h
      split at h
      case h_1 => cases h
      case h_2 t time =>
        split at h
        case isTrue => cases h
        case isFalse begins =>
          unfold getTime at time
          split at time
          case isFalse => cases time
          case isTrue accepted =>
            obtain rfl := Option.some.inj time
            have real := JsInstant.real_of_begins hf.written accepted (not_not.1 begins)
            rw [JsInstant.toISOString_real real hf.written.year] at h
            exact ⟨f, real, hf, (Option.some.inj h).symm⟩
  · rintro ⟨f, real, hf, rfl⟩
    obtain ⟨read, front⟩ := fieldsOf_writes hf
    have form := isDateTimeLocal_iff.2 ⟨f, hf⟩
    have time : getTime f = some f.instant := if_pos real.accepted
    have written := JsInstant.toISOString_real real hf.written.year
    have begins : f.minuteForm <+: f.isoForm := by
      unfold Fields.isoForm Fields.secondForm
      rw [List.append_assoc]
      exact List.prefix_append _ _
    rw [if_neg (not_not.2 form), read, front, time]
    dsimp only
    rw [written, if_neg (not_not.2 begins)]

theorem written_of_real {f : Fields} (h : f.Real) (year : f.year ≤ 9999) : f.Written := by
  have day : f.day ≤ 31 := h.date.day_le
  have month : f.month ≤ 12 := h.date.month.2
  have hour := h.hour
  have minute := h.minute
  have second := h.second
  exact ⟨by omega, by omega, by omega, by omega, by omega, by omega⟩

/-- **A window's time is accepted exactly when it is a real one**, and is that time in
UTC. -/
theorem toIso_exact :
    (∀ text iso, toIso (some (.text text)) = some iso ↔
      ∃ f : Fields, f.Real ∧ f.year ≤ 9999 ∧
        (f.second = 0 ∧ text = f.minuteForm ∨ text = f.secondForm) ∧ iso = f.isoForm) ∧
      toIso none = none ∧ toIso (some .file) = none := by
  refine ⟨?_, rfl, by decide⟩
  intro text iso
  rw [toIso_eq_some_iff]
  constructor
  · rintro ⟨f, real, writes, rfl⟩
    have year := writes.written.year
    exact ⟨f, real, by omega, writes.form, rfl⟩
  · rintro ⟨f, real, year, form, rfl⟩
    exact ⟨f, real, ⟨written_of_real real year, form⟩, rfl⟩

example : toIso (some (.text (ofString "2026-04-31T10:00"))) = none := by decide +kernel

example : toIso (some (.text (ofString "2024-02-29T23:59:07"))) =
    some (ofString "2024-02-29T23:59:07.000Z") := by decide +kernel

/-- A request with two real times. -/
structure RealWindow (body : NewTripRequest) : Prop where
  windowStart : ∃ f : Fields, f.Real ∧ body.windowStart = f.isoForm
  windowEnd : ∃ f : Fields, f.Real ∧ body.windowEnd = f.isoForm

theorem real_of_getD {value : Option FormValue} (h : (toIso value).getD [] ≠ []) :
    ∃ f : Fields, f.Real ∧ (toIso value).getD [] = f.isoForm := by
  cases hiso : toIso value with
  | none =>
    rw [hiso] at h
    exact absurd rfl h
  | some iso =>
    obtain ⟨f, real, -, same⟩ := toIso_eq_some_iff.1 hiso
    exact ⟨f, real, same⟩

/-- **The API is asked about real times only**: on any other request its answer does not
matter. -/
theorem newTrip_asks_real (integer : Option FormValue → Option Int)
    {writeApi other : NewTripRequest → TripAnswer}
    (same : ∀ body, RealWindow body → writeApi body = other body) (form : Option Form) :
    newTrip integer writeApi form = newTrip integer other form := by
  cases form with
  | none => rfl
  | some form =>
    unfold newTrip
    dsimp only
    split
    case isTrue => rfl
    case isFalse filled =>
      obtain ⟨windowStart, rest⟩ := not_or.1 filled
      obtain ⟨windowEnd, -⟩ := not_or.1 rest
      rw [same _ ⟨real_of_getD windowStart, real_of_getD windowEnd⟩]

end PaxPivot
