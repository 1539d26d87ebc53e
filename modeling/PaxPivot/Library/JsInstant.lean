import Mathlib
import PaxPivot.Library.Calendar
import PaxPivot.Library.JsText

/-!
# Instants in JavaScript

`Date` on date-times in UTC. The engine takes days up to 31 in any month and 24:00,
and rolls them forward. An instant is its count of milliseconds from the epoch.
-/

namespace JsText

/-! ## Digits of a fixed width -/

/-- The last `width` digits of a number. -/
def digits : Nat → Nat → JsString
  | 0, _ => []
  | width + 1, n => digits width (n / 10) ++ [unit (Nat.digitChar (n % 10))]

@[simp] theorem length_digits (width n : Nat) : (digits width n).length = width := by
  induction width generalizing n with
  | zero => rfl
  | succ width ih => simp [digits, ih]

/-- The digit of a code unit. -/
theorem unit_digitChar : ∀ d < 10, isDigit (unit (Nat.digitChar d)) = true ∧
    (unit (Nat.digitChar d)).toNat = 48 + d := by
  decide

theorem eq_unit_digitChar {u : CodeUnit} (h : isDigit u = true) :
    ∃ d < 10, u = unit (Nat.digitChar d) ∧ u.toNat = 48 + d := by
  unfold isDigit at h
  simp only [Bool.and_eq_true, decide_eq_true_eq] at h
  refine ⟨u.toNat - 48, by omega, ?_, by omega⟩
  apply BitVec.eq_of_toNat_eq
  rw [(unit_digitChar _ (by omega)).2]
  omega

theorem isDigit_of_mem_digits {width n : Nat} {u : CodeUnit} (h : u ∈ digits width n) :
    isDigit u = true := by
  induction width generalizing n with
  | zero => cases h
  | succ width ih =>
    obtain h | h := List.mem_append.1 h
    · exact ih h
    · rw [List.mem_singleton.1 h]
      exact (unit_digitChar _ (Nat.mod_lt _ (by decide))).1

theorem number_append_digit (s : JsString) {d : Nat} (hd : d < 10) :
    number (s ++ [unit (Nat.digitChar d)]) = 10 * number s + d := by
  have value : (Char.ofNat (unit (Nat.digitChar d)).toNat).toNat - '0'.toNat = d := by
    have all : ∀ d < 10, (Char.ofNat (unit (Nat.digitChar d)).toNat).toNat - '0'.toNat = d := by
      decide
    exact all d hd
  unfold number
  rw [List.map_append, Nat.ofDigitChars_append, List.map_singleton, Nat.ofDigitChars_cons,
    Nat.ofDigitChars_nil, value]

/-- The digits write the number. -/
theorem number_digits (width n : Nat) : number (digits width n) = n % 10 ^ width := by
  induction width generalizing n with
  | zero => simp [digits, number, Nat.mod_one]
  | succ width ih =>
    rw [digits, number_append_digit _ (Nat.mod_lt _ (by decide)), ih, Nat.pow_succ,
      Nat.mul_comm (10 ^ width), Nat.mod_mul]
    omega

/-- A run of digits is that of its number. -/
theorem digits_number {s : JsString} (h : ∀ u ∈ s, isDigit u = true) :
    digits s.length (number s) = s ∧ number s < 10 ^ s.length := by
  induction s using List.reverseRecOn with
  | nil => exact ⟨rfl, by simp [number]⟩
  | append_singleton s u ih =>
    obtain ⟨same, bound⟩ := ih fun v hv => h v (by simp [hv])
    obtain ⟨d, hd, rfl, -⟩ := eq_unit_digitChar (h u (by simp))
    have quotient : (10 * number s + d) / 10 = number s := by omega
    have rest : (10 * number s + d) % 10 = d := by omega
    rw [List.length_append, List.length_singleton, number_append_digit s hd, digits, quotient,
      rest, same, Nat.pow_succ]
    exact ⟨rfl, by omega⟩

/-! ## Shapes -/

/-- Code units of the sets, one after the other, and nothing else. -/
def fits : List (CodeUnit → Bool) → JsString → Bool
  | [], [] => true
  | p :: ps, u :: rest => p u && fits ps rest
  | _, _ => false

theorem fits_append {ps qs : List (CodeUnit → Bool)} {text : JsString} :
    fits (ps ++ qs) text = true ↔
      ∃ front rest, text = front ++ rest ∧ fits ps front = true ∧ fits qs rest = true := by
  induction ps generalizing text with
  | nil =>
    constructor
    · intro h
      exact ⟨[], text, rfl, rfl, h⟩
    · rintro ⟨front, rest, rfl, hfront, hrest⟩
      cases front with
      | nil => exact hrest
      | cons u front => cases hfront
  | cons p ps ih =>
    cases text with
    | nil =>
      constructor
      · intro h
        cases h
      · rintro ⟨front, rest, text, hfront, -⟩
        cases front with
        | nil => cases hfront
        | cons u front => cases text
    | cons u text =>
      rw [List.cons_append, fits, Bool.and_eq_true, ih]
      constructor
      · rintro ⟨hu, front, rest, rfl, hfront, hrest⟩
        exact ⟨u :: front, rest, rfl, by rw [fits, hu, hfront]; rfl, hrest⟩
      · rintro ⟨front, rest, text, hfront, hrest⟩
        cases front with
        | nil => cases hfront
        | cons v front =>
          obtain ⟨rfl, rfl⟩ := List.cons.inj text
          rw [fits, Bool.and_eq_true] at hfront
          exact ⟨hfront.1, front, rest, rfl, hfront.2, hrest⟩

/-- Some digits. -/
theorem fits_digits {width : Nat} {text : JsString} :
    fits (List.replicate width isDigit) text = true ↔
      ∃ n < 10 ^ width, text = digits width n := by
  have all : fits (List.replicate width isDigit) text = true ↔
      text.length = width ∧ ∀ u ∈ text, isDigit u = true := by
    induction width generalizing text with
    | zero => cases text <;> simp [fits]
    | succ width ih =>
      cases text with
      | nil => simp [List.replicate_succ, fits]
      | cons u text => simp [List.replicate_succ, fits, ih, and_left_comm]
  rw [all]
  constructor
  · rintro ⟨rfl, isDigits⟩
    obtain ⟨same, bound⟩ := digits_number isDigits
    exact ⟨_, bound, same.symm⟩
  · rintro ⟨n, -, rfl⟩
    exact ⟨length_digits width n, fun u => isDigit_of_mem_digits⟩

theorem fits_unit {c : CodeUnit} {text : JsString} :
    fits [fun u => decide (u = c)] text = true ↔ text = [c] := by
  match text with
  | [] => simp [fits]
  | [u] => simp [fits]
  | u :: v :: rest => simp [fits]

end JsText

namespace JsInstant

open JsText (unit digits fits isDigit)

/-! ## Date-times -/

/-- The numbers of a date-time, in range or not. -/
structure Fields where
  year : Nat
  month : Nat
  day : Nat
  hour : Nat
  minute : Nat
  second : Nat
  deriving DecidableEq

def Fields.date (f : Fields) : Calendar.Date := ⟨f.year, f.month, f.day⟩

/-- A date of the calendar and a time of the day. -/
structure Fields.Real (f : Fields) : Prop where
  date : f.date.Real
  hour : f.hour ≤ 23
  minute : f.minute ≤ 59
  second : f.second ≤ 59

/-- What the engine takes. -/
def Fields.accepted (f : Fields) : Bool :=
  decide (1 ≤ f.month ∧ f.month ≤ 12) && decide (1 ≤ f.day ∧ f.day ≤ 31) &&
    (decide (f.hour ≤ 23 ∧ f.minute ≤ 59 ∧ f.second ≤ 59) ||
      decide (f.hour = 24 ∧ f.minute = 0 ∧ f.second = 0))

def msPerDay : Int := 86400000

/-- The instant of a date-time in UTC. -/
def Fields.instant (f : Fields) : Int :=
  msPerDay * f.date.number + 3600000 * f.hour + 60000 * f.minute + 1000 * f.second

/-- `new Date(text).getTime()` by the fields of the text; `none` for `NaN`. -/
def getTime (f : Fields) : Option Int := if f.accepted then some f.instant else none

/-- `YYYY-MM-DDTHH:MM` with the year as it is written. -/
def minuteText (year : JsString) (month day hour minute : Nat) : JsString :=
  year ++ unit '-' :: (digits 2 month ++ unit '-' :: (digits 2 day ++ unit 'T' ::
    (digits 2 hour ++ unit ':' :: digits 2 minute)))

/-- Four digits, or a sign and six. -/
def yearText (year : Int) : JsString :=
  if 0 ≤ year ∧ year ≤ 9999 then digits 4 year.toNat
  else unit (if year < 0 then '-' else '+') :: digits 6 year.natAbs

/-- `date.toISOString()`. -/
def toISOString (t : Int) : JsString :=
  let date := Calendar.dateOf (t / msPerDay)
  let ms := (t % msPerDay).toNat
  minuteText (yearText date.year) date.month date.day (ms / 3600000) (ms / 60000 % 60) ++
    unit ':' :: (digits 2 (ms / 1000 % 60) ++ unit '.' :: (digits 3 (ms % 1000) ++ [unit 'Z']))

def Fields.minuteForm (f : Fields) : JsString :=
  minuteText (digits 4 f.year) f.month f.day f.hour f.minute

def Fields.secondForm (f : Fields) : JsString := f.minuteForm ++ unit ':' :: digits 2 f.second

/-- The form of an instant with these fields. -/
def Fields.isoForm (f : Fields) : JsString :=
  f.secondForm ++ unit '.' :: (digits 3 0 ++ [unit 'Z'])

/-! ## The date-time of an instant -/

/-- **An instant of the day is written with its date and time.** -/
theorem toISOString_instant (f : Fields) (hour : f.hour ≤ 23) (minute : f.minute ≤ 59)
    (second : f.second ≤ 59) :
    toISOString f.instant =
      minuteText (yearText (Calendar.dateOf f.date.number).year)
        (Calendar.dateOf f.date.number).month (Calendar.dateOf f.date.number).day f.hour
        f.minute ++ unit ':' :: (digits 2 f.second ++ unit '.' :: (digits 3 0 ++ [unit 'Z'])) := by
  have day : f.instant / msPerDay = f.date.number := by
    unfold Fields.instant msPerDay
    omega
  have ms : (f.instant % msPerDay).toNat =
      3600000 * f.hour + 60000 * f.minute + 1000 * f.second := by
    unfold Fields.instant msPerDay
    omega
  have hours : (3600000 * f.hour + 60000 * f.minute + 1000 * f.second) / 3600000 = f.hour := by
    omega
  have minutes : (3600000 * f.hour + 60000 * f.minute + 1000 * f.second) / 60000 % 60 =
      f.minute := by omega
  have seconds : (3600000 * f.hour + 60000 * f.minute + 1000 * f.second) / 1000 % 60 =
      f.second := by omega
  have rest : (3600000 * f.hour + 60000 * f.minute + 1000 * f.second) % 1000 = 0 := by omega
  unfold toISOString
  dsimp only
  rw [day, ms, hours, minutes, seconds, rest]

/-- Midnight at the end of a day is written with hour 0. -/
theorem toISOString_midnight (f : Fields) (hour : f.hour = 24) (minute : f.minute = 0)
    (second : f.second = 0) :
    ∃ (date : Calendar.Date) (rest : JsString), toISOString f.instant =
      minuteText (yearText date.year) date.month date.day 0 0 ++ rest := by
  have ms : (f.instant % msPerDay).toNat = 0 := by
    unfold Fields.instant msPerDay
    omega
  unfold toISOString
  dsimp only
  rw [ms]
  exact ⟨_, _, rfl⟩

/-- Two date-times are told apart by their texts, and a year beyond four digits by its
sign. -/
theorem minuteText_inj {year month day hour minute month' day' hour' minute' : Nat} {year' : Int}
    {rest : JsString}
    (h : minuteText (digits 4 year) month day hour minute <+:
      minuteText (yearText year') month' day' hour' minute' ++ rest) :
    (0 ≤ year' ∧ year' ≤ 9999) ∧ digits 4 year = digits 4 year'.toNat ∧
      digits 2 month = digits 2 month' ∧ digits 2 day = digits 2 day' ∧
      digits 2 hour = digits 2 hour' ∧ digits 2 minute = digits 2 minute' := by
  obtain ⟨more, hmore⟩ := h
  unfold minuteText yearText at hmore
  simp only [List.append_assoc, List.cons_append] at hmore
  split at hmore
  case isTrue range =>
    obtain ⟨sameYear, hmore⟩ := List.append_inj hmore (by simp)
    obtain ⟨-, hmore⟩ := List.cons.inj hmore
    obtain ⟨sameMonth, hmore⟩ := List.append_inj hmore (by simp)
    obtain ⟨-, hmore⟩ := List.cons.inj hmore
    obtain ⟨sameDay, hmore⟩ := List.append_inj hmore (by simp)
    obtain ⟨-, hmore⟩ := List.cons.inj hmore
    obtain ⟨sameHour, hmore⟩ := List.append_inj hmore (by simp)
    obtain ⟨-, hmore⟩ := List.cons.inj hmore
    obtain ⟨sameMinute, -⟩ := List.append_inj hmore (by simp)
    exact ⟨range, sameYear, sameMonth, sameDay, sameHour, sameMinute⟩
  case isFalse =>
    -- The text begins with a digit, not with a sign.
    cases hdigits : digits 4 year with
    | nil =>
      have length := JsText.length_digits 4 year
      rw [hdigits] at length
      cases length
    | cons u tail =>
      have digit : isDigit u = true := JsText.isDigit_of_mem_digits (hdigits ▸ List.mem_cons_self)
      rw [hdigits] at hmore
      obtain ⟨rfl, -⟩ := List.cons.inj hmore
      split at digit
      · exact absurd digit (by decide)
      · exact absurd digit (by decide)

theorem digits_inj {width n m : Nat} (hn : n < 10 ^ width) (hm : m < 10 ^ width)
    (h : digits width n = digits width m) : n = m := by
  have values := congrArg JsText.number h
  rwa [JsText.number_digits, JsText.number_digits, Nat.mod_eq_of_lt hn, Nat.mod_eq_of_lt hm]
    at values

/-- What the texts can write. -/
structure Fields.Written (f : Fields) : Prop where
  year : f.year < 10 ^ 4
  month : f.month < 10 ^ 2
  day : f.day < 10 ^ 2
  hour : f.hour < 10 ^ 2
  minute : f.minute < 10 ^ 2
  second : f.second < 10 ^ 2

theorem Fields.Real.accepted {f : Fields} (h : f.Real) : f.accepted = true := by
  have day : f.day ≤ 31 := h.date.day_le
  unfold Fields.accepted
  simp only [Bool.and_eq_true, Bool.or_eq_true, decide_eq_true_eq]
  exact ⟨⟨h.date.month, h.date.day, day⟩, .inl ⟨h.hour, h.minute, h.second⟩⟩

/-- **A real date-time is written as it was read.** -/
theorem toISOString_real {f : Fields} (h : f.Real) (year : f.year < 10 ^ 4) :
    toISOString f.instant = f.isoForm := by
  have range : 0 ≤ (f.year : Int) ∧ (f.year : Int) ≤ 9999 := by omega
  have text : yearText f.date.year = digits 4 f.year := if_pos range
  rw [toISOString_instant f h.hour h.minute h.second, Calendar.dateOf_number h.date, text]
  unfold Fields.isoForm Fields.secondForm Fields.minuteForm
  rw [List.append_assoc, List.cons_append]
  rfl

/-- **An instant begins with the date-time it was read from only when that is real.** -/
theorem real_of_begins {f : Fields} (written : f.Written) (accepted : f.accepted = true)
    (h : f.minuteForm <+: toISOString f.instant) : f.Real := by
  unfold Fields.accepted at accepted
  simp only [Bool.and_eq_true, Bool.or_eq_true, decide_eq_true_eq] at accepted
  obtain ⟨-, ⟨hour, minute, second⟩ | ⟨hour, minute, second⟩⟩ := accepted
  · rw [toISOString_instant f hour minute second] at h
    have date := Calendar.dateOf_real f.date.number
    obtain ⟨range, sameYear, sameMonth, sameDay, -⟩ := minuteText_inj h
    have month : (Calendar.dateOf f.date.number).month < 10 ^ 2 := by
      have := date.month
      omega
    have day : (Calendar.dateOf f.date.number).day < 10 ^ 2 := by
      have := date.day_le
      omega
    have year := digits_inj written.year (by omega) sameYear
    have whole : (Calendar.dateOf f.date.number).year = f.year := by omega
    have same : Calendar.dateOf f.date.number = f.date := by
      apply Calendar.Date.ext whole
      · exact (digits_inj written.month month sameMonth).symm
      · exact (digits_inj written.day day sameDay).symm
    exact ⟨Calendar.dateOf_number_iff.1 same, hour, minute, second⟩
  · obtain ⟨date, rest, midnight⟩ := toISOString_midnight f hour minute second
    rw [midnight] at h
    obtain ⟨-, -, -, -, sameHour, -⟩ := minuteText_inj h
    rw [hour] at sameHour
    exact absurd sameHour (by decide)

end JsInstant
