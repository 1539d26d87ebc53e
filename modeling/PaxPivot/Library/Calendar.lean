import Mathlib

/-!
# The proleptic Gregorian calendar by day numbers

Day 0 is 1 January 1970. A day number has one date, and a date without a day of its
own (31 April) has the number of a later day, whose date it then is.
-/

namespace Calendar

def isLeap (year : Int) : Bool := year % 4 = 0 ∧ (year % 100 ≠ 0 ∨ year % 400 = 0)

/-- The lengths of the months. -/
def monthLengths (leap : Bool) : List Nat :=
  [31, if leap then 29 else 28, 31, 30, 31, 30, 31, 31, 30, 31, 30, 31]

/-- The number of the first day of a year. -/
def dayFromYear (year : Int) : Int :=
  365 * (year - 1970) + (year - 1969) / 4 - (year - 1901) / 100 + (year - 1601) / 400

/-- The year of a day. -/
def yearFromDay (n : Int) : Int :=
  let guess := 1970 + 400 * n / 146097
  if n < dayFromYear guess then guess - 1
  else if dayFromYear (guess + 1) ≤ n then guess + 1
  else guess

/-- A year, a month and a day, on the calendar or not. -/
@[ext]
structure Date where
  year : Int
  month : Nat
  day : Nat
  deriving DecidableEq

/-- The days in front of a month. -/
def daysBefore (lengths : List Nat) (month : Nat) : Nat := (lengths.take (month - 1)).sum

/-- The number of a date; a day beyond its month counts on. -/
def Date.number (d : Date) : Int :=
  dayFromYear d.year + daysBefore (monthLengths (isLeap d.year)) d.month + d.day - 1

/-- A day of the calendar. -/
structure Date.Real (d : Date) : Prop where
  month : 1 ≤ d.month ∧ d.month ≤ 12
  day : 1 ≤ d.day
  least : ∀ length ∈ (monthLengths (isLeap d.year))[d.month - 1]?, d.day ≤ length

/-- The month and the day of it that lie `k` days after the first of the months. -/
def monthDay : List Nat → Nat → Nat × Nat
  | [], k => (1, k + 1)
  | length :: rest, k =>
    if k < length then (1, k + 1)
    else ((monthDay rest (k - length)).1 + 1, (monthDay rest (k - length)).2)

/-- The date of a day. -/
def dateOf (n : Int) : Date :=
  let year := yearFromDay n
  let md := monthDay (monthLengths (isLeap year)) (n - dayFromYear year).toNat
  ⟨year, md.1, md.2⟩

/-! ## Years -/

theorem dayFromYear_succ (year : Int) :
    dayFromYear (year + 1) = dayFromYear year + (monthLengths (isLeap year)).sum := by
  have common : (monthLengths false).sum = 365 := rfl
  have leap : (monthLengths true).sum = 366 := rfl
  cases h : isLeap year
  · rw [common]
    unfold isLeap at h
    unfold dayFromYear
    rw [decide_eq_false_iff_not] at h
    omega
  · rw [leap]
    unfold isLeap at h
    unfold dayFromYear
    rw [decide_eq_true_eq] at h
    omega

/-- The days of a year lie between its first and that of the next. -/
theorem yearFromDay_spec (n : Int) :
    dayFromYear (yearFromDay n) ≤ n ∧ n < dayFromYear (yearFromDay n + 1) := by
  have low : dayFromYear (1970 + 400 * n / 146097 - 1) ≤ n := by
    unfold dayFromYear
    omega
  have high : n < dayFromYear (1970 + 400 * n / 146097 + 1 + 1) := by
    unfold dayFromYear
    omega
  unfold yearFromDay
  dsimp only
  generalize 1970 + 400 * n / 146097 = guess at low high
  split
  case isTrue before =>
    rw [Int.sub_add_cancel]
    exact ⟨low, before⟩
  case isFalse inside =>
    split
    case isTrue after => exact ⟨after, high⟩
    case isFalse here => exact ⟨Int.not_lt.1 inside, Int.not_le.1 here⟩

theorem dayFromYear_mono {year later : Int} (h : year ≤ later) :
    dayFromYear year ≤ dayFromYear later := by
  unfold dayFromYear
  omega

theorem yearFromDay_unique {year n : Int} (first : dayFromYear year ≤ n)
    (last : n < dayFromYear (year + 1)) : yearFromDay n = year := by
  obtain ⟨first', last'⟩ := yearFromDay_spec n
  obtain h | h | h := lt_trichotomy (yearFromDay n) year
  · have := dayFromYear_mono (Int.add_one_le_of_lt h)
    omega
  · exact h
  · have := dayFromYear_mono (Int.add_one_le_of_lt h)
    omega

/-! ## Months -/

/-- A day inside a month is found there. -/
theorem monthDay_of_day {lengths : List Nat} {i day length : Nat} (hi : lengths[i]? = some length)
    (first : 1 ≤ day) (last : day ≤ length) :
    monthDay lengths ((lengths.take i).sum + day - 1) = (i + 1, day) := by
  induction lengths generalizing i with
  | nil => simp at hi
  | cons here rest ih =>
    cases i with
    | zero =>
      obtain rfl : here = length := by simpa using hi
      have inside : (List.take 0 (here :: rest)).sum + day - 1 < here := by
        rw [List.take_zero, List.sum_nil]
        omega
      rw [monthDay, if_pos inside, List.take_zero, List.sum_nil]
      congr 1
      omega
    | succ i =>
      have days : (List.take (i + 1) (here :: rest)).sum + day - 1 =
          here + ((rest.take i).sum + day - 1) := by
        rw [List.take_succ_cons, List.sum_cons]
        omega
      rw [days, monthDay, if_neg (by omega), Nat.add_sub_cancel_left, ih (by simpa using hi)]

/-- What is found is a day inside a month. -/
theorem monthDay_inside {lengths : List Nat} {k : Nat} (h : k < lengths.sum) :
    1 ≤ (monthDay lengths k).1 ∧ 1 ≤ (monthDay lengths k).2 ∧
      ∃ length, lengths[(monthDay lengths k).1 - 1]? = some length ∧
        (monthDay lengths k).2 ≤ length := by
  induction lengths generalizing k with
  | nil => simp at h
  | cons here rest ih =>
    rw [monthDay]
    split
    case isTrue inside => exact ⟨le_rfl, by simp, here, rfl, by simpa using inside⟩
    case isFalse after =>
      rw [List.sum_cons] at h
      obtain ⟨month, day, length, found, last⟩ := ih (k := k - here) (by omega)
      refine ⟨by simp, day, length, ?_, last⟩
      obtain ⟨m, hm⟩ := Nat.exists_eq_add_of_le month
      rw [hm] at found
      simp only [Nat.add_sub_cancel_left] at found
      simp only [hm, Nat.add_sub_cancel]
      rwa [Nat.add_comm 1 m, List.getElem?_cons_succ]

/-! ## Dates -/

theorem length_monthLengths (leap : Bool) : (monthLengths leap).length = 12 := by
  cases leap <;> rfl

theorem Date.Real.some_month {d : Date} (h : d.Real) :
    d.month - 1 < (monthLengths (isLeap d.year)).length := by
  have most := h.month
  rw [length_monthLengths]
  omega

theorem Date.Real.day_le {d : Date} (h : d.Real) : d.day ≤ 31 := by
  have all : ∀ leap : Bool, (monthLengths leap).all (· ≤ 31) = true := by decide
  have found := List.getElem?_eq_getElem h.some_month
  have length := List.all_eq_true.1 (all _) _ (List.mem_of_getElem? found)
  exact (h.least _ found).trans (by simpa using length)

/-- A day of the calendar lies in its year. -/
theorem Date.Real.inYear {d : Date} (h : d.Real) :
    dayFromYear d.year ≤ d.number ∧ d.number < dayFromYear (d.year + 1) := by
  have some_month := h.some_month
  have day := h.day
  have last := h.least _ (List.getElem?_eq_getElem some_month)
  have total : daysBefore (monthLengths (isLeap d.year)) d.month +
      (monthLengths (isLeap d.year))[d.month - 1] ≤ (monthLengths (isLeap d.year)).sum := by
    have parts := List.sum_take_add_sum_drop (monthLengths (isLeap d.year)) (d.month - 1)
    rw [List.drop_eq_getElem_cons some_month, List.sum_cons] at parts
    unfold daysBefore
    omega
  unfold Date.number
  rw [dayFromYear_succ]
  omega

/-- **The date of a day's number is the day.** -/
theorem dateOf_number {d : Date} (h : d.Real) : dateOf d.number = d := by
  obtain ⟨first, last⟩ := h.inYear
  have year := yearFromDay_unique first last
  have offset : (d.number - dayFromYear d.year).toNat =
      ((monthLengths (isLeap d.year)).take (d.month - 1)).sum + d.day - 1 := by
    have day := h.day
    unfold Date.number daysBefore
    omega
  have here := List.getElem?_eq_getElem h.some_month
  have found := monthDay_of_day here h.day (h.least _ here)
  have month : d.month - 1 + 1 = d.month := Nat.sub_add_cancel h.month.1
  unfold dateOf
  dsimp only
  rw [year, offset, found, month]

/-- **Every day has a date of the calendar.** -/
theorem dateOf_real (n : Int) : (dateOf n).Real := by
  obtain ⟨first, last⟩ := yearFromDay_spec n
  have inside : (n - dayFromYear (yearFromDay n)).toNat <
      (monthLengths (isLeap (yearFromDay n))).sum := by
    rw [dayFromYear_succ] at last
    omega
  obtain ⟨month, day, length, found, most⟩ := monthDay_inside inside
  refine ⟨⟨month, ?_⟩, day, ?_⟩
  · have bound := (List.getElem?_eq_some_iff.1 found).1
    rw [length_monthLengths] at bound
    show (monthDay _ _).1 ≤ 12
    omega
  · intro length' hlength'
    obtain rfl : length = length' := Option.some.inj (found.symm.trans hlength')
    exact most

/-- A date is that of its number when it is a day of the calendar. -/
theorem dateOf_number_iff {d : Date} : dateOf d.number = d ↔ d.Real := by
  constructor
  · intro same
    rw [← same]
    exact dateOf_real _
  · exact dateOf_number

end Calendar
