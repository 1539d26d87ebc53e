import PaxPivot.Library.Calendar

/-!
# Dates by division

The date of a day number by its era of 400 years and its year from March on, as programs
compute it. The last day of such a year is the leap day.
-/

namespace Calendar

/-! ## Years from March -/

/-- The months in front of a month when the year begins in March. -/
def fromMarch (month : Nat) : Nat := if month ≤ 2 then month + 9 else month - 3

/-- The year that a date is in when the year begins in March. -/
def Date.marchYear (d : Date) : Int := d.year - if d.month ≤ 2 then 1 else 0

/-- The day of that year, from 0. -/
def Date.marchDay (d : Date) : Nat := (153 * fromMarch d.month + 2) / 5 + (d.day - 1)

theorem isLeap_iff (year : Int) :
    isLeap year = true ↔ year % 4 = 0 ∧ (year % 100 ≠ 0 ∨ year % 400 = 0) := by
  unfold isLeap
  rw [decide_eq_true_eq]

/-- The days in front of each month, from March on: January and February are the last ones. -/
theorem daysBefore_march : ∀ leap : Bool, ∀ month < 13, 1 ≤ month →
    daysBefore (monthLengths leap) month + (if month ≤ 2 then 306 else 0) =
      (153 * fromMarch month + 2) / 5 + if month ≤ 2 then 0 else 59 + leap.toNat := by
  decide

/-- The last day of each month lies in it from March on too. -/
theorem monthLengths_march : ∀ leap : Bool, ∀ month < 13, 1 ≤ month →
    ((monthLengths leap)[month - 1]?.getD 0) + (153 * fromMarch month + 2) / 5 ≤
      (if month = 2 then 365 + leap.toNat else (153 * (fromMarch month + 1) + 2) / 5) := by
  decide

theorem fromMarch_lt : ∀ month < 13, 1 ≤ month → fromMarch month < 12 := by decide

theorem fromMarch_eq_iff : ∀ month < 13, 1 ≤ month → (fromMarch month = 11 ↔ month = 2) := by decide

/-- **A date by the day of its year from March.** -/
theorem Date.Real.number_march {d : Date} (h : d.Real) :
    d.number + 719468 = 365 * d.marchYear + d.marchYear / 4 - d.marchYear / 100 +
        d.marchYear / 400 + d.marchDay ∧
      (5 * d.marchDay + 2) / 153 = fromMarch d.month ∧ d.marchDay ≤ 365 ∧
      (d.marchDay = 365 → isLeap (d.marchYear + 1) = true) := by
  obtain ⟨⟨first, last⟩, day, least⟩ := h
  have before := daysBefore_march (isLeap d.year) d.month (by omega) first
  have length := monthLengths_march (isLeap d.year) d.month (by omega) first
  have early := fromMarch_lt d.month (by omega) first
  have feb := fromMarch_eq_iff d.month (by omega) first
  have most : d.day ≤ (monthLengths (isLeap d.year))[d.month - 1]?.getD 0 := by
    have inside : d.month - 1 < (monthLengths (isLeap d.year)).length := by
      rw [length_monthLengths]
      omega
    have found := List.getElem?_eq_getElem inside
    rw [found]
    exact least _ found
  have leap := isLeap_iff d.year
  unfold Date.number Date.marchDay Date.marchYear dayFromYear
  generalize daysBefore (monthLengths (isLeap d.year)) d.month = b at before ⊢
  generalize (monthLengths (isLeap d.year))[d.month - 1]?.getD 0 = l at length most
  generalize fromMarch d.month = m at *
  have extra : (isLeap d.year).toNat ≤ 1 ∧
      ((isLeap d.year).toNat = 1 ↔ d.year % 4 = 0 ∧ (d.year % 100 ≠ 0 ∨ d.year % 400 = 0)) := by
    rw [← leap]
    cases isLeap d.year <;> decide
  generalize (isLeap d.year).toNat = n at *
  refine ⟨?number, ?month, ?bound, ?leapDay⟩
  case number =>
    by_cases winter : d.month ≤ 2
    · simp only [if_pos winter] at before ⊢
      omega
    · simp only [if_neg winter] at before ⊢
      omega
  case month => split at length <;> omega
  case bound => split at length <;> omega
  case leapDay =>
    intro h
    have second : d.month = 2 := by
      by_contra other
      rw [if_neg other] at length
      omega
    rw [if_pos second] at length
    rw [if_pos (by omega), Int.sub_add_cancel, leap]
    omega

/-! ## The number of a date -/

/-- What is found is the day that was asked for. -/
theorem monthDay_sum {lengths : List Nat} {k : Nat} (h : k < lengths.sum) :
    (lengths.take ((monthDay lengths k).1 - 1)).sum + (monthDay lengths k).2 = k + 1 := by
  induction lengths generalizing k with
  | nil => simp at h
  | cons here rest ih =>
    rw [monthDay]
    split
    case isTrue inside => simp
    case isFalse after =>
      rw [List.sum_cons] at h
      have inside : k - here < rest.sum := by omega
      obtain ⟨month, -⟩ := monthDay_inside inside
      have found := ih inside
      obtain ⟨m, hm⟩ := Nat.exists_eq_add_of_le month
      rw [hm, Nat.add_sub_cancel_left] at found
      rw [hm, Nat.add_sub_cancel, Nat.add_comm 1 m, List.take_succ_cons, List.sum_cons]
      omega

/-- **The number of a day's date is the day.** -/
theorem number_dateOf (n : Int) : (dateOf n).number = n := by
  obtain ⟨first, last⟩ := yearFromDay_spec n
  have inside : (n - dayFromYear (yearFromDay n)).toNat <
      (monthLengths (isLeap (yearFromDay n))).sum := by
    rw [dayFromYear_succ] at last
    omega
  have found := monthDay_sum inside
  unfold Date.number daysBefore dateOf
  dsimp only
  omega

/-! ## Eras -/

section Eras

variable {year e c a b : Int}

/-- A year as an era, a century of it, four years of that and a year of those. -/
structure EraParts (year e c a b : Int) : Prop where
  year : year = 400 * e + 100 * c + 4 * a + b
  century : 0 ≤ c ∧ c ≤ 3
  fourth : 0 ≤ a ∧ a ≤ 24
  rest : 0 ≤ b ∧ b ≤ 3

theorem exists_eraParts (year : Int) : ∃ e c a b, EraParts year e c a b := by
  refine ⟨year / 400, year % 400 / 100, year % 100 / 4, year % 4, ?_, ?_, ?_, ?_⟩
  · have fourth : year % 4 = year % 100 % 4 := by omega
    have century : year % 400 % 100 = year % 100 := by omega
    omega
  · omega
  · omega
  · omega

theorem EraParts.quotients (h : EraParts year e c a b) :
    year / 4 = 100 * e + 25 * c + a ∧ year / 100 = 4 * e + c ∧ year / 400 = e := by
  obtain ⟨rfl, century, fourth, rest⟩ := h
  refine ⟨by omega, by omega, by omega⟩

/-- The year before a leap year ends its four years, and its century only with its era. -/
theorem EraParts.last (h : EraParts year e c a b) (leap : isLeap (year + 1) = true) :
    b = 3 ∧ (a = 24 → c = 3) := by
  obtain ⟨rfl, century, fourth, rest⟩ := h
  rw [isLeap_iff] at leap
  obtain rfl : b = 3 := by omega
  refine ⟨rfl, ?_⟩
  rintro rfl
  omega

/-- The year of an era from a day of it: 1460 days for each four years, one more for each
century, and one less for the era. -/
theorem yearOfEra_eq {c a b k : Int} (hc : 0 ≤ c ∧ c ≤ 3) (ha : 0 ≤ a ∧ a ≤ 24)
    (hb : 0 ≤ b ∧ b ≤ 3) (hk : 0 ≤ k ∧ k ≤ 365) (leap : k = 365 → b = 3 ∧ (a = 24 → c = 3))
    {d : Int} (hd : d = 36524 * c + 1461 * a + 365 * b + k) :
    (d - d / 1460 + d / 36524 - d / 146096) / 365 = 100 * c + 4 * a + b := by
  have fourth : d / 1460 = 25 * c + a + (24 * c + a + 365 * b + k) / 1460 := by omega
  have century : d / 36524 - d / 146096 = c := by
    by_cases last : d = 146096
    · omega
    · have inside : 1461 * a + 365 * b + k < 36524 := by omega
      have before : d < 146096 := by omega
      have era : d / 146096 = 0 := by omega
      have centuries : d / 36524 = c := by omega
      omega
  -- One day too many is taken in the last year of four, near its end.
  have rest : 0 ≤ k - (24 * c + a + 365 * b + k) / 1460 ∧
      k - (24 * c + a + 365 * b + k) / 1460 < 365 := by
    omega
  omega

/-- **The date of a day by its era**: the year from March and the day of it. -/
theorem era_dateOf (n : Int) {day year : Int} (hday : day = (n + 719468) % 146097)
    (hyear : year = (day - day / 1460 + day / 36524 - day / 146096) / 365) :
    year + (n + 719468) / 146097 * 400 = (dateOf n).marchYear ∧
      day - (365 * year + year / 4 - year / 100) = (dateOf n).marchDay := by
  obtain ⟨march, -, bound, leap⟩ := (dateOf_real n).number_march
  rw [number_dateOf] at march
  obtain ⟨e, c, a, b, parts⟩ := exists_eraParts (dateOf n).marchYear
  have last : ((dateOf n).marchDay : Int) = 365 → b = 3 ∧ (a = 24 → c = 3) :=
    fun h => parts.last (leap (by omega))
  obtain ⟨fourth, century, era⟩ := parts.quotients
  obtain ⟨whole, hc, ha, hb⟩ := parts
  rw [fourth, century, era, whole] at march
  rw [whole]
  generalize (dateOf n).marchDay = k at *
  have inside : 0 ≤ 36524 * c + 1461 * a + 365 * b + (k : Int) ∧
      36524 * c + 1461 * a + 365 * b + (k : Int) < 146097 := by
    by_cases leapDay : (k : Int) = 365
    · obtain ⟨rfl, full⟩ := last leapDay
      omega
    · omega
  have split : n + 719468 = 146097 * e + (36524 * c + 1461 * a + 365 * b + k) := by omega
  have hday' : day = 36524 * c + 1461 * a + 365 * b + k := by omega
  have era' : (n + 719468) / 146097 = e := by omega
  rw [hday', yearOfEra_eq hc ha hb ⟨by omega, by omega⟩ last rfl] at hyear
  have fours : (100 * c + 4 * a + b) / 4 = 25 * c + a := by omega
  have hundreds : (100 * c + 4 * a + b) / 100 = c := by omega
  rw [era', hday', hyear, fours, hundreds]
  constructor
  · ring
  · ring

end Eras

end Calendar
