import PaxPivot.Library.EraDate
import PaxPivot.Library.JsInstant
import PaxPivot.Web.Presentation

/-!
# What a timestamp shows

The text of `formatTimestamp` is the date of the calendar and the time of the day in UTC, cut to
the minute. Years of four digits are written with four digits, so such a text tells the
minute.
-/

namespace PaxPivot

open JsInstant (Fields)
open JsText (ofString unit digits decimal)

/-! ## The fields of a `Date` -/

/-- **The fields of a `Date` are those of the calendar.** -/
theorem utcFields_date (ms : Int) :
    utcFields ms =
      { year := (Calendar.dateOf (ms / 86400000)).year
        month := (Calendar.dateOf (ms / 86400000)).month
        day := (Calendar.dateOf (ms / 86400000)).day
        hour := ms / 3600000 % 24
        minute := ms / 60000 % 60 } := by
  have real := Calendar.dateOf_real (ms / 86400000)
  obtain ⟨-, months, -, -⟩ := real.number_march
  obtain ⟨year, day⟩ := Calendar.era_dateOf (ms / 86400000) rfl rfl
  generalize Calendar.dateOf (ms / 86400000) = d at *
  have first := real.month
  have marchYear : d.marchYear = d.year - if d.month ≤ 2 then 1 else 0 := rfl
  have marchDay : d.marchDay = (153 * Calendar.fromMarch d.month + 2) / 5 + (d.day - 1) := rfl
  have fromMarch : Calendar.fromMarch d.month = if d.month ≤ 2 then d.month + 9 else d.month - 3 :=
    rfl
  unfold utcFields
  dsimp only
  rw [day]
  have month : ((5 * (d.marchDay : Int) + 2) / 153) = (Calendar.fromMarch d.month : Nat) := by
    omega
  have ofMarch : (if ((Calendar.fromMarch d.month : Nat) : Int) < 10
      then ((Calendar.fromMarch d.month : Nat) : Int) + 3
      else ((Calendar.fromMarch d.month : Nat) : Int) - 9) = d.month := by
    rw [fromMarch]
    split <;> split <;> omega
  rw [month, ofMarch]
  rw [UtcFields.mk.injEq]
  refine ⟨?_, rfl, ?_, rfl, rfl⟩
  · rw [year, marchYear]
    have same : (if (d.month : Int) ≤ 2 then (1 : Int) else 0) = if d.month ≤ 2 then 1 else 0 := by
      split <;> split <;> omega
    rw [same]
    omega
  · have first := real.day
    omega

/-! ## Digits -/

theorem ofString_append (a b : String) : ofString (a ++ b) = ofString a ++ ofString b := by
  unfold ofString
  rw [String.toList_append, List.flatMap_append]

/-- A text of ASCII is one code unit a character. -/
theorem ofString_eq_map {text : String} (h : ∀ c ∈ text.toList, c.toNat < 0x80) :
    ofString text = text.toList.map unit :=
  JsText.ofScalars_eq_map h

/-- `String(n)` of a number that is not negative. -/
theorem ofString_toString (n : Nat) : ofString (toString (n : Int)) = decimal n := by
  have text : (toString (n : Int)).toList = Nat.toDigits 10 n := by
    show (Nat.repr n).toList = _
    rw [Nat.repr_eq_ofList_toDigits, String.toList_ofList]
  rw [ofString_eq_map, text]
  · rfl
  · rw [text]
    intro c hc
    have := JsText.toNat_of_isDigit (Nat.isDigit_of_mem_toDigits (by decide) (by decide) hc)
    omega

/-- A number of as many digits as are written. -/
theorem decimal_eq_digits (width : Nat) {n : Nat} (low : 10 ^ width ≤ n) (high : n < 10 ^ (width + 1)) :
    decimal n = digits (width + 1) n := by
  induction width generalizing n with
  | zero =>
    unfold decimal
    rw [Nat.toDigits_of_lt_base (by simpa using high)]
    have small : n % 10 = n := Nat.mod_eq_of_lt (by simpa using high)
    simp [digits, small]
  | succ width ih =>
    have base : 10 ≤ n := by
      have := Nat.pow_le_pow_right (show 0 < 10 by decide) (show 1 ≤ width + 1 by omega)
      omega
    rw [Nat.pow_succ] at low high
    have tail := @ih (n / 10) (by omega) (by omega)
    unfold decimal at tail ⊢
    rw [Nat.toDigits_of_base_le (by decide) base, List.map_append, tail]
    rfl

theorem ofString_pad {n : Nat} (h : n < 100) : ofString (pad n) = digits 2 n := by
  have all : ∀ n < 100, ofString (pad (n : Nat)) = digits 2 n := by decide +kernel
  exact all n h

/-! ## The text -/

/-- `YYYY-MM-DD HH:MMZ`. -/
def shownForm (f : Fields) : JsString :=
  digits 4 f.year ++ (unit '-' :: (digits 2 f.month ++ (unit '-' :: (digits 2 f.day ++
    (unit ' ' :: (digits 2 f.hour ++ (unit ':' :: (digits 2 f.minute ++ [unit 'Z']))))))))

/-- The minute that an instant is in, by its date-time. -/
structure InMinute (f : Fields) (instant : Int) : Prop where
  real : f.Real
  second : f.second = 0
  year : 1000 ≤ f.year ∧ f.year ≤ 9999
  first : 1000 * f.instant ≤ instant
  last : instant < 1000 * f.instant + 60000000

/-- **The text of an instant is the minute that it is in.** -/
theorem formatTimestamp_of_minute {f : Fields} {instant : Int} (h : InMinute f instant) :
    ofString (formatTimestamp instant) = shownForm f := by
  have hour := h.real.hour
  have minute := h.real.minute
  have dayOfMonth : f.day ≤ 31 := h.real.date.day_le
  have month : f.month ≤ 12 := h.real.date.month.2
  have years := h.year
  have first := h.first
  have last := h.last
  have whole : f.instant = 86400000 * f.date.number + 3600000 * f.hour + 60000 * f.minute := by
    unfold Fields.instant JsInstant.msPerDay
    rw [h.second]
    omega
  have day : dateMs instant / 86400000 = f.date.number := by
    unfold dateMs
    omega
  have hours : dateMs instant / 3600000 % 24 = f.hour := by
    unfold dateMs
    omega
  have minutes : dateMs instant / 60000 % 60 = f.minute := by
    unfold dateMs
    omega
  have fields : utcFields (dateMs instant) =
      { year := (f.year : Nat), month := (f.month : Nat), day := (f.day : Nat)
        hour := (f.hour : Nat), minute := (f.minute : Nat) } := by
    rw [utcFields_date, day, hours, minutes, Calendar.dateOf_number h.real.date]
    rfl
  unfold formatTimestamp
  dsimp only
  rw [fields]
  have dash : ofString "-" = [unit '-'] := rfl
  have space : ofString " " = [unit ' '] := rfl
  have colon : ofString ":" = [unit ':'] := rfl
  have zone : ofString "Z" = [unit 'Z'] := rfl
  have year : ofString (toString (f.year : Int)) = digits 4 f.year := by
    rw [ofString_toString, decimal_eq_digits 3 (by omega) (by omega)]
  dsimp only
  simp only [ofString_append, dash, space, colon, zone, year,
    ofString_pad (show f.month < 100 by omega), ofString_pad (show f.day < 100 by omega),
    ofString_pad (show f.hour < 100 by omega), ofString_pad (show f.minute < 100 by omega),
    shownForm, List.append_assoc, List.cons_append, List.nil_append]

/-- Years of four digits, in UTC. -/
def FourDigitYear (instant : Int) : Prop :=
  1000 ≤ (Calendar.dateOf (instant / 86400000000)).year ∧
    (Calendar.dateOf (instant / 86400000000)).year ≤ 9999

theorem exists_inMinute {instant : Int} (h : FourDigitYear instant) :
    ∃ f, InMinute f instant ∧ 1000 * f.instant = instant / 60000000 * 60000000 := by
  unfold FourDigitYear at h
  have real := Calendar.dateOf_real (instant / 86400000000)
  have number := Calendar.number_dateOf (instant / 86400000000)
  generalize Calendar.dateOf (instant / 86400000000) = d at *
  obtain ⟨year, hyear⟩ := Int.eq_ofNat_of_zero_le (show 0 ≤ d.year by omega)
  let f : Fields :=
    { year, month := d.month, day := d.day
      hour := (instant / 3600000000 % 24).toNat
      minute := (instant / 60000000 % 60).toNat
      second := 0 }
  have date : f.date = d := by
    apply Calendar.Date.ext
    · exact hyear.symm
    · rfl
    · rfl
  have whole : 1000 * f.instant = instant / 60000000 * 60000000 := by
    have hour : (f.hour : Int) = instant / 3600000000 % 24 := Int.toNat_of_nonneg (by omega)
    have minute : (f.minute : Int) = instant / 60000000 % 60 := Int.toNat_of_nonneg (by omega)
    unfold Fields.instant JsInstant.msPerDay
    rw [date, number, hour, minute, show f.second = 0 from rfl]
    omega
  refine ⟨f, ⟨⟨date ▸ real, ?_, ?_, Nat.zero_le _⟩, rfl, ?_, by omega, by omega⟩, whole⟩
  · show (instant / 3600000000 % 24).toNat ≤ 23
    omega
  · show (instant / 60000000 % 60).toNat ≤ 59
    omega
  · show 1000 ≤ year ∧ year ≤ 9999
    omega

/-- Date-times that are shown alike are in one minute. -/
theorem shownForm_inj {f g : Fields} (hf : f.Written) (hg : g.Written)
    (h : shownForm f = shownForm g) : f.date = g.date ∧ f.hour = g.hour ∧ f.minute = g.minute := by
  unfold shownForm at h
  obtain ⟨year, h⟩ := List.append_inj h (by simp)
  obtain ⟨month, h⟩ := List.append_inj (List.cons.inj h).2 (by simp)
  obtain ⟨day, h⟩ := List.append_inj (List.cons.inj h).2 (by simp)
  obtain ⟨hour, h⟩ := List.append_inj (List.cons.inj h).2 (by simp)
  obtain ⟨minute, -⟩ := List.append_inj (List.cons.inj h).2 (by simp)
  refine ⟨?_, JsInstant.digits_inj hf.hour hg.hour hour,
    JsInstant.digits_inj hf.minute hg.minute minute⟩
  unfold Fields.date
  rw [JsInstant.digits_inj hf.year hg.year year, JsInstant.digits_inj hf.month hg.month month,
    JsInstant.digits_inj hf.day hg.day day]

theorem InMinute.written {f : Fields} {instant : Int} (h : InMinute f instant) : f.Written := by
  have day : f.day ≤ 31 := h.real.date.day_le
  have month : f.month ≤ 12 := h.real.date.month.2
  have hour := h.real.hour
  have minute := h.real.minute
  have year := h.year.2
  have second := h.second
  exact ⟨by omega, by omega, by omega, by omega, by omega, by omega⟩

/-- **A timestamp is the minute of its instant.** It is written with the real date and time of
the minute that the instant is in, and two instants are shown alike exactly when they are in
one minute. -/
theorem timestamps_tell_minutes {t u : Int} (ht : FourDigitYear t) (hu : FourDigitYear u) :
    (∃ f, InMinute f t ∧ ofString (formatTimestamp t) = shownForm f) ∧
      (formatTimestamp t = formatTimestamp u ↔ t / 60000000 = u / 60000000) := by
  obtain ⟨f, hf, start⟩ := exists_inMinute ht
  obtain ⟨g, hg, start'⟩ := exists_inMinute hu
  refine ⟨⟨f, hf, formatTimestamp_of_minute hf⟩, ?_, ?_⟩
  · intro same
    have shown : shownForm f = shownForm g := by
      rw [← formatTimestamp_of_minute hf, ← formatTimestamp_of_minute hg, same]
    obtain ⟨date, hour, minute⟩ := shownForm_inj hf.written hg.written shown
    have instant : f.instant = g.instant := by
      unfold Fields.instant
      rw [date, hour, minute, hf.second, hg.second]
    omega
  · intro same
    have day : dateMs t / 86400000 = dateMs u / 86400000 := by
      unfold dateMs
      omega
    have hour : dateMs t / 3600000 % 24 = dateMs u / 3600000 % 24 := by
      unfold dateMs
      omega
    have minute : dateMs t / 60000 % 60 = dateMs u / 60000 % 60 := by
      unfold dateMs
      omega
    unfold formatTimestamp
    rw [utcFields_date, utcFields_date, day, hour, minute]

/-- The two ends of a minute of 29 February. -/
theorem leap_minute_shown_alike :
    formatTimestamp 1709251140000000 = formatTimestamp 1709251199999999 :=
  (timestamps_tell_minutes (t := 1709251140000000) (u := 1709251199999999) ⟨by decide, by decide⟩
    ⟨by decide, by decide⟩).2.2 (by decide)

end PaxPivot
