import Mathlib
import PaxPivot.Application.Parsers.FirstStamp
import PaxPivot.Application.Parsers.StampClock

/-!
# A rendered stamp is read back

Every documented rendering of a local time, in front of text that does not go on with
a clock and behind text that does not say `current`, is parsed as that time. What is
read as a clock has the words of one.
-/

namespace PaxPivot

open Regex (Expr Cursor Place First)
open Regex.Cursor (Reads)
open PyStr (ofString point literal spaces anySpaces digits isSpace decimalValue ignoreCase)

/-! ## The first match -/

/-- The text has the word somewhere, in any case. -/
def Mentions (word : String) (text : PyStr) : Prop := ∃ p : Printed word, p.text <:+: text

theorem mentions_of_collapse {front : PyStr}
    (h : Mentions "current" (Expr.collapse isSpace (point ' ') false front)) :
    Mentions "current" front := by
  obtain ⟨p, hp⟩ := h
  have word : PlainWord p.text := plainWord_printed p (by decide) (by decide)
  have letters : ∀ c ∈ p.text, isSpace c = false := fun c hc => plain_not_space (word.2 c hc)
  exact ⟨p, Expr.word_of_collapse (by decide) letters word.1 false hp⟩

/-- Where the expression matches, its first word stands. -/
theorem starts_current {lib : PyLib} {b : Cursor CodePoint} (h : (stamp lib).run b ≠ []) :
    Expr.starts ("current".toList.map ignoreCase) b.ahead = true := by
  by_contra no
  apply h
  rw [stamp_eq]
  apply Expr.run_seq_dead
  rw [literal_eq, Expr.run_sets, if_neg no]

/-- A text that starts with the word mentions it. -/
theorem mentions_of_starts {text : PyStr}
    (h : Expr.starts ("current".toList.map ignoreCase) text = true) :
    ∃ p : Printed "current", p.text <+: text := by
  have read : (literal "current").run ⟨[], text, []⟩ =
      [Cursor.advance ⟨[], text, []⟩ ("current".toList.map ignoreCase).length] := by
    rw [literal_eq, Expr.run_sets, if_pos h]
  obtain ⟨p, reads, -⟩ := reads_literal (by decide) (read ▸ List.mem_singleton.2 rfl)
  exact ⟨p, _, reads.ahead.symm⟩

/-- The stamp's word does not begin inside a text that does not mention it: none of its
other letters is its first. -/
theorem not_starts_across {front rest : PyStr} {p : Printed "current"} (ne : front ≠ [])
    (h : Expr.starts ("current".toList.map ignoreCase) (front ++ (p.text ++ rest)) = true) :
    ∃ q : Printed "current", q.text <+: front := by
  apply mentions_of_starts
  obtain ⟨text, cased⟩ := p
  obtain ⟨x, front, rfl⟩ := List.exists_cons_of_ne_nil ne
  have letters : "current".toList = 'c' :: ['u', 'r', 'r', 'e', 'n', 't'] := rfl
  unfold AnyCase at cased
  rw [letters] at cased h ⊢
  cases cased with
  | cons first _ =>
    rw [List.map_cons, Expr.starts, Bool.and_eq_true]
    rw [List.map_cons, List.cons_append, List.cons_append, Expr.starts, Bool.and_eq_true] at h
    refine ⟨h.1, Expr.starts_of_append ?_ h.2⟩
    intro p hp
    obtain ⟨d, hd, rfl⟩ := List.mem_map.1 hp
    have others : ['u', 'r', 'r', 'e', 'n', 't'].all (fun d => d != 'c' && alphabet.contains d) =
        true := by decide
    have other := List.all_eq_true.1 others d hd
    simp only [Bool.and_eq_true, bne_iff_ne, List.contains_eq_mem, decide_eq_true_eq] at other
    rw [ignoreCase_letter other.2 (by decide) first]
    simpa using other.1

/-- **The stamp is the first match** behind a text that does not mention its word. -/
theorem first_line (lib : PyLib) {t : CivilFields} {month : Nat} (style : StampStyle month)
    {front rest : PyStr} (silent : ¬ Mentions "current" front)
    (here : (stamp lib).run ⟨front.reverse, style.line t rest, []⟩ ≠ []) :
    First (stamp lib) (front ++ style.line t rest) ⟨front.reverse, style.line t rest, []⟩ := by
  refine ⟨⟨by simp, rfl⟩, here, ?_⟩
  intro b place earlier
  by_contra found
  obtain ⟨behind, ahead, groups⟩ := b
  have text : behind.reverse ++ ahead = front ++ style.line t rest := place.1
  simp only [List.length_reverse] at earlier
  -- The place stands inside the text in front.
  obtain ⟨more, hfront, hahead⟩ : ∃ more, front = behind.reverse ++ more ∧
      ahead = more ++ style.line t rest := by
    obtain ⟨more, hmore, hline⟩ | ⟨more, hmore, hline⟩ := List.append_eq_append_iff.1 text
    · exact ⟨more, hmore, hline⟩
    · have length := congrArg List.length hmore
      simp only [List.length_reverse, List.length_append] at length
      omega
  have ne : more ≠ [] := by
    rintro rfl
    rw [hfront] at earlier
    simp at earlier
  have starts := starts_current found
  simp only [hahead, StampStyle.line] at starts
  obtain ⟨q, hq⟩ := not_starts_across ne starts
  apply silent
  refine ⟨q, ?_⟩
  rw [hfront]
  exact hq.isInfix.trans (List.suffix_append _ _).isInfix

/-! ## Reading the groups -/

/-- `str.lower` on ASCII. -/
def lowerAscii (c : CodePoint) : CodePoint := if 0x41 ≤ c.val ∧ c.val ≤ 0x5A then c + 0x20 else c

/-- A printed name in lower case. -/
theorem lower_printed {lib : PyLib} (std : StandardLib lib) {name : String}
    (letters : name.toList ⊆ alphabet) (p : Printed name) : lib.lower p.text = ofString name := by
  have table : alphabet.all (fun c => [c.toLower, c.toUpper].all fun d =>
      decide ((point d).val < 0x80) && lowerAscii (point d) = point c) = true := by decide +kernel
  have each : ∀ c ∈ alphabet, ∀ x, x = point c.toLower ∨ x = point c.toUpper →
      x.val < 0x80 ∧ lowerAscii x = point c := by
    intro c hc x hx
    have cases := List.all_eq_true.1 (List.all_eq_true.1 table c hc)
    have here : ∀ d ∈ [c.toLower, c.toUpper],
        (point d).val < 0x80 ∧ lowerAscii (point d) = point c := by
      intro d hd
      simpa using cases d hd
    obtain rfl | rfl := hx
    · exact here _ (by simp)
    · exact here _ (by simp)
  have whole : ∀ {word : List Char} {text : PyStr}, word ⊆ alphabet → List.Forall₂
      (fun (c : Char) x => x = point c.toLower ∨ x = point c.toUpper) word text →
      (∀ x ∈ text, x.val < 0x80) ∧ text.map lowerAscii = word.map point := by
    intro word text hword cased
    induction cased with
    | nil => exact ⟨by simp, rfl⟩
    | cons hx _ ih =>
      obtain ⟨ascii, lowered⟩ := each _ (hword List.mem_cons_self) _ hx
      obtain ⟨restAscii, restLowered⟩ := ih fun d hd => hword (List.mem_cons_of_mem _ hd)
      refine ⟨?_, by rw [List.map_cons, List.map_cons, lowered, restLowered]⟩
      intro y hy
      obtain _ | ⟨_, hy⟩ := hy
      · exact ascii
      · exact restAscii y hy
  obtain ⟨ascii, lowered⟩ := whole letters p.cased
  exact (std.lower_ascii p.text ascii).trans lowered

/-- **Every documented name of a month is that month's number.** -/
theorem monthNumber_printed {lib : PyLib} (std : StandardLib lib) {month : Nat} (pos : 1 ≤ month)
    (small : month ≤ 12) {name : String} (isName : name ∈ monthForms month) (p : Printed name) :
    monthNumber lib p.text = some month := by
  have table : (List.range 13).all (fun month => decide (month = 0) ||
      (monthForms month).all fun name =>
        (months.find? fun m => ofString m.1 = ofString name).map (·.2) = some month) = true := by
    decide +kernel
  have here := List.all_eq_true.1 table month (List.mem_range.2 (by omega))
  rw [Bool.or_eq_true] at here
  obtain zero | here := here
  · rw [decide_eq_true_eq] at zero
    omega
  · have found := List.all_eq_true.1 here name isName
    unfold monthNumber
    rw [lower_printed std (tokenNames_letters (monthForms_token isName))]
    simpa using found

/-- A day is written by its digits. -/
theorem number_dayDigits {t : CivilFields} (h : t.day < 100) (padded : Bool) :
    PyStr.number (dayDigits t padded) = t.day := by
  unfold dayDigits
  split
  · rw [number_fixedDigits]
    omega
  · rw [number_fixedDigits]
    omega

/-- The time that a rendering tells: midnight without a clock. -/
def printedTime (clock : Bool) (t : CivilFields) : CivilFields :=
  if clock then t else { t with hour := 0, minute := 0 }

theorem CivilFields.accepted_iff (t : CivilFields) : t.accepted = true ↔
    (1 ≤ t.year ∧ t.year ≤ 9999) ∧ (1 ≤ t.month ∧ t.month ≤ 12) ∧
      (1 ≤ t.day ∧ t.day ≤ daysInMonth t.year t.month) ∧ t.hour < 24 ∧ t.minute < 60 := by
  simp only [CivilFields.accepted, Bool.and_eq_true, decide_eq_true_eq]
  tauto

theorem day_lt {t : CivilFields} (h : t.accepted = true) : t.day < 100 := by
  obtain ⟨-, -, ⟨-, most⟩, -, -⟩ := t.accepted_iff.1 h
  have bound : daysInMonth t.year t.month ≤ 31 := by
    unfold daysInMonth
    split
    · split <;> decide
    · split <;> decide
  omega

theorem printedTime_accepted {t : CivilFields} (h : t.accepted = true) (clock : Bool) :
    (printedTime clock t).accepted = true := by
  cases clock with
  | true => exact h
  | false =>
    obtain ⟨year, month, day, -, -⟩ := t.accepted_iff.1 h
    exact (CivilFields.accepted_iff _).2 ⟨year, month, day, Nat.zero_lt_succ _, Nat.zero_lt_succ _⟩

/-- What a match of a rendering has closed. -/
def StampStyle.closed (t : CivilFields) {month : Nat} (style : StampStyle month) :
    List (Nat × PyStr) :=
  ((style.clock.map (ClockStyle.closed t)).getD []) ++
    [(3, fixedDigits 4 t.year), (2, style.month.text), (1, dayDigits t style.padded)]

section Closed

variable {t : CivilFields} {month : Nat} {style : StampStyle month} {stop : Cursor CodePoint}

theorem closed_date (groups : stop.groups = style.closed t) :
    stop.group 1 = some (dayDigits t style.padded) ∧ stop.group 2 = some style.month.text ∧
      stop.group 3 = some (fixedDigits 4 t.year) := by
  unfold Cursor.group
  rw [groups]
  unfold StampStyle.closed
  rcases style.clock with _ | _ | _ <;> exact ⟨rfl, rfl, rfl⟩

/-- The clock's digits, where the style has one. -/
theorem closed_clock (groups : stop.groups = style.closed t) :
    stop.group (stampClock stop).1 =
        (if style.clock.isSome then some (fixedDigits 2 t.hour) else none) ∧
      stop.group (stampClock stop).2 =
        (if style.clock.isSome then some (fixedDigits 2 t.minute) else none) := by
  unfold stampClock Cursor.group
  rw [groups]
  unfold StampStyle.closed
  rcases style.clock with _ | _ | _ <;> exact ⟨rfl, rfl⟩

theorem closed_fields (accepted : t.accepted = true) (groups : stop.groups = style.closed t) :
    stampFields stop t.month = printedTime style.clock.isSome t := by
  obtain ⟨day, -, year⟩ := closed_date groups
  obtain ⟨hour, minute⟩ := closed_clock groups
  obtain ⟨⟨-, hyear⟩, -, -, hhour, hminute⟩ := t.accepted_iff.1 accepted
  have clock : ∀ n < 60, PyStr.number (fixedDigits 2 n) = n := by
    intro n hn
    rw [number_fixedDigits]
    omega
  have yearValue : PyStr.number (fixedDigits 4 t.year) = t.year := by
    rw [number_fixedDigits]
    omega
  have zero : PyStr.number [] = 0 := rfl
  unfold stampFields stampValue
  rw [day, year, hour, minute]
  cases style.clock with
  | none => simp [printedTime, yearValue, number_dayDigits (day_lt accepted), zero]
  | some style =>
    simp [printedTime, yearValue, number_dayDigits (day_lt accepted), clock t.hour (by omega),
      clock t.minute hminute]

end Closed

/-- **The groups of a rendering are read as its time.** -/
theorem readStamp_closed {lib : PyLib} (std : StandardLib lib) (t : CivilTime)
    (style : StampStyle t.month) (least : yearMin ≤ t.year) (most : t.year ≤ yearMax)
    {start stop : Cursor CodePoint} (groups : stop.groups = style.closed t.toCivilFields) :
    ∃ found, readStamp lib start stop = .ok (some found) ∧
      found.hasTime = style.clock.isSome ∧
      found.localTime.toCivilFields = printedTime style.clock.isSome t.toCivilFields := by
  obtain ⟨-, name, year⟩ := closed_date groups
  obtain ⟨hour, -⟩ := closed_clock groups
  obtain ⟨⟨-, hyear⟩, hmonth, -⟩ := t.accepted_iff.1 t.valid
  have inRange : YearInRange stop := by
    have value : stampValue stop 3 = t.year := by
      unfold stampValue
      rw [year, Option.getD_some, number_fixedDigits]
      omega
    unfold YearInRange
    rw [value]
    exact ⟨least, most⟩
  have month : stampMonth lib stop = some t.month := by
    unfold stampMonth
    rw [name, Option.getD_some]
    exact monthNumber_printed std hmonth.1 hmonth.2 style.isName style.month
  have accepted := printedTime_accepted t.valid style.clock.isSome
  rw [readStamp_of_year inRange, month]
  dsimp only
  rw [closed_fields t.valid groups, CivilFields.datetime, dif_pos accepted]
  refine ⟨_, rfl, ?_, rfl⟩
  show (stop.group (stampClock stop).1).isSome = _
  rw [hour]
  cases style.clock <;> rfl

/-! ## The round trip -/

/-- What follows a stamp: it ends the stamp's last word, and a stamp without a time does
not go on with a clock in it. -/
structure Ends (lib : PyLib) {month : Nat} (style : StampStyle month) (text : PyStr) : Prop where
  word : WordEnds lib text
  bare : style.clock = none → ¬ GoesOn lib style.yearComma text

/-- The answers of the stamp expression at a rendering. -/
theorem run_rendering {lib : PyLib} (std : StandardLib lib) (t : CivilFields) {month : Nat}
    (style : StampStyle month) {text : PyStr} (ends : Ends lib style text) (behind : PyStr) :
    ∃ e others, (stamp lib).run ⟨behind, style.line t
        ((style.clock.map (ClockStyle.line t)).getD [] ++ text), []⟩ = e :: others ∧
      e.groups = style.closed t := by
  obtain ⟨before, hrun⟩ := run_line lib t style behind
    ((style.clock.map (ClockStyle.line t)).getD [] ++ text)
  rw [hrun]
  unfold StampStyle.closed
  cases hclock : style.clock with
  | none =>
    have year : InWord lib (fixedDigits 4 t.year) :=
      inWord_of_forall (plainWord_digits (by decide) t.year).1
        fun x hx => std.digit_isWord x (fixedDigits_digits 4 t.year x hx)
    exact run_bare std year ends.word (ends.bare hclock) before _
  | some clock => exact run_clock std t clock ends.word style.yearComma _ _

/-- **A rendered stamp is read back** as its time, behind text that does not mention the
stamp's first word. -/
theorem parsePageTime_render {lib : PyLib} (std : StandardLib lib) (t : CivilTime)
    (style : StampStyle t.month) (least : yearMin ≤ t.year) (most : t.year ≤ yearMax)
    {front post text : PyStr} (untagged : Untagged front) (silent : ¬ Mentions "current" front)
    (clean : cleanText lib post = some text) (ends : Ends lib style text) :
    ∃ found, parsePageTime lib (front ++ (style.render t.toCivilFields ++ post)) =
        .ok (some found) ∧
      found.hasTime = style.clock.isSome ∧
      found.localTime.toCivilFields = printedTime style.clock.isSome t.toCivilFields := by
  have separated := style.parts_separated t.toCivilFields
  have nonempty : style.parts t.toCivilFields ≠ [] := by simp [StampStyle.parts]
  have whole := cleanText_parts std untagged nonempty separated post
  rw [clean, Option.map_some, partsText_line] at whole
  obtain ⟨e, others, answers, groups⟩ := run_rendering std t.toCivilFields style ends
    (Expr.collapse isSpace (point ' ') false front).reverse
  have first := first_line lib style (fun h => silent (mentions_of_collapse h))
    (by rw [answers]; simp)
  have head : ((stamp lib).run ⟨(Expr.collapse isSpace (point ' ') false front).reverse,
      style.line t.toCivilFields ((style.clock.map (ClockStyle.line t.toCivilFields)).getD [] ++
        text), []⟩).head? = some e := by
    rw [answers]
    rfl
  have parsed := parsePageTime_of_first whole first head
  obtain ⟨found, read, hasTime, localTime⟩ := readStamp_closed std t style least most groups
  exact ⟨found, parsed.trans read, hasTime, localTime⟩

/-! ## What is read as a clock -/

/-- Four digits, perhaps behind a comma, that no `L` follows. -/
def BareNumber (text : PyStr) : Prop :=
  ∃ comma before hhmm more, Blanks before ∧ FourDigits hhmm ∧
    (∀ mark rest, MarkText mark → more ≠ mark ++ rest) ∧
    text = optional comma "," ++ (before ++ (hhmm ++ more))

/-- Blanks end where the first other letter stands. -/
theorem blanks_unique {before before' rest rest' : PyStr} (blanks : Blanks before)
    (blanks' : Blanks before') (hrest : ∀ x ∈ rest.head?, isSpace x = false)
    (hrest' : ∀ x ∈ rest'.head?, isSpace x = false) (h : before ++ rest = before' ++ rest') :
    rest = rest' := by
  have same : before = before' := by
    rw [← Expr.takeWhile_stop before rest blanks hrest, h,
      Expr.takeWhile_stop before' rest' blanks' hrest']
  rw [same] at h
  exact List.append_cancel_left h

theorem fourDigits_head {hhmm : PyStr} (four : FourDigits hhmm) (rest : PyStr) :
    ∀ x ∈ (hhmm ++ rest).head?, (decimalValue x).isSome = true := by
  refine head_word ?_ four.digits rest
  rintro rfl
  cases four.length

/-- A bare number is no clock. -/
theorem not_clockAhead_number {lib : PyLib} {before hhmm more : PyStr} (blanks : Blanks before)
    (four : FourDigits hhmm) (unmarked : ∀ mark rest, MarkText mark → more ≠ mark ++ rest) :
    ¬ ClockAhead lib (before ++ (hhmm ++ more)) := by
  rintro ⟨before', clock, more', blanks', isClock, -, text⟩
  have digits := fourDigits_head four more
  have stops : ∀ x ∈ (hhmm ++ more).head?, isSpace x = false :=
    fun x hx => digit_not_space (digits x hx)
  cases isClock with
  | «at» word some_gap gapBlanks clockFour marked =>
    have atWord : PlainWord word.text := plainWord_printed word (by decide) (by decide)
    rw [List.append_assoc] at text
    have same := blanks_unique blanks blanks' stops (head_plain atWord _) text
    -- `at` would begin with a digit.
    obtain ⟨x, tail, hword⟩ := List.exists_cons_of_ne_nil atWord.1
    have digit := digits x (by rw [same, hword]; rfl)
    rw [printed_not_digit word (by decide) x (by simp [hword])] at digit
    cases digit
  | @marked hhmm' mark clockFour marked =>
    rw [List.append_assoc] at text
    have stops' : ∀ x ∈ (hhmm' ++ (mark ++ more')).head?, isSpace x = false :=
      fun x hx => digit_not_space (fourDigits_head clockFour _ x hx)
    have same := blanks_unique blanks blanks' stops stops' text
    have parts := List.append_inj same (four.length.trans clockFour.length.symm)
    exact unmarked mark more' marked parts.2

theorem not_goesOn_number {lib : PyLib} {comma : Bool} {text : PyStr} (bare : BareNumber text) :
    ¬ GoesOn lib comma text := by
  obtain ⟨comma', before, hhmm, more, blanks, four, unmarked, rfl⟩ := bare
  have number : ¬ ClockAhead lib (before ++ (hhmm ++ more)) :=
    not_clockAhead_number blanks four unmarked
  rintro (clock | ⟨-, rest, hrest, clock⟩)
  · cases comma' with
    | true => exact not_clockAhead_comma _ clock
    | false => exact number clock
  · cases comma' with
    | true =>
      have same : before ++ (hhmm ++ more) = rest := List.tail_eq_of_cons_eq hrest
      exact number (same ▸ clock)
    | false =>
      -- The text begins with a comma, and with a blank or a digit.
      cases before with
      | cons x before =>
        obtain ⟨rfl, -⟩ := List.cons.inj hrest
        exact absurd (blanks (point ',') (by simp)) (by decide)
      | nil =>
        have digit := fourDigits_head four more (point ',') (by
          replace hrest : hhmm ++ more = point ',' :: rest := hrest
          rw [hrest]
          rfl)
        exact absurd digit (by decide)

/-! ## A time has the words of a clock -/

/-- White space around a text that neither begins nor ends with it. -/
theorem strip_clock {lib : PyLib} (std : StandardLib lib) {clock after : PyStr}
    (isClock : ClockText clock) (blanks : Blanks after) (front : PyStr) :
    ∃ front', PyStr.strip (front ++ (clock ++ after)) = front' ++ clock := by
  obtain ⟨x, tail, hx, letter⟩ := clockText_head isClock
  have begins : isSpace x = false := by
    obtain letter | digit := letter
    · by_contra space
      rw [Bool.not_eq_false] at space
      obtain rfl | rfl := ignoreCase_alone (by decide) letter
      · exact absurd space (by decide)
      · exact absurd space (by decide)
    · exact digit_not_space digit
  have left : ∃ front', (front ++ (clock ++ after)).dropWhile isSpace =
      front' ++ (clock ++ after) := by
    rw [List.dropWhile_append]
    split
    · refine ⟨[], ?_⟩
      rw [hx, List.cons_append, List.dropWhile_cons_of_neg (by simp [begins]), List.nil_append]
    · exact ⟨_, rfl⟩
  obtain ⟨front', hleft⟩ := left
  obtain ⟨init, last, hlast, inWord⟩ := clockText_inWord std isClock
  have ends : isSpace last = false := by
    by_contra space
    rw [Bool.not_eq_false] at space
    rw [std.space_isWord last space] at inWord
    cases inWord
  refine ⟨front', ?_⟩
  unfold PyStr.strip
  rw [hleft, List.reverse_append, List.reverse_append, List.append_assoc,
    List.dropWhile_append_of_pos (fun c hc => blanks c (List.mem_reverse.1 hc)), hlast]
  rw [List.reverse_append, List.reverse_singleton, List.singleton_append, List.cons_append,
    List.dropWhile_cons_of_neg (by simp [ends])]
  simp

/-- What the stamp expression matches up to the year. -/
def stampDate : List (Expr CodePoint) :=
  [literal "current", spaces, literal "as", spaces, .opt (.seq [literal "of", spaces]),
    .group 1 (digits 1 2), spaces, .group 2 monthToken, .opt (literal "."), .opt (literal ","),
    spaces, .group 3 (digits 4 4)]

theorem stamp_parts (lib : PyLib) : stamp lib = .seq (stampDate ++ stampTail lib) := rfl

theorem date_indices : (Expr.seq stampDate).indices = [1, 2, 3] := by decide +kernel

/-- **A match with a time ends in a clock.** -/
theorem clock_of_match {lib : PyLib} {start stop : Cursor CodePoint} (place : start.groups = [])
    (h : stop ∈ (stamp lib).run start) (time : (stop.group (stampClock stop).1).isSome = true) :
    ∃ front clock after, ClockText clock ∧ Blanks after ∧
      start.since stop = front ++ (clock ++ after) := by
  rw [stamp_parts, Expr.run_seq_append] at h
  obtain ⟨d, hd, h⟩ := List.mem_flatMap.1 h
  obtain ⟨date, readsDate⟩ := Expr.exists_reads hd
  have unclosed : ∀ i, i = 4 ∨ i = 6 → d.group i = none := by
    intro i hi
    rw [Expr.closed_of_run hd (by rw [date_indices]; obtain rfl | rfl := hi <;> decide)]
    unfold Cursor.group
    rw [place]
    rfl
  obtain ⟨d₁, hd₁, h⟩ := Expr.mem_run_seq_cons.1 h
  obtain ⟨d₂, hd₂, h⟩ := Expr.mem_run_seq_cons.1 h
  obtain ⟨comma, readsComma⟩ := Expr.exists_reads hd₁
  have same : d₁.groups = d.groups := Expr.groups_of_run hd₁ rfl
  obtain rfl := (mem_boundary.1 (mem_seq_one h)).1
  obtain htime | rfl := Expr.mem_run_opt.1 hd₂
  · obtain ⟨before, clock, after, -, isClock, blanks, readsTime⟩ := reads_stampTime htime
    refine ⟨date ++ (comma ++ before), clock, after, isClock, blanks, ?_⟩
    have whole := (readsDate.trans (readsComma.trans readsTime)).since
    rw [whole, List.append_assoc, List.append_assoc]
  · -- Without a time neither group is closed.
    have groups : ∀ i, i = 4 ∨ i = 6 → stop.group i = none := by
      intro i hi
      unfold Cursor.group
      rw [same]
      exact unclosed i hi
    have first : stampClock stop = (6, 7) := by
      unfold stampClock
      rw [groups 4 (.inl rfl)]
      rfl
    rw [first, groups 6 (.inr rfl)] at time
    cases time

/-- **What is answered with a time ends in a clock**: `at` and four digits, with an `L`
or without, or four digits and an `L`. -/
theorem hasTime_clock {lib : PyLib} (std : StandardLib lib) {document : PyStr} {found : PageTime}
    (parsed : parsePageTime lib document = .ok (some found)) (time : found.hasTime = true) :
    ∃ front clock, ClockText clock ∧ found.text = front ++ clock := by
  unfold parsePageTime at parsed
  split at parsed
  · cases parsed
  · split at parsed
    · cases parsed
    · next start stop hsearch =>
      obtain ⟨first, head⟩ := Expr.search_eq_some_iff.1 hsearch
      by_cases year : YearInRange stop
      · rw [readStamp_of_year year] at parsed
        split at parsed
        · cases parsed
        · simp only [Except.ok.injEq, Option.map_eq_some_iff] at parsed
          obtain ⟨localTime, -, rfl⟩ := parsed
          obtain ⟨front, clock, after, isClock, blanks, text⟩ :=
            clock_of_match first.place.2 (List.mem_of_mem_head? head) time
          obtain ⟨front', stripped⟩ := strip_clock std isClock blanks front
          refine ⟨front', clock, isClock, ?_⟩
          show PyStr.strip (start.since stop) = _
          rw [text, stripped]
      · rw [readStamp_of_not_year year] at parsed
        cases parsed

/-! ## A library -/

/-- `html.unescape` as far as `&nbsp;` goes; `skip` counts the letters of the current
entity still ahead. -/
def unescapeNbsp : Nat → PyStr → PyStr
  | _, [] => []
  | skip + 1, _ :: rest => unescapeNbsp skip rest
  | 0, c :: rest =>
    if (ofString "&nbsp;").isPrefixOf (c :: rest) then 0xA0 :: unescapeNbsp 5 rest
    else c :: unescapeNbsp 0 rest

def nbspLib : PyLib :=
  { plainLib with
    isWord c := (decimalValue c).isSome || decide (0x41 ≤ c.val ∧ c.val ≤ 0x5A) ||
      decide (0x61 ≤ c.val ∧ c.val ≤ 0x7A) || c.val == 0x5F
    unescape text := some (unescapeNbsp 0 text) }

theorem unescapeNbsp_word {word : PyStr} (h : point '&' ∉ word) (rest : PyStr) :
    unescapeNbsp 0 (word ++ rest) = word ++ unescapeNbsp 0 rest := by
  induction word with
  | nil => rfl
  | cons c word ih =>
    have other : (ofString "&nbsp;").isPrefixOf (c :: (word ++ rest)) = false := by
      have ne : point '&' ≠ c := fun same => h (same ▸ List.mem_cons_self)
      have letters : ofString "&nbsp;" = point '&' :: ofString "nbsp;" := rfl
      rw [letters, List.isPrefixOf]
      simp [ne]
    rw [List.cons_append, unescapeNbsp, if_neg (by simp [other]),
      ih fun hmem => h (List.mem_cons_of_mem c hmem), List.cons_append]

theorem nbspLib_standard : StandardLib nbspLib where
  lower_ascii text _ := rfl
  unescape_word word rest h := congrArg some (unescapeNbsp_word h rest)
  unescape_nbsp rest := by
    have letters : ofString "&nbsp;" ++ rest = point '&' :: (ofString "nbsp;" ++ rest) := rfl
    have here : (ofString "&nbsp;").isPrefixOf (ofString "&nbsp;" ++ rest) = true := by simp
    show some (unescapeNbsp 0 _) = some (_ :: unescapeNbsp 0 rest)
    rw [letters] at here ⊢
    rw [unescapeNbsp, if_pos here]
    rfl
  digit_isWord c h := by simp [nbspLib, h]
  letter_isWord c h := by
    have value : (point c).val = c.toNat := rfl
    simp only [Char.isAlpha, Char.isUpper, Char.isLower, Bool.or_eq_true, Bool.and_eq_true,
      decide_eq_true_eq, ge_iff_le, UInt32.le_iff_toNat_le] at h
    simp only [nbspLib, Bool.or_eq_true, decide_eq_true_eq, value]
    change (65 ≤ c.toNat ∧ c.toNat ≤ 90) ∨ (97 ≤ c.toNat ∧ c.toNat ≤ 122) at h
    obtain h | h := h
    · exact .inl (.inl (.inr h))
    · exact .inl (.inr h)
  space_isWord c h := by
    have digit := space_not_digit h
    simp only [isSpace, Bool.or_eq_true, Bool.and_eq_true, decide_eq_true_eq, beq_iff_eq] at h
    simp only [nbspLib, digit, Option.isSome_none, Bool.false_or, Bool.or_eq_false_iff,
      decide_eq_false_iff_not, beq_eq_false_iff_ne]
    omega
  comma_isWord := by decide

/-! ## Rendering and parsing -/

def Printed.inLower (word : String) : Printed word where
  text := word.toList.map fun c => point c.toLower
  cased := by
    unfold AnyCase
    rw [List.forall₂_map_right_iff]
    exact List.forall₂_same.2 fun c _ => .inl rfl

def Printed.inUpper (word : String) : Printed word where
  text := word.toList.map fun c => point c.toUpper
  cased := by
    unfold AnyCase
    rw [List.forall₂_map_right_iff]
    exact List.forall₂_same.2 fun c _ => .inr rfl

def nbspGap : Gap := ⟨[.nbsp], by decide⟩

def boldGap : Gap :=
  ⟨[.blank (point ' ') (by decide), .tag (ofString "b") (by decide) (by decide)], by decide⟩

def sampleTime : CivilTime := ⟨⟨2026, 9, 4, 3, 50⟩, by decide⟩

def sampleStyle (clock : Option ClockStyle) : StampStyle 9 where
  current := .inUpper "current"
  afterCurrent := nbspGap
  asWord := .inLower "as"
  afterAs := boldGap
  ofWord := some (.inLower "of", nbspGap)
  padded := false
  afterDay := boldGap
  name := "sept"
  isName := by decide
  month := .inUpper "sept"
  period := true
  comma := false
  afterMonth := boldGap
  yearComma := false
  clock := clock

def sampleClock : ClockStyle :=
  .at boldGap.pieces (.inLower "at") nbspGap (some ([], .inUpper "l"))

/-- **Rendering a stamp and parsing it.** The rendering of a real time from 2020 to 2100
comes back as that time, without a clock as its midnight; a bare number of four digits
after the year is no clock; and whatever is answered with a time ends in a clock. -/
theorem stamp_round_trip {lib : PyLib} (std : StandardLib lib) :
    (∀ (t : CivilTime) (style : StampStyle t.month) (front post text : PyStr),
      2020 ≤ t.year → t.year ≤ 2100 → Untagged front → ¬ Mentions "current" front →
      cleanText lib post = some text → Ends lib style text →
      ∃ found, parsePageTime lib (front ++ (style.render t.toCivilFields ++ post)) =
          .ok (some found) ∧
        found.hasTime = style.clock.isSome ∧
        found.localTime.toCivilFields = printedTime style.clock.isSome t.toCivilFields) ∧
    (∀ (t : CivilTime) (style : StampStyle t.month) (front post text : PyStr),
      2020 ≤ t.year → t.year ≤ 2100 → Untagged front → ¬ Mentions "current" front →
      cleanText lib post = some text → WordEnds lib text → BareNumber text →
      style.clock = none →
      ∃ found, parsePageTime lib (front ++ (style.render t.toCivilFields ++ post)) =
          .ok (some found) ∧
        found.hasTime = false ∧
        found.localTime.toCivilFields = printedTime false t.toCivilFields) ∧
    ∀ (document : PyStr) (found : PageTime), parsePageTime lib document = .ok (some found) →
      found.hasTime = true → ∃ front clock, ClockText clock ∧ found.text = front ++ clock := by
  refine ⟨?_, ?_, fun document found => hasTime_clock std⟩
  · intro t style front post text least most untagged silent clean ends
    exact parsePageTime_render std t style least most untagged silent clean ends
  · intro t style front post text least most untagged silent clean word bare noClock
    have ends : Ends lib style text := ⟨word, fun _ => not_goesOn_number bare⟩
    have read := parsePageTime_render std t style least most untagged silent clean ends
    rwa [noClock] at read

/-- `Seats:CURRENT&nbsp;as <b>of&nbsp;4 <b>SEPT. <b>2026 <b>at&nbsp;0350L</b>`, and the
same date in front of a bare number. -/
theorem stamp_round_trip_sept :
    (∃ found, parsePageTime nbspLib (ofString "Seats:" ++
        ((sampleStyle (some sampleClock)).render sampleTime.toCivilFields ++ ofString "</b>")) =
        .ok (some found) ∧
      found.localTime.toCivilFields = ⟨2026, 9, 4, 3, 50⟩ ∧
      ∃ front clock, ClockText clock ∧ found.text = front ++ clock) ∧
    ∃ found, parsePageTime nbspLib (ofString "Seats:" ++
        ((sampleStyle none).render sampleTime.toCivilFields ++ ofString " 0350")) =
        .ok (some found) ∧ found.hasTime = false ∧
      found.localTime.toCivilFields = ⟨2026, 9, 4, 0, 0⟩ := by
  obtain ⟨timed, bare, words⟩ := stamp_round_trip nbspLib_standard
  have untagged : Untagged (ofString "Seats:") := ⟨by decide, by decide⟩
  have silent : ¬ Mentions "current" (ofString "Seats:") := by
    rintro ⟨p, hp⟩
    have length := hp.length_le
    rw [p.length] at length
    exact absurd length (by decide)
  constructor
  · have clean : cleanText nbspLib (ofString "</b>") = some (ofString " ") := by decide +kernel
    have ends : Ends nbspLib (sampleStyle (some sampleClock)) (ofString " ") := by
      refine ⟨?_, fun h => by cases h⟩
      exact head_blank (by decide) []
    obtain ⟨found, parsed, time, localTime⟩ := timed sampleTime (sampleStyle (some sampleClock)) _
      _ _ (by decide) (by decide) untagged silent clean ends
    exact ⟨found, parsed, localTime, words _ found parsed time⟩
  · have clean : cleanText nbspLib (ofString " 0350") = some (ofString " 0350") := by
      decide +kernel
    have number : BareNumber (ofString " 0350") := by
      have blank : (ofString " ").all isSpace = true := by decide
      have digits : (ofString "0350").all (fun c => (decimalValue c).isSome) = true := by decide
      refine ⟨false, ofString " ", ofString "0350", [], List.all_eq_true.1 blank,
        ⟨List.all_eq_true.1 digits, rfl⟩, ?_, rfl⟩
      rintro mark rest ⟨between, l, -, rfl⟩ empty
      have length := l.length
      simp only [List.append_assoc, List.nil_eq, List.append_eq_nil_iff] at empty
      rw [empty.2.1] at length
      exact absurd length (by decide)
    have word : WordEnds nbspLib (ofString " 0350") := head_blank (by decide) (ofString "0350")
    exact bare sampleTime (sampleStyle none) _ _ _ (by decide) (by decide) untagged silent clean
      word number rfl

end PaxPivot
