import Mathlib
import PaxPivot.Application.Parsers.StampMatch

/-!
# The clock time after the year

`at` and four digits, with an `L` or without, or four digits and an `L`. Where a page
goes on with such a clock, the stamp reads it; elsewhere it reads none.
-/

namespace PaxPivot

open Regex (Expr Cursor)
open Regex.Cursor (Reads)
open PyStr (ofString point literal spaces anySpaces digits isSpace decimalValue ignoreCase)

/-! ## Clocks -/

def Blanks (text : PyStr) : Prop := ∀ c ∈ text, isSpace c = true

/-- `HHMM`. -/
structure FourDigits (text : PyStr) : Prop where
  digits : AllDigits text
  length : text.length = 4

/-- A trailing `L`. -/
def MarkText (text : PyStr) : Prop :=
  ∃ between, ∃ mark : Printed "l", Blanks between ∧ text = between ++ mark.text

/-- The words of a clock. -/
inductive ClockText : PyStr → Prop
  | at (word : Printed "at") {gap hhmm mark : PyStr} (some_gap : gap ≠ []) (blanks : Blanks gap)
      (four : FourDigits hhmm) (marked : mark = [] ∨ MarkText mark) :
      ClockText (word.text ++ (gap ++ (hhmm ++ mark)))
  | marked {hhmm mark : PyStr} (four : FourDigits hhmm) (marked : MarkText mark) :
      ClockText (hhmm ++ mark)

/-- The text is empty or does not go on with a word. -/
def WordEnds (lib : PyLib) (text : PyStr) : Prop := ∀ x ∈ text.head?, lib.isWord x = false

/-- A clock stands here, up to the end of a word. -/
def ClockAhead (lib : PyLib) (text : PyStr) : Prop :=
  ∃ before clock more, Blanks before ∧ ClockText clock ∧ WordEnds lib more ∧
    text = before ++ (clock ++ more)

/-- A stamp without a time goes on with a clock, after a comma of its own if the stamp
has none. -/
def GoesOn (lib : PyLib) (comma : Bool) (text : PyStr) : Prop :=
  ClockAhead lib text ∨ comma = false ∧ ∃ more, text = point ',' :: more ∧ ClockAhead lib more

/-! ## What a clock time has read -/

/-- A letter that only its own cases fold to. -/
def foldsAlone (c : Char) : Bool := c.toLower != 'i' && c.toLower != 's' && c.toLower != 'k'

theorem ignoreCase_alone {c : Char} (alone : foldsAlone c = true) {x : CodePoint}
    (h : ignoreCase c x = true) : x = point c.toLower ∨ x = point c.toUpper := by
  simp only [foldsAlone, Bool.and_eq_true, bne_iff_ne] at alone
  unfold ignoreCase at h
  simp only [Bool.or_eq_true, decide_eq_true_eq] at h
  obtain h | h := h
  · exact h
  · split at h
    · exact absurd ‹_› alone.1.1
    · exact absurd ‹_› alone.1.2
    · exact absurd ‹_› alone.2
    · cases h

/-- What a word of the pattern has read. -/
theorem reads_literal {word : String} (alone : word.toList.all foldsAlone = true)
    {c e : Cursor CodePoint} (h : e ∈ (literal word).run c) :
    ∃ p : Printed word, Reads c p.text e ∧ e.groups = c.groups := by
  rw [literal_eq] at h
  obtain ⟨text, matched, reads, groups⟩ := Expr.reads_sets h
  refine ⟨⟨text, ?_⟩, reads, groups⟩
  rw [List.forall₂_map_left_iff] at matched
  unfold AnyCase
  clear h reads groups
  generalize word.toList = letters at alone matched
  induction matched with
  | nil => exact .nil
  | cons here _ ih =>
    simp only [List.all_cons, Bool.and_eq_true] at alone
    exact .cons (ignoreCase_alone alone.1 here) (ih alone.2)

/-- What a group of two digits has read. -/
theorem reads_two {i : Nat} {c e : Cursor CodePoint}
    (h : e ∈ (Expr.group i (digits 2 2)).run c) :
    ∃ read, AllDigits read ∧ read.length = 2 ∧ Reads c read e ∧
      e.groups = (i, read) :: c.groups := by
  obtain ⟨d, hd, rfl⟩ := List.mem_map.1 h
  obtain ⟨read, all, least, most, reads, groups⟩ := Expr.reads_many hd
  have two : read.length = 2 := Nat.le_antisymm (most 2 rfl) least
  refine ⟨read, all, two, ⟨reads.ahead, reads.behind⟩, ?_⟩
  simp only [groups, reads.since]

/-- The four digits of a clock. -/
theorem reads_four {i j : Nat} {xs : List (Expr CodePoint)} {c e : Cursor CodePoint}
    (h : e ∈ (Expr.seq (.group i (digits 2 2) :: .group j (digits 2 2) :: xs)).run c) :
    ∃ hhmm d, FourDigits hhmm ∧ Reads c hhmm d ∧ e ∈ (Expr.seq xs).run d := by
  obtain ⟨c', hc', h⟩ := Expr.mem_run_seq_cons.1 h
  obtain ⟨d, hd, h⟩ := Expr.mem_run_seq_cons.1 h
  obtain ⟨hour, hourDigits, hourLength, hourReads, -⟩ := reads_two hc'
  obtain ⟨minute, minuteDigits, minuteLength, minuteReads, -⟩ := reads_two hd
  refine ⟨hour ++ minute, d, ⟨?_, ?_⟩, hourReads.trans minuteReads, h⟩
  · intro x hx
    obtain hx | hx := List.mem_append.1 hx
    · exact hourDigits x hx
    · exact minuteDigits x hx
  · rw [List.length_append, hourLength, minuteLength]

theorem reads_blanks {least : Nat} {c e : Cursor CodePoint}
    (h : e ∈ (Expr.many isSpace least none).run c) :
    ∃ read, Blanks read ∧ least ≤ read.length ∧ Reads c read e := by
  obtain ⟨read, all, enough, -, reads, -⟩ := Expr.reads_many h
  exact ⟨read, all, enough, reads⟩

theorem mem_seq_one {x : Expr CodePoint} {c e : Cursor CodePoint}
    (h : e ∈ (Expr.seq [x]).run c) : e ∈ x.run c := by
  obtain ⟨d, hd, h⟩ := Expr.mem_run_seq_cons.1 h
  rwa [List.mem_singleton.1 h]

/-- What the time has read: a clock, with blanks around it; blanks follow it where
it has no `L`. -/
theorem reads_stampTime {c e : Cursor CodePoint} (h : e ∈ stampTime.run c) :
    ∃ before clock after, Blanks before ∧ ClockText clock ∧ Blanks after ∧
      Reads c (before ++ (clock ++ after)) e := by
  unfold stampTime at h
  obtain ⟨d, hd, h⟩ := Expr.mem_run_seq_cons.1 h
  obtain ⟨before, blanks, -, readsBefore⟩ := reads_blanks hd
  obtain h | h := List.mem_append.1 (mem_seq_one h)
  · obtain ⟨d₁, hd₁, h⟩ := Expr.mem_run_seq_cons.1 h
    obtain ⟨d₂, hd₂, h⟩ := Expr.mem_run_seq_cons.1 h
    obtain ⟨word, readsWord, -⟩ := reads_literal (by decide) hd₁
    obtain ⟨gap, gapBlanks, enough, readsGap⟩ := reads_blanks hd₂
    obtain ⟨hhmm, d₃, four, readsFour, h⟩ := reads_four h
    obtain ⟨d₄, hd₄, h⟩ := Expr.mem_run_seq_cons.1 h
    obtain ⟨between, betweenBlanks, -, readsBetween⟩ := reads_blanks hd₄
    have some_gap : gap ≠ [] := List.ne_nil_of_length_pos enough
    obtain h | rfl := Expr.mem_run_opt.1 (mem_seq_one h)
    · obtain ⟨mark, readsMark, -⟩ := reads_literal (by decide) h
      refine ⟨before, _, [], blanks, .at word some_gap gapBlanks four
        (.inr ⟨between, mark, betweenBlanks, rfl⟩), by simp [Blanks], ?_⟩
      rw [List.append_nil]
      exact readsBefore.trans (readsWord.trans (readsGap.trans (readsFour.trans
        (readsBetween.trans readsMark))))
    · refine ⟨before, _, between, blanks, .at word some_gap gapBlanks four (.inl rfl),
        betweenBlanks, ?_⟩
      have reads := readsBefore.trans (readsWord.trans (readsGap.trans (readsFour.trans
        readsBetween)))
      simpa using reads
  · obtain ⟨hhmm, d₁, four, readsFour, h⟩ := reads_four h
    obtain ⟨d₂, hd₂, h⟩ := Expr.mem_run_seq_cons.1 h
    obtain ⟨between, betweenBlanks, -, readsBetween⟩ := reads_blanks hd₂
    obtain ⟨mark, readsMark, -⟩ := reads_literal (by decide) (mem_seq_one h)
    refine ⟨before, _, [], blanks, .marked four ⟨between, mark, betweenBlanks, rfl⟩,
      by simp [Blanks], ?_⟩
    rw [List.append_nil]
    exact readsBefore.trans (readsFour.trans (readsBetween.trans readsMark))

/-! ## Where a clock is read -/

section Clock

variable {lib : PyLib}

/-- The last letter of the text belongs to a word. -/
def InWord (lib : PyLib) (text : PyStr) : Prop :=
  ∃ init last, text = init ++ [last] ∧ lib.isWord last = true

theorem inWord_of_forall {text : PyStr} (ne : text ≠ []) (h : ∀ x ∈ text, lib.isWord x = true) :
    InWord lib text := by
  obtain rfl | ⟨init, last, rfl⟩ := List.eq_nil_or_concat text
  · exact absurd rfl ne
  · exact ⟨init, last, List.concat_eq_append, h last (by simp)⟩

theorem InWord.append {text : PyStr} (h : InWord lib text) (front : PyStr) :
    InWord lib (front ++ text) := by
  obtain ⟨init, last, rfl, letter⟩ := h
  exact ⟨front ++ init, last, by rw [List.append_assoc], letter⟩

theorem fourDigits_inWord (std : StandardLib lib) {text : PyStr} (four : FourDigits text) :
    InWord lib text := by
  refine inWord_of_forall ?_ fun x hx => std.digit_isWord x (four.digits x hx)
  rintro rfl
  cases four.length

theorem letter_word (std : StandardLib lib) {word : String} (p : Printed word)
    (letters : word.toList.all (fun c => c.toLower.isAlpha && c.toUpper.isAlpha) = true) :
    ∀ x ∈ p.text, lib.isWord x = true := by
  apply anyCase_forall p.cased
  rw [List.all_eq_true] at letters ⊢
  intro c hc
  have alpha := letters c hc
  simp only [Bool.and_eq_true] at alpha ⊢
  exact ⟨std.letter_isWord _ alpha.1, std.letter_isWord _ alpha.2⟩

theorem printed_inWord (std : StandardLib lib) {word : String} (p : Printed word)
    (ne : word.toList ≠ [])
    (letters : word.toList.all (fun c => c.toLower.isAlpha && c.toUpper.isAlpha) = true) :
    InWord lib p.text := by
  refine inWord_of_forall ?_ (letter_word std p letters)
  intro empty
  have length := p.length
  rw [empty] at length
  exact ne (List.length_eq_zero_iff.1 length.symm)

/-- A trailing `L` ends in a letter. -/
theorem markText_inWord (std : StandardLib lib) {text : PyStr} (h : MarkText text) :
    InWord lib text := by
  obtain ⟨between, mark, -, rfl⟩ := h
  exact (printed_inWord std mark (by decide) (by decide)).append between

/-- **A clock ends in a letter of a word.** -/
theorem clockText_inWord (std : StandardLib lib) {text : PyStr} (h : ClockText text) :
    InWord lib text := by
  cases h with
  | «at» word some_gap blanks four marked =>
    apply InWord.append
    apply InWord.append
    obtain rfl | marked := marked
    · rw [List.append_nil]
      exact fourDigits_inWord std four
    · exact (markText_inWord std marked).append _
  | marked four marked => exact (markText_inWord std marked).append _

theorem mem_boundary {word : CodePoint → Bool} {c e : Cursor CodePoint} :
    e ∈ (Expr.boundary word).run c ↔
      e = c ∧ c.behind.head?.any word ≠ c.ahead.head?.any word := by
  unfold Expr.run
  split
  case isTrue h => simpa using fun _ => h
  case isFalse h => simpa using fun _ => by simpa using h

/-- Behind a word stands an edge where the word ends. -/
theorem edge_iff {text : PyStr} (inWord : InWord lib text) (behind ahead : PyStr) :
    (text.reverse ++ behind).head?.any lib.isWord ≠ ahead.head?.any lib.isWord ↔
      WordEnds lib ahead := by
  obtain ⟨init, last, rfl, letter⟩ := inWord
  unfold WordEnds
  cases ahead with
  | nil => simp [letter]
  | cons x rest => simp [letter]

/-- **A time that ends where a word ends is a clock of the text.** -/
theorem clockAhead_of_run (std : StandardLib lib) {c e : Cursor CodePoint}
    (h : e ∈ (Expr.seq [stampTime, .boundary lib.isWord]).run c) : ClockAhead lib c.ahead := by
  obtain ⟨d, hd, h⟩ := Expr.mem_run_seq_cons.1 h
  obtain ⟨before, clock, after, beforeBlanks, isClock, afterBlanks, reads⟩ := reads_stampTime hd
  refine ⟨before, clock, after ++ d.ahead, beforeBlanks, isClock, ?_, ?_⟩
  · cases after with
    | cons x after =>
      intro y hy
      obtain rfl : x = y := by simpa using hy
      exact std.space_isWord x (afterBlanks x (by simp))
    | nil =>
      have edge := (mem_boundary.1 (mem_seq_one h)).2
      rw [reads.behind, List.append_nil] at edge
      exact (edge_iff ((clockText_inWord std isClock).append before) _ _).1 edge
  · rw [reads.ahead, List.append_assoc, List.append_assoc]

/-! ## A stamp without a time -/

theorem clockText_head {text : PyStr} (h : ClockText text) :
    ∃ x more, text = x :: more ∧ (ignoreCase 'a' x = true ∨ (decimalValue x).isSome = true) := by
  cases h with
  | «at» word some_gap blanks four marked =>
    obtain ⟨text, cased⟩ := word
    cases cased with
    | cons hx _ =>
      refine ⟨_, _, rfl, .inl ?_⟩
      obtain rfl | rfl := hx <;> decide
  | @marked hhmm mark four marked =>
    cases hhmm with
    | nil => cases four.length
    | cons x hhmm => exact ⟨x, _, rfl, .inr (four.digits x (by simp))⟩

/-- No clock begins with a comma. -/
theorem not_clockAhead_comma (rest : PyStr) : ¬ ClockAhead lib (point ',' :: rest) := by
  rintro ⟨before, clock, more, blanks, isClock, -, text⟩
  cases before with
  | cons x before =>
    obtain ⟨rfl, -⟩ := List.cons.inj text
    exact absurd (blanks (point ',') (by simp)) (by decide)
  | nil =>
    obtain ⟨x, tail, rfl, letter⟩ := clockText_head isClock
    obtain ⟨rfl, -⟩ := List.cons.inj text
    obtain h | h := letter
    · exact absurd h (by decide)
    · exact absurd h (by decide)

theorem printed_comma (p : Printed ",") : p.text = [point ','] := by
  obtain ⟨text, cased⟩ := p
  cases cased with
  | cons hx rest =>
    cases rest
    obtain rfl | rfl := hx <;> rfl

/-- The answers of the end of a stamp that goes on with no clock: no group is closed. -/
theorem stampTail_bare (std : StandardLib lib) {comma : Bool} {text : PyStr}
    (bare : ¬ GoesOn lib comma text) {behind : PyStr} {groups : List (Nat × PyStr)}
    {e : Cursor CodePoint}
    (h : e ∈ (Expr.seq (stampTail lib)).run ⟨behind, optional comma "," ++ text, groups⟩) :
    e.groups = groups := by
  unfold stampTail at h
  obtain ⟨d, hd, htime⟩ := Expr.mem_run_seq_cons.1 h
  obtain ⟨d', hd', hedge⟩ := Expr.mem_run_seq_cons.1 htime
  have closed : d.groups = groups ∧ ¬ ClockAhead lib d.ahead := by
    obtain hd | rfl := Expr.mem_run_opt.1 hd
    · obtain ⟨p, reads, same⟩ := reads_literal (by decide) hd
      have read := reads.ahead
      rw [printed_comma p] at read
      refine ⟨same, fun clock => bare ?_⟩
      cases comma with
      | true =>
        have rest : text = d.ahead := List.tail_eq_of_cons_eq read
        exact .inl (rest ▸ clock)
      | false => exact .inr ⟨rfl, d.ahead, read, clock⟩
    · refine ⟨rfl, fun clock => ?_⟩
      cases comma with
      | true => exact not_clockAhead_comma text clock
      | false => exact bare (.inl clock)
  obtain hd' | rfl := Expr.mem_run_opt.1 hd'
  · refine absurd (clockAhead_of_run std (e := e) ?_) closed.2
    exact Expr.mem_run_seq_cons.2 ⟨d', hd', hedge⟩
  · rw [(mem_boundary.1 (mem_seq_one hedge)).1]
    exact closed.1

theorem optional_comma_ends (std : StandardLib lib) (comma : Bool) {text : PyStr}
    (ends : WordEnds lib text) : WordEnds lib (optional comma "," ++ text) :=
  head_optional rfl std.comma_isWord ends

/-- **Without a clock the stamp ends at the year.** -/
theorem run_bare (std : StandardLib lib) {year : PyStr} (inWord : InWord lib year) {comma : Bool}
    {text : PyStr} (ends : WordEnds lib text) (bare : ¬ GoesOn lib comma text) (behind : PyStr)
    (groups : List (Nat × PyStr)) :
    ∃ e others, (Expr.seq (stampTail lib)).run
        ⟨year.reverse ++ behind, optional comma "," ++ text, groups⟩ = e :: others ∧
      e.groups = groups := by
  have here : (⟨year.reverse ++ behind, optional comma "," ++ text, groups⟩ : Cursor CodePoint) ∈
      (Expr.seq (stampTail lib)).run
        ⟨year.reverse ++ behind, optional comma "," ++ text, groups⟩ := by
    have edge := (edge_iff inWord behind _).2 (optional_comma_ends std comma ends)
    apply Expr.mem_run_seq_cons.2
    refine ⟨_, Expr.mem_run_opt.2 (.inr rfl), ?_⟩
    apply Expr.mem_run_seq_cons.2
    refine ⟨_, Expr.mem_run_opt.2 (.inr rfl), ?_⟩
    apply Expr.mem_run_seq_cons.2
    exact ⟨_, mem_boundary.2 ⟨rfl, edge⟩, List.mem_singleton.2 rfl⟩
  obtain ⟨e, others, answers⟩ := List.exists_cons_of_ne_nil (List.ne_nil_of_mem here)
  exact ⟨e, others, answers, stampTail_bare std bare (answers ▸ List.mem_cons_self)⟩

/-! ## A stamp with a time -/

/-- A gap is passed in one way in front of a word. -/
theorem run_gap {xs : List (Expr CodePoint)}
    (dead : ∀ c : Cursor CodePoint, c.ahead.head? = some (point ' ') → (Expr.seq xs).run c = [])
    (pieces : List Piece) {rest : PyStr} (hrest : ∀ x ∈ rest.head?, isSpace x = false)
    (behind : PyStr) (groups : List (Nat × PyStr)) :
    (Expr.seq (anySpaces :: xs)).run ⟨behind, gapText pieces ++ rest, groups⟩ =
      (Expr.seq xs).run ⟨(gapText pieces).reverse ++ behind, rest, groups⟩ := by
  unfold gapText
  split
  · exact Expr.run_seq_pass (Expr.run_many_zero hrest) (by simp)
  · apply Expr.run_seq_pass (Expr.run_many_one (by decide) hrest).2
    intro e he
    rw [List.mem_singleton.1 he]
    exact dead _ rfl

/-- The groups that a clock closes. -/
def ClockStyle.closed (t : CivilFields) : ClockStyle → List (Nat × PyStr)
  | .at _ _ _ _ => [(5, fixedDigits 2 t.minute), (4, fixedDigits 2 t.hour)]
  | .marked _ _ _ => [(7, fixedDigits 2 t.minute), (6, fixedDigits 2 t.hour)]

theorem run_clockDigits (t : CivilFields) (i j : Nat) (xs : List (Expr CodePoint))
    (behind rest : PyStr) (groups : List (Nat × PyStr)) :
    (Expr.seq (.group i (digits 2 2) :: .group j (digits 2 2) :: xs)).run
        ⟨behind, clockDigits t ++ rest, groups⟩ =
      (Expr.seq xs).run ⟨(clockDigits t).reverse ++ behind, rest,
        (j, fixedDigits 2 t.minute) :: (i, fixedDigits 2 t.hour) :: groups⟩ := by
  have two : ∀ n, AllDigits (fixedDigits 2 n) := fun n => fixedDigits_digits 2 n
  unfold clockDigits
  rw [List.append_assoc, Expr.run_seq_pass (run_number (two t.hour) (by simp) _ _ _) (by simp),
    Expr.run_seq_pass (run_number (two t.minute) (by simp) _ _ _) (by simp), List.reverse_append,
    List.append_assoc]

def clockAt : List (Expr CodePoint) :=
  [literal "at", spaces, .group 4 (digits 2 2), .group 5 (digits 2 2), anySpaces,
    .opt (literal "l")]

def clockMarked : List (Expr CodePoint) :=
  [.group 6 (digits 2 2), .group 7 (digits 2 2), anySpaces, literal "l"]

theorem stampTime_eq :
    stampTime = .seq [anySpaces, .alt (.seq clockAt) (.seq clockMarked)] := rfl

theorem run_clocks (c : Cursor CodePoint) :
    (Expr.seq [.alt (.seq clockAt) (.seq clockMarked)]).run c =
      (Expr.seq clockAt).run c ++ (Expr.seq clockMarked).run c := by
  rw [Expr.run_seq_cons]
  exact List.flatMap_singleton' _

theorem clockAt_dead {c : Cursor CodePoint} (h : ∀ x ∈ c.ahead.head?, ignoreCase 'a' x = false) :
    (Expr.seq clockAt).run c = [] := Expr.run_seq_dead (run_literal_dead rfl h)

theorem clockMarked_dead {c : Cursor CodePoint}
    (h : ∀ x ∈ c.ahead.head?, (decimalValue x).isSome = false) :
    (Expr.seq clockMarked).run c = [] := by
  apply Expr.run_seq_dead
  show ((digits 2 2).run c).map _ = []
  rw [List.map_eq_nil_iff]
  exact Expr.run_many_nil (by decide) h

theorem clocks_dead (c : Cursor CodePoint) (h : c.ahead.head? = some (point ' ')) :
    (Expr.seq [.alt (.seq clockAt) (.seq clockMarked)]).run c = [] := by
  have only : ∀ x ∈ c.ahead.head?, x = point ' ' := by simp [h]
  rw [run_clocks, clockAt_dead, clockMarked_dead, List.append_nil]
  · intro x hx
    rw [only x hx]
    decide
  · intro x hx
    rw [only x hx]
    decide

section Forms

variable (t : CivilFields) (pieces : List Piece) (behind rest : PyStr) (groups : List (Nat × PyStr))

/-- `at` and four digits are read in one way, up to the `L`. -/
theorem run_at (word : Printed "at") :
    ∃ before, stampTime.run ⟨behind,
        gapText pieces ++ (word.text ++ point ' ' :: (clockDigits t ++ rest)), groups⟩ =
      (Expr.seq [anySpaces, .opt (literal "l")]).run ⟨(clockDigits t).reverse ++ before, rest,
        (5, fixedDigits 2 t.minute) :: (4, fixedDigits 2 t.hour) :: groups⟩ := by
  have atWord : PlainWord word.text := plainWord_printed word (by decide) (by decide)
  have noDigit := head_word (P := fun x => (decimalValue x).isSome = false) atWord.1
    (printed_not_digit word (by decide)) (point ' ' :: (clockDigits t ++ rest))
  rw [stampTime_eq, run_gap clocks_dead _ (head_plain atWord _), run_clocks,
    clockMarked_dead noDigit, List.append_nil, clockAt,
    Expr.run_seq_pass (run_printed word _ _ _) (by simp),
    Expr.run_seq_pass (run_blank _ _ (head_plain (plainWord_clock t) _)) (by simp),
    run_clockDigits]
  exact ⟨_, rfl⟩

/-- So are four digits in front of an `L`. -/
theorem run_marked :
    ∃ before, stampTime.run ⟨behind, gapText pieces ++ (clockDigits t ++ rest), groups⟩ =
      (Expr.seq [anySpaces, literal "l"]).run ⟨(clockDigits t).reverse ++ before, rest,
        (7, fixedDigits 2 t.minute) :: (6, fixedDigits 2 t.hour) :: groups⟩ := by
  have digitsWord := plainWord_clock t
  have letters : ∀ x ∈ clockDigits t, ignoreCase 'a' x = false := by
    intro x hx
    obtain hx | hx := List.mem_append.1 hx <;> exact fixedDigits_letter (by decide) hx
  rw [stampTime_eq, run_gap clocks_dead _ (head_plain digitsWord _), run_clocks,
    clockAt_dead (head_word digitsWord.1 letters rest), List.nil_append, clockMarked,
    run_clockDigits]
  exact ⟨_, rfl⟩

end Forms

theorem inWord_clockDigits (std : StandardLib lib) (t : CivilFields) :
    InWord lib (clockDigits t) := by
  refine inWord_of_forall (plainWord_clock t).1 fun x hx => ?_
  obtain hx | hx := List.mem_append.1 hx <;> exact std.digit_isWord x (fixedDigits_digits _ _ x hx)

theorem mem_gap (pieces : List Piece) (behind rest : PyStr) (groups : List (Nat × PyStr)) :
    ⟨(gapText pieces).reverse ++ behind, rest, groups⟩ ∈
      anySpaces.run ⟨behind, gapText pieces ++ rest, groups⟩ := by
  apply Expr.mem_run_many.2
  refine ⟨(gapText pieces).length, Nat.zero_le _, ?_, (Cursor.advance_append _ _ _ _).symm⟩
  have blanks : ∀ c ∈ gapText pieces, isSpace c = true := by
    intro c hc
    unfold gapText at hc
    split at hc
    · cases hc
    · rw [List.mem_singleton.1 hc]
      decide
  show _ ≤ ((gapText pieces ++ rest).takeWhile isSpace).length
  rw [List.takeWhile_append_of_pos blanks, List.length_append]
  omega

theorem ClockStyle.line_eq (t : CivilFields) (style : ClockStyle) :
    style.line t = match style with
      | .at before word _ none => gapText before ++ (word.text ++ point ' ' :: clockDigits t)
      | .at before word _ (some (between, mark)) =>
        gapText before ++ (word.text ++ point ' ' ::
          (clockDigits t ++ (gapText between ++ mark.text)))
      | .marked before between mark =>
        gapText before ++ (clockDigits t ++ (gapText between ++ mark.text)) := by
  have none : gapText [] = [] := rfl
  cases style with
  | «at» before word after mark =>
    cases mark <;> simp [ClockStyle.line, ClockStyle.parts, ClockStyle.before, partsText, none,
      gapText_gap]
  | marked before between mark =>
    simp [ClockStyle.line, ClockStyle.parts, ClockStyle.before, partsText, none]

/-- An answer that ends where a word ends. -/
def Ending (lib : PyLib) (answers : List (Cursor CodePoint)) : Prop :=
  ∃ e ∈ answers, e ∈ (Expr.boundary lib.isWord).run e

/-- A trailing mark is read to its end. -/
theorem ending_mark (std : StandardLib lib) {text : PyStr} (ends : WordEnds lib text)
    {x : Expr CodePoint} (hx : ∀ c, ∀ e ∈ (literal "l").run c, e ∈ x.run c)
    (between : List Piece) (mark : Printed "l") (behind : PyStr) (groups : List (Nat × PyStr)) :
    Ending lib ((Expr.seq [anySpaces, x]).run
      ⟨behind, gapText between ++ (mark.text ++ text), groups⟩) := by
  have letter := printed_inWord std mark (by decide) (by decide)
  refine ⟨⟨mark.text.reverse ++ ((gapText between).reverse ++ behind), text, groups⟩, ?_,
    mem_boundary.2 ⟨rfl, (edge_iff letter _ _).2 ends⟩⟩
  apply Expr.mem_run_seq_cons.2
  refine ⟨_, mem_gap _ _ _ _, ?_⟩
  apply Expr.mem_run_seq_cons.2
  refine ⟨_, hx _ _ ?_, List.mem_singleton.2 rfl⟩
  rw [run_printed]
  exact List.mem_singleton.2 rfl

/-- Four digits are read to their end. -/
theorem ending_digits (std : StandardLib lib) (t : CivilFields) {text : PyStr}
    (ends : WordEnds lib text) (behind : PyStr) (groups : List (Nat × PyStr)) :
    Ending lib ((Expr.seq [anySpaces, .opt (literal "l")]).run
      ⟨(clockDigits t).reverse ++ behind, text, groups⟩) := by
  refine ⟨⟨(clockDigits t).reverse ++ behind, text, groups⟩, ?_,
    mem_boundary.2 ⟨rfl, (edge_iff (inWord_clockDigits std t) _ _).2 ends⟩⟩
  apply Expr.mem_run_seq_cons.2
  refine ⟨_, mem_gap [] _ _ _, ?_⟩
  apply Expr.mem_run_seq_cons.2
  exact ⟨_, Expr.mem_run_opt.2 (.inr rfl), List.mem_singleton.2 rfl⟩

/-- **A printed clock is read**: its digits close the groups of its form, and an answer
ends where the word ends. -/
theorem run_clockStyle (std : StandardLib lib) (t : CivilFields) (style : ClockStyle) {text : PyStr}
    (ends : WordEnds lib text) (behind : PyStr) (groups : List (Nat × PyStr)) :
    (∀ e ∈ stampTime.run ⟨behind, style.line t ++ text, groups⟩,
      e.groups = style.closed t ++ groups) ∧
    Ending lib (stampTime.run ⟨behind, style.line t ++ text, groups⟩) := by
  rw [style.line_eq]
  cases style with
  | «at» before word after mark =>
    cases mark with
    | none =>
      have parts : gapText before ++ (word.text ++ point ' ' :: clockDigits t) ++ text =
        gapText before ++ (word.text ++ point ' ' :: (clockDigits t ++ text)) := by simp
      obtain ⟨back, hrun⟩ := run_at t before behind text groups word
      dsimp only
      rw [parts, hrun]
      exact ⟨fun e he => Expr.groups_of_run he rfl, ending_digits std t ends _ _⟩
    | some mark =>
      obtain ⟨between, mark⟩ := mark
      have parts : gapText before ++ (word.text ++ point ' ' ::
          (clockDigits t ++ (gapText between ++ mark.text))) ++ text =
        gapText before ++ (word.text ++ point ' ' ::
          (clockDigits t ++ (gapText between ++ (mark.text ++ text)))) := by simp
      obtain ⟨back, hrun⟩ := run_at t before behind
        (gapText between ++ (mark.text ++ text)) groups word
      dsimp only
      rw [parts, hrun]
      refine ⟨fun e he => Expr.groups_of_run he rfl, ending_mark std ends ?_ _ mark _ _⟩
      intro c e he
      exact Expr.mem_run_opt.2 (.inl he)
  | marked before between mark =>
    have parts : gapText before ++ (clockDigits t ++ (gapText between ++ mark.text)) ++ text =
      gapText before ++ (clockDigits t ++ (gapText between ++ (mark.text ++ text))) := by simp
    obtain ⟨back, hrun⟩ := run_marked t before behind
      (gapText between ++ (mark.text ++ text)) groups
    dsimp only
    rw [parts, hrun]
    exact ⟨fun e he => Expr.groups_of_run he rfl,
      ending_mark std ends (fun c e he => he) _ mark _ _⟩

/-- No printed clock begins with a comma. -/
theorem clockStyle_head (t : CivilFields) (style : ClockStyle) (text : PyStr) :
    ∀ x ∈ (style.line t ++ text).head?, ignoreCase ',' x = false := by
  have gap : ∀ (pieces : List Piece) {word : PyStr}, word ≠ [] →
      (∀ x ∈ word, ignoreCase ',' x = false) → ∀ rest,
      ∀ x ∈ (gapText pieces ++ (word ++ rest)).head?, ignoreCase ',' x = false := by
    intro pieces word ne hword rest
    unfold gapText
    split
    · exact head_word ne hword rest
    · exact head_blank (by decide) _
  have digits : ∀ x ∈ clockDigits t, ignoreCase ',' x = false := by
    intro x hx
    obtain hx | hx := List.mem_append.1 hx <;> exact fixedDigits_letter (by decide) hx
  have letters : ∀ word : Printed "at", word.text ≠ [] ∧
      ∀ x ∈ word.text, ignoreCase ',' x = false := by
    intro word
    refine ⟨(plainWord_printed word (by decide) (by decide)).1, fun x hx => ?_⟩
    have here := anyCase_forall (P := fun x => !ignoreCase ',' x) word.cased (by decide) x hx
    simpa using here
  rw [style.line_eq]
  cases style with
  | «at» before word after mark =>
    cases mark <;> dsimp only <;> rw [List.append_assoc, List.append_assoc] <;>
      exact gap before (letters word).1 (letters word).2 _
  | marked before between mark =>
    dsimp only
    rw [List.append_assoc, List.append_assoc]
    exact gap before (plainWord_clock t).1 digits _

/-- **With a clock the stamp ends behind it.** -/
theorem run_clock (std : StandardLib lib) (t : CivilFields) (style : ClockStyle) {text : PyStr}
    (ends : WordEnds lib text) (comma : Bool) (behind : PyStr) (groups : List (Nat × PyStr)) :
    ∃ e others, (Expr.seq (stampTail lib)).run
        ⟨behind, optional comma "," ++ (style.line t ++ text), groups⟩ = e :: others ∧
      e.groups = style.closed t ++ groups := by
  have read : ∀ behind, ∃ e others, (Expr.seq [.opt stampTime, .boundary lib.isWord]).run
      ⟨behind, style.line t ++ text, groups⟩ = e :: others ∧
        e.groups = style.closed t ++ groups := by
    intro behind
    obtain ⟨closed, e, he, edge⟩ := run_clockStyle std t style ends behind groups
    have some_end : (stampTime.run ⟨behind, style.line t ++ text, groups⟩).flatMap
        (Expr.seq [.boundary lib.isWord]).run ≠ [] := by
      apply List.ne_nil_of_mem (a := e)
      apply List.mem_flatMap.2
      refine ⟨e, he, ?_⟩
      apply Expr.mem_run_seq_cons.2
      exact ⟨e, edge, List.mem_singleton.2 rfl⟩
    obtain ⟨first, others, answers⟩ := List.exists_cons_of_ne_nil some_end
    obtain ⟨d, hd, hfirst⟩ := List.mem_flatMap.1 (answers ▸ List.mem_cons_self)
    obtain rfl := (mem_boundary.1 (mem_seq_one hfirst)).1
    rw [Expr.run_seq_cons, Expr.opt, Expr.run, List.flatMap_append, answers, List.cons_append]
    exact ⟨first, _, rfl, closed first hd⟩
  unfold stampTail
  cases comma with
  | false =>
    have failed : (Expr.opt (literal ",")).run ⟨behind, style.line t ++ text, groups⟩ =
        [⟨behind, style.line t ++ text, groups⟩] :=
      Expr.run_opt_of_nil (run_literal_dead rfl (clockStyle_head t style text))
    obtain ⟨e, others, answers, same⟩ := read behind
    refine ⟨e, others, ?_, same⟩
    exact (Expr.run_seq_pass failed (by simp)).trans answers
  | true =>
    obtain ⟨e, others, answers, same⟩ := read (point ',' :: behind)
    have passed : (Expr.opt (literal ",")).run
        ⟨behind, point ',' :: (style.line t ++ text), groups⟩ =
        [⟨point ',' :: behind, style.line t ++ text, groups⟩,
          ⟨behind, point ',' :: (style.line t ++ text), groups⟩] :=
      Expr.run_opt_of_some (run_mark rfl (by decide) behind _ groups)
    have text : optional true "," ++ (style.line t ++ text) =
        point ',' :: (style.line t ++ text) := rfl
    rw [text, Expr.run_seq_cons, passed, List.flatMap_cons, answers, List.cons_append]
    exact ⟨e, _, rfl, same⟩

end Clock

end PaxPivot
