import Mathlib
import PaxPivot.Application.Parsers.StampText

/-!
# Matching a cleaned stamp

The stamp expression on the words of a rendering with one blank in each gap: it passes
the words one by one, up to the year, in one way only. What is left is the choice of a
clock time.
-/

namespace PaxPivot

open Regex (Expr Cursor)
open PyStr (ofString point literal spaces anySpaces digits isSpace decimalValue ignoreCase)

/-! ## The line of a stamp -/

/-- The words of a rendering up to the year, one blank in each gap, in front of `rest`. -/
def StampStyle.line (t : CivilFields) {month : Nat} (style : StampStyle month) (rest : PyStr) :
    PyStr :=
  style.current.text ++ point ' ' :: (style.asWord.text ++ point ' ' ::
    ((style.ofWord.toList.flatMap fun word => word.1.text ++ [point ' ']) ++
      (dayDigits t style.padded ++ point ' ' :: (style.month.text ++
        (optional style.period "." ++ (optional style.comma "," ++ point ' ' ::
          (fixedDigits 4 t.year ++ (optional style.yearComma "," ++ rest))))))))

/-- The words of the clock time. -/
def ClockStyle.line (t : CivilFields) (style : ClockStyle) : PyStr :=
  gapText style.before ++ partsText gapText (style.parts t)

theorem gapText_gap (gap : Gap) : gapText gap.pieces = [point ' '] := by
  unfold gapText
  rw [if_neg (by simpa using gap.nonempty)]

theorem partsText_line (t : CivilFields) {month : Nat} (style : StampStyle month) (rest : PyStr) :
    partsText gapText (style.parts t) ++ rest =
      style.line t ((style.clock.map (ClockStyle.line t)).getD [] ++ rest) := by
  have blank := gapText_gap
  have none : gapText [] = [] := rfl
  cases hword : style.ofWord <;> cases hclock : style.clock <;>
    simp [StampStyle.parts, StampStyle.line, ClockStyle.line, partsText, hword, hclock, blank, none]

/-! ## Words -/

theorem literal_eq (word : String) :
    literal word = Expr.seq ((word.toList.map ignoreCase).map .set) := by
  simp [literal, List.map_map, Function.comp_def]

/-- A pattern's word reads the printed word. -/
theorem run_printed {word : String} (p : Printed word) (behind rest : PyStr)
    (groups : List (Nat × PyStr)) :
    (literal word).run ⟨behind, p.text ++ rest, groups⟩ =
      [⟨p.text.reverse ++ behind, rest, groups⟩] := by
  have matched : List.Forall₂ (fun (set : CodePoint → Bool) x => set x = true)
      (word.toList.map ignoreCase) p.text := by
    rw [List.forall₂_map_left_iff]
    apply p.cased.imp
    intro c x hx
    obtain rfl | rfl := hx <;> simp [ignoreCase]
  have length : (word.toList.map ignoreCase).length = p.text.length := by
    rw [List.length_map, p.length]
  rw [literal_eq, Expr.run_sets, if_pos (Expr.starts_append matched rest), length,
    Cursor.advance_append]

/-- A pattern's word fails on another first letter. -/
theorem run_literal_dead {word : String} {first : Char} {more : List Char}
    (hword : word.toList = first :: more) {c : Cursor CodePoint}
    (h : ∀ x ∈ c.ahead.head?, ignoreCase first x = false) : (literal word).run c = [] := by
  rw [literal_eq, hword, Expr.run_sets, if_neg]
  obtain ⟨behind, ahead, groups⟩ := c
  cases ahead with
  | nil => simp [Expr.starts]
  | cons x rest => simp [Expr.starts, h x rfl]

/-- A mark of the pattern reads itself. -/
theorem run_mark {word : String} {mark : Char} (hword : word.toList = [mark])
    (hmark : ignoreCase mark (point mark) = true) (behind rest : PyStr)
    (groups : List (Nat × PyStr)) :
    (literal word).run ⟨behind, point mark :: rest, groups⟩ =
      [⟨point mark :: behind, rest, groups⟩] := by
  rw [literal_eq, Expr.run_sets, hword, if_pos (by simp [Expr.starts, hmark])]
  rfl

/-- A blank in a gap. -/
theorem run_blank (behind : PyStr) {rest : PyStr} (groups : List (Nat × PyStr))
    (hrest : ∀ x ∈ rest.head?, isSpace x = false) :
    spaces.run ⟨behind, point ' ' :: rest, groups⟩ = [⟨point ' ' :: behind, rest, groups⟩] :=
  (Expr.run_many_one (by decide) hrest).1

theorem run_spaces_dead {c : Cursor CodePoint} (h : ∀ x ∈ c.ahead.head?, isSpace x = false) :
    spaces.run c = [] := Expr.run_many_nil (by decide) h

theorem head_plain {word : PyStr} (h : PlainWord word) (rest : PyStr) :
    ∀ x ∈ (word ++ rest).head?, isSpace x = false := by
  obtain ⟨c, more, rfl⟩ := List.exists_cons_of_ne_nil h.1
  intro x hx
  obtain rfl : c = x := by simpa using hx
  exact plain_not_space (h.2 c (by simp))

/-! ## Numbers -/

/-- Digits of any script. -/
def AllDigits (word : PyStr) : Prop := ∀ c ∈ word, (decimalValue c).isSome = true

theorem fixedDigits_digits (width n : Nat) : AllDigits (fixedDigits width n) :=
  fun _ hc => (fixedDigits_plain hc).2

/-- A group of a fixed number of digits. -/
theorem run_number {i width : Nat} {word : PyStr} (hword : AllDigits word)
    (hlength : word.length = width) (behind rest : PyStr) (groups : List (Nat × PyStr)) :
    (Expr.group i (digits width width)).run ⟨behind, word ++ rest, groups⟩ =
      [⟨word.reverse ++ behind, rest, (i, word) :: groups⟩] := by
  subst hlength
  show ((digits word.length word.length).run _).map _ = _
  rw [show digits word.length word.length = Expr.many (fun c => (decimalValue c).isSome)
    word.length (some word.length) from rfl, Expr.run_many_exact hword, List.map_singleton,
    Cursor.since_append]

/-- The day reads all its digits, and falls back on fewer. -/
theorem run_day {word rest : PyStr} (hword : AllDigits word)
    (hlength : word.length = 1 ∨ word.length = 2)
    (hrest : ∀ x ∈ rest.head?, (decimalValue x).isSome = false) (behind : PyStr)
    (groups : List (Nat × PyStr)) :
    ∃ others, (Expr.group 1 (digits 1 2)).run ⟨behind, word ++ rest, groups⟩ =
      ⟨word.reverse ++ behind, rest, (1, word) :: groups⟩ :: others ∧
      ∀ d ∈ others, ∃ x ∈ d.ahead.head?, (decimalValue x).isSome = true := by
  obtain ⟨others, hrun, hothers⟩ := Expr.run_many_two hword hrest hlength behind groups
  refine ⟨others.map fun d =>
    { d with groups := (1, Cursor.since ⟨behind, word ++ rest, groups⟩ d) :: d.groups }, ?_, ?_⟩
  · show ((digits 1 2).run _).map _ = _
    rw [show digits 1 2 = Expr.many (fun c => (decimalValue c).isSome) 1 (some 2) from rfl, hrun,
      List.map_cons, Cursor.since_append]
  · intro d hd
    obtain ⟨e, he, rfl⟩ := List.mem_map.1 hd
    exact hothers e he

/-- The values of white space. -/
def spaceValues : List Nat :=
  [9, 10, 11, 12, 13, 0x1C, 0x1D, 0x1E, 0x1F, 0x20, 0x85, 0xA0, 0x1680, 0x2000, 0x2001, 0x2002,
    0x2003, 0x2004, 0x2005, 0x2006, 0x2007, 0x2008, 0x2009, 0x200A, 0x2028, 0x2029, 0x202F, 0x205F,
    0x3000]

theorem space_not_digit {c : CodePoint} (h : isSpace c = true) : decimalValue c = none := by
  have values : spaceValues.all (fun n => decimalValue (Fin.ofNat _ n) = none) = true := by
    decide +kernel
  have listed : c.val ∈ spaceValues := by
    simp only [isSpace, Bool.or_eq_true, Bool.and_eq_true, decide_eq_true_eq, beq_iff_eq] at h
    simp only [spaceValues, List.mem_cons, List.not_mem_nil, or_false]
    omega
  have here := List.all_eq_true.1 values c.val listed
  rw [decide_eq_true_eq] at here
  rwa [show Fin.ofNat 0x110000 c.val = c from Fin.ext (Nat.mod_eq_of_lt c.isLt)] at here

theorem digit_not_space {c : CodePoint} (h : (decimalValue c).isSome = true) :
    isSpace c = false := by
  by_contra space
  rw [Bool.not_eq_false] at space
  rw [space_not_digit space] at h
  cases h

/-! ## The month -/

def alphabet : List Char :=
  ['a', 'b', 'c', 'd', 'e', 'f', 'g', 'h', 'i', 'j', 'k', 'l', 'm', 'n', 'o', 'p', 'q', 'r', 's',
    't', 'u', 'v', 'w', 'x', 'y', 'z']

/-- A letter of a pattern stands for itself only, of the printed letters; and for none of
the marks after a month. -/
theorem ignoreCase_letter {c d : Char} (hc : c ∈ alphabet) (hd : d ∈ alphabet) {x : CodePoint}
    (hx : x = point d.toLower ∨ x = point d.toUpper) : ignoreCase c x = (c == d) := by
  have table : alphabet.all (fun c => alphabet.all fun d =>
      (ignoreCase c (point d.toLower) == (c == d)) &&
        (ignoreCase c (point d.toUpper) == (c == d))) = true := by decide +kernel
  have here := List.all_eq_true.1 (List.all_eq_true.1 table c hc) d hd
  simp only [Bool.and_eq_true, beq_iff_eq] at here
  obtain rfl | rfl := hx
  · exact here.1
  · exact here.2

/-- What follows a month's name: no letter of a pattern stands for it. -/
def MonthEnd (rest : PyStr) : Prop := ∀ c ∈ alphabet, ∀ x ∈ rest.head?, ignoreCase c x = false

theorem monthEnd_cons {x : CodePoint} (rest : PyStr)
    (hx : x = point '.' ∨ x = point ',' ∨ x = point ' ') : MonthEnd (x :: rest) := by
  have table : alphabet.all (fun c => !ignoreCase c (point '.') && !ignoreCase c (point ',') &&
      !ignoreCase c (point ' ')) = true := by decide +kernel
  intro c hc y hy
  obtain rfl : x = y := by simpa using hy
  have here := List.all_eq_true.1 table c hc
  simp only [Bool.and_eq_true, Bool.not_eq_true'] at here
  obtain rfl | rfl | rfl := hx
  exacts [here.1.1, here.1.2, here.2]

/-- A name of the table stands at a printed name when it is a part of it from the
start. -/
theorem starts_month {name word : List Char} {text rest : PyStr} (hname : name ⊆ alphabet)
    (hword : word ⊆ alphabet) (ends : MonthEnd rest)
    (cased : List.Forall₂ (fun (c : Char) x => x = point c.toLower ∨ x = point c.toUpper)
      word text) :
    Expr.starts (name.map ignoreCase) (text ++ rest) = name.isPrefixOf word := by
  induction cased generalizing name with
  | nil =>
    cases name with
    | nil => rfl
    | cons c name =>
      cases rest with
      | nil => rfl
      | cons x rest => simp [Expr.starts, ends c (hname (by simp)) x rfl]
  | @cons d x word text hx _ ih =>
    cases name with
    | nil => rfl
    | cons c name =>
      have letter := ignoreCase_letter (hname List.mem_cons_self) (hword List.mem_cons_self) hx
      simp only [List.map_cons, List.cons_append, Expr.starts, letter, List.isPrefixOf]
      rw [ih (fun e he => hname (by simp [he])) fun e he => hword (by simp [he])]

/-- The names of the pattern, the longer ones first. -/
def tokenNames : List String :=
  (months.map (·.1)).insertionSort fun a b => b.length ≤ a.length

theorem tokenNames_distinct : tokenNames.Nodup := by decide +kernel

theorem tokenNames_letters {name : String} (h : name ∈ tokenNames) : name.toList ⊆ alphabet := by
  have table : tokenNames.all (fun name => name.toList.all (alphabet.contains ·)) = true := by
    decide +kernel
  intro c hc
  have here := List.all_eq_true.1 (List.all_eq_true.1 table name h) c hc
  simpa using here

/-- Every documented name is one of the pattern's. -/
theorem monthForms_token {month : Nat} {name : String} (h : name ∈ monthForms month) :
    name ∈ tokenNames := by
  have table : (List.range 13).all (fun month =>
      (monthForms month).all (tokenNames.contains ·)) = true := by decide +kernel
  simpa using monthForms_forall table h

/-- **The month is read in one way**: a name that leads on, where `xs` needs a mark or a
blank next, is the whole printed name. -/
theorem run_month {month : Nat} {name : String} (isName : name ∈ monthForms month)
    (p : Printed name) {xs : List (Expr CodePoint)} {behind rest : PyStr}
    {groups : List (Nat × PyStr)} (ends : MonthEnd rest)
    (dead : ∀ c : Cursor CodePoint, (∃ x ∈ c.ahead.head?, x ∈ p.text) → (Expr.seq xs).run c = []) :
    (Expr.seq (.group 2 monthToken :: xs)).run ⟨behind, p.text ++ rest, groups⟩ =
      (Expr.seq xs).run ⟨p.text.reverse ++ behind, rest, (2, p.text) :: groups⟩ := by
  have token := monthForms_token isName
  have runs : ∀ other ∈ tokenNames, (literal other).run ⟨behind, p.text ++ rest, groups⟩ =
      if other.toList.isPrefixOf name.toList then
        [Cursor.advance ⟨behind, p.text ++ rest, groups⟩ other.toList.length] else [] := by
    intro other hother
    rw [literal_eq, Expr.run_sets, starts_month (tokenNames_letters hother)
      (tokenNames_letters token) ends p.cased, List.length_map]
  have some_names : tokenNames.map literal ≠ [] := by decide
  have oneOf : monthToken.run ⟨behind, p.text ++ rest, groups⟩ =
      tokenNames.flatMap fun other => (literal other).run ⟨behind, p.text ++ rest, groups⟩ := by
    show (Expr.oneOf (tokenNames.map literal)).run _ = _
    rw [Expr.run_oneOf some_names, List.flatMap_map]
  rw [Expr.run_seq_cons]
  show ((monthToken.run _).map _).flatMap _ = _
  rw [oneOf, List.map_flatMap, List.flatMap_assoc,
    Expr.flatMap_eq_of_only tokenNames_distinct token]
  · rw [runs name token, if_pos (by simp), ← p.length, Cursor.advance_append, List.map_singleton,
      List.flatMap_singleton, Cursor.since_append]
  · -- A shorter name leaves a letter of the printed one ahead.
    intro other hother different
    rw [runs other hother]
    split
    case isFalse => rfl
    case isTrue shorter =>
      obtain ⟨more, hmore⟩ := List.isPrefixOf_iff_prefix.1 shorter
      have some_more : more ≠ [] := by
        rintro rfl
        apply different
        rw [List.append_nil] at hmore
        exact String.toList_inj.1 hmore
      have length := p.length
      rw [← hmore, List.length_append] at length
      have pos := List.length_pos_iff.2 some_more
      rw [List.map_singleton, List.flatMap_singleton]
      apply dead
      refine ⟨p.text[other.toList.length], ?_, List.getElem_mem _⟩
      show p.text[other.toList.length] ∈ ((p.text ++ rest).drop other.toList.length).head?
      rw [List.head?_drop, List.getElem?_append_left (by omega),
        List.getElem?_eq_getElem (by omega)]
      rfl

/-! ## Up to the year -/

/-- What the stamp expression does after the year. -/
def stampTail (lib : PyLib) : List (Expr CodePoint) :=
  [.opt (literal ","), .opt stampTime, .boundary lib.isWord]

/-- What it does after the month's name. -/
def afterName (lib : PyLib) : List (Expr CodePoint) :=
  .opt (literal ".") :: .opt (literal ",") :: spaces :: .group 3 (digits 4 4) :: stampTail lib

theorem stamp_eq (lib : PyLib) : stamp lib = .seq (literal "current" :: spaces :: literal "as" ::
    spaces :: .opt (.seq [literal "of", spaces]) :: .group 1 (digits 1 2) :: spaces ::
    .group 2 monthToken :: afterName lib) := rfl

/-- An optional mark is passed, when the text goes on with another letter and nothing
else reads the mark. -/
theorem run_optional {word : String} {mark : Char} (hword : word.toList = [mark])
    (hmark : ignoreCase mark (point mark) = true) {xs : List (Expr CodePoint)}
    (dead : ∀ c : Cursor CodePoint, c.ahead.head? = some (point mark) → (Expr.seq xs).run c = [])
    {there : Bool} {behind rest : PyStr} {groups : List (Nat × PyStr)}
    (hrest : ∀ x ∈ rest.head?, ignoreCase mark x = false) :
    (Expr.seq (.opt (literal word) :: xs)).run ⟨behind, optional there word ++ rest, groups⟩ =
      (Expr.seq xs).run ⟨(optional there word).reverse ++ behind, rest, groups⟩ := by
  have text : ofString word = [point mark] := by simp [ofString, hword]
  cases there with
  | false =>
    have failed : (Expr.opt (literal word)).run ⟨behind, rest, groups⟩ =
        [⟨behind, rest, groups⟩] := Expr.run_opt_of_nil (run_literal_dead hword hrest)
    exact Expr.run_seq_pass failed (by simp)
  | true =>
    have here : optional true word = [point mark] := text
    rw [here]
    apply Expr.run_seq_pass (Expr.run_opt_of_some (run_mark hword hmark behind rest groups))
    intro e he
    rw [List.mem_singleton.1 he]
    exact dead _ rfl

/-- A letter where a mark or a blank has to follow. -/
theorem afterName_dead {lib : PyLib} {c : Cursor CodePoint}
    (h : ∀ x ∈ c.ahead.head?, ignoreCase '.' x = false ∧ ignoreCase ',' x = false ∧
      isSpace x = false) : (Expr.seq (afterName lib)).run c = [] := by
  have period : (Expr.opt (literal ".")).run c = [c] :=
    Expr.run_opt_of_nil (run_literal_dead rfl fun x hx => (h x hx).1)
  have comma : (Expr.opt (literal ",")).run c = [c] :=
    Expr.run_opt_of_nil (run_literal_dead rfl fun x hx => (h x hx).2.1)
  unfold afterName
  rw [Expr.run_seq_pass period (by simp), Expr.run_seq_pass comma (by simp)]
  exact Expr.run_seq_dead (run_spaces_dead fun x hx => (h x hx).2.2)

theorem spaces_dead {xs : List (Expr CodePoint)} {c : Cursor CodePoint}
    (h : ∀ x ∈ c.ahead.head?, isSpace x = false) : (Expr.seq (spaces :: xs)).run c = [] :=
  Expr.run_seq_dead (run_spaces_dead h)

theorem month_letters {month : Nat} {name : String} (isName : name ∈ monthForms month)
    (p : Printed name) : ∀ x ∈ p.text, ignoreCase '.' x = false ∧ ignoreCase ',' x = false ∧
      isSpace x = false := by
  have names : (List.range 13).all (fun month => (monthForms month).all fun name =>
      name.toList.all fun c =>
        (!ignoreCase '.' (point c.toLower) && !ignoreCase ',' (point c.toLower) &&
          !isSpace (point c.toLower)) &&
        (!ignoreCase '.' (point c.toUpper) && !ignoreCase ',' (point c.toUpper) &&
          !isSpace (point c.toUpper))) = true := by decide +kernel
  intro x hx
  have here := anyCase_forall (P := fun x => !ignoreCase '.' x && !ignoreCase ',' x && !isSpace x)
    p.cased (monthForms_forall names isName) x hx
  simpa [and_assoc] using here

/-- A digit is no letter and no mark of a pattern. -/
theorem fixedDigits_letter {width n : Nat} {c : Char} (hc : c ∈ '.' :: ',' :: alphabet)
    {x : CodePoint} (hx : x ∈ fixedDigits width n) : ignoreCase c x = false := by
  have table : (List.range 10).all (fun d =>
      ('.' :: ',' :: alphabet).all fun c => !ignoreCase c (digitPoint d)) = true := by
    decide +kernel
  obtain ⟨d, hd, rfl⟩ := mem_fixedDigits hx
  have here := List.all_eq_true.1 (List.all_eq_true.1 table d (List.mem_range.2 hd)) c hc
  simpa using here

/-- A letter is no digit. -/
theorem printed_not_digit {word : String} (p : Printed word)
    (h : word.toList.all (fun c => (decimalValue (point c.toLower)).isNone &&
      (decimalValue (point c.toUpper)).isNone) = true) :
    ∀ x ∈ p.text, (decimalValue x).isSome = false := by
  intro x hx
  have here := anyCase_forall (P := fun x => (decimalValue x).isNone) p.cased h x hx
  simpa using here

/-- What holds of the letters of a word holds of the first of a text that begins with it. -/
theorem head_word {P : CodePoint → Prop} {word : PyStr} (ne : word ≠ []) (h : ∀ x ∈ word, P x)
    (rest : PyStr) : ∀ x ∈ (word ++ rest).head?, P x := by
  obtain ⟨c, more, rfl⟩ := List.exists_cons_of_ne_nil ne
  intro x hx
  obtain rfl : c = x := by simpa using hx
  exact h c (by simp)

/-- The optional `of` is passed in front of the day. -/
theorem run_of (ofWord : Option (Printed "of" × Gap)) {day : PyStr} (plain : PlainWord day)
    (noLetter : ∀ x ∈ day, ignoreCase 'o' x = false) (xs : List (Expr CodePoint))
    (behind rest : PyStr) (groups : List (Nat × PyStr)) :
    ∃ before, (Expr.seq (.opt (.seq [literal "of", spaces]) :: .group 1 (digits 1 2) :: xs)).run
        ⟨behind, (ofWord.toList.flatMap fun word => word.1.text ++ [point ' ']) ++ (day ++ rest),
          groups⟩ =
      (Expr.seq (.group 1 (digits 1 2) :: xs)).run ⟨before, day ++ rest, groups⟩ := by
  cases ofWord with
  | none =>
    refine ⟨behind, ?_⟩
    have failed : (Expr.opt (.seq [literal "of", spaces])).run ⟨behind, day ++ rest, groups⟩ =
        [⟨behind, day ++ rest, groups⟩] :=
      Expr.run_opt_of_nil (Expr.run_seq_dead
        (run_literal_dead rfl (head_word plain.1 noLetter rest)))
    exact Expr.run_seq_pass failed (by simp)
  | some word =>
    have text : ((some word).toList.flatMap fun word => word.1.text ++ [point ' ']) ++
        (day ++ rest) = word.1.text ++ point ' ' :: (day ++ rest) := by simp
    refine ⟨point ' ' :: (word.1.text.reverse ++ behind), ?_⟩
    rw [text]
    have read : (Expr.seq [literal "of", spaces]).run
        ⟨behind, word.1.text ++ point ' ' :: (day ++ rest), groups⟩ =
        [⟨point ' ' :: (word.1.text.reverse ++ behind), day ++ rest, groups⟩] := by
      rw [Expr.run_seq_pass (run_printed word.1 _ _ _) (by simp),
        Expr.run_seq_pass (run_blank _ _ (head_plain plain rest)) (by simp)]
      rfl
    have ofWord : PlainWord word.1.text := plainWord_printed word.1 (by decide) (by decide)
    apply Expr.run_seq_pass (Expr.run_opt_of_some read)
    -- Without `of` the day would have to stand here.
    intro e he
    rw [List.mem_singleton.1 he]
    apply Expr.run_seq_dead
    show ((digits 1 2).run _).map _ = []
    rw [List.map_eq_nil_iff]
    exact Expr.run_many_nil (by decide)
      (head_word ofWord.1 (printed_not_digit word.1 (by decide)) _)

theorem head_optional {P : CodePoint → Prop} {word : String} {mark : Char}
    (hword : word.toList = [mark]) (hmark : P (point mark)) {there : Bool} {rest : PyStr}
    (hrest : ∀ x ∈ rest.head?, P x) : ∀ x ∈ (optional there word ++ rest).head?, P x := by
  have text : ofString word = [point mark] := by simp [ofString, hword]
  cases there with
  | false => exact hrest
  | true =>
    have here : optional true word = [point mark] := text
    rw [here]
    intro x hx
    obtain rfl : point mark = x := by simpa using hx
    exact hmark

theorem head_blank {P : CodePoint → Prop} (h : P (point ' ')) (rest : PyStr) :
    ∀ x ∈ (point ' ' :: rest).head?, P x := by
  intro x hx
  obtain rfl : point ' ' = x := by simpa using hx
  exact h

/-- The text from the period on. -/
def StampStyle.afterMonthText (t : CivilFields) {month : Nat} (style : StampStyle month)
    (rest : PyStr) : PyStr :=
  optional style.period "." ++ (optional style.comma "," ++ point ' ' ::
    (fixedDigits 4 t.year ++ (optional style.yearComma "," ++ rest)))

theorem afterMonthText_end (t : CivilFields) {month : Nat} (style : StampStyle month)
    (rest : PyStr) : MonthEnd (style.afterMonthText t rest) := by
  intro c hc
  have marks : ignoreCase c (point '.') = false ∧ ignoreCase c (point ',') = false ∧
      ignoreCase c (point ' ') = false :=
    ⟨monthEnd_cons [] (.inl rfl) c hc _ rfl, monthEnd_cons [] (.inr (.inl rfl)) c hc _ rfl,
      monthEnd_cons [] (.inr (.inr rfl)) c hc _ rfl⟩
  have afterPeriod : ∀ x ∈ (optional style.comma "," ++ point ' ' :: (fixedDigits 4 t.year ++
      (optional style.yearComma "," ++ rest))).head?, ignoreCase c x = false :=
    head_optional rfl marks.2.1 (head_blank marks.2.2 _)
  exact head_optional rfl marks.1 afterPeriod

/-- From the period to the year. -/
theorem run_afterMonth (lib : PyLib) (t : CivilFields) {month : Nat} (style : StampStyle month)
    (behind rest : PyStr) (groups : List (Nat × PyStr)) :
    ∃ before, (Expr.seq (afterName lib)).run ⟨behind, style.afterMonthText t rest, groups⟩ =
      (Expr.seq (stampTail lib)).run ⟨(fixedDigits 4 t.year).reverse ++ before,
        optional style.yearComma "," ++ rest, (3, fixedDigits 4 t.year) :: groups⟩ := by
  have yearWord : PlainWord (fixedDigits 4 t.year) := plainWord_digits (by decide) _
  have atPeriod : ∀ c : Cursor CodePoint, c.ahead.head? = some (point '.') →
      (Expr.seq (.opt (literal ",") :: spaces :: .group 3 (digits 4 4) :: stampTail lib)).run c =
        [] := by
    intro c hc
    have only : ∀ x ∈ c.ahead.head?, x = point '.' := by simp [hc]
    have failed : (Expr.opt (literal ",")).run c = [c] := by
      apply Expr.run_opt_of_nil
      apply run_literal_dead rfl
      intro x hx
      rw [only x hx]
      decide
    rw [Expr.run_seq_pass failed (by simp)]
    apply spaces_dead
    intro x hx
    rw [only x hx]
    decide
  have atComma : ∀ c : Cursor CodePoint, c.ahead.head? = some (point ',') →
      (Expr.seq (spaces :: .group 3 (digits 4 4) :: stampTail lib)).run c = [] := by
    intro c hc
    apply spaces_dead
    intro x hx
    obtain rfl : point ',' = x := by simpa [hc] using hx
    decide
  have noPeriod : ∀ x ∈ (optional style.comma "," ++ point ' ' ::
      (fixedDigits 4 t.year ++ (optional style.yearComma "," ++ rest))).head?,
      ignoreCase '.' x = false :=
    head_optional rfl (by decide) (head_blank (by decide) _)
  unfold afterName StampStyle.afterMonthText
  rw [run_optional rfl (by decide) atPeriod noPeriod,
    run_optional rfl (by decide) atComma (head_blank (by decide) _),
    Expr.run_seq_pass (run_blank _ _ (head_plain yearWord _)) (by simp),
    Expr.run_seq_pass (run_number (fixedDigits_digits 4 t.year) (length_fixedDigits 4 t.year) _ _ _)
      (by simp)]
  exact ⟨_, rfl⟩

theorem StampStyle.line_eq (t : CivilFields) {month : Nat} (style : StampStyle month)
    (rest : PyStr) : style.line t rest =
      style.current.text ++ point ' ' :: (style.asWord.text ++ point ' ' ::
        ((style.ofWord.toList.flatMap fun word => word.1.text ++ [point ' ']) ++
          (dayDigits t style.padded ++ point ' ' ::
            (style.month.text ++ style.afterMonthText t rest)))) := rfl

theorem mem_dayDigits {t : CivilFields} {padded : Bool} {x : CodePoint}
    (h : x ∈ dayDigits t padded) : ∃ width n, x ∈ fixedDigits width n := by
  unfold dayDigits at h
  split at h <;> exact ⟨_, _, h⟩

theorem length_dayDigits (t : CivilFields) (padded : Bool) :
    (dayDigits t padded).length = 1 ∨ (dayDigits t padded).length = 2 := by
  unfold dayDigits
  split
  · exact .inr (length_fixedDigits _ _)
  · exact .inl (length_fixedDigits _ _)

/-- **The words up to the year are read in one way.** -/
theorem run_line (lib : PyLib) (t : CivilFields) {month : Nat} (style : StampStyle month)
    (behind rest : PyStr) :
    ∃ before, (stamp lib).run ⟨behind, style.line t rest, []⟩ =
      (Expr.seq (stampTail lib)).run ⟨(fixedDigits 4 t.year).reverse ++ before,
        optional style.yearComma "," ++ rest,
        [(3, fixedDigits 4 t.year), (2, style.month.text), (1, dayDigits t style.padded)]⟩ := by
  have dayWord := plainWord_day t style.padded
  have monthWord := plainWord_month style.isName style.month
  have asWord : PlainWord style.asWord.text := plainWord_printed _ (by decide) (by decide)
  have dayIs : AllDigits (dayDigits t style.padded) := by
    intro x hx
    obtain ⟨width, n, hmem⟩ := mem_dayDigits hx
    exact fixedDigits_digits width n x hmem
  have dayLetter : ∀ x ∈ dayDigits t style.padded, ignoreCase 'o' x = false := by
    intro x hx
    obtain ⟨width, n, hmem⟩ := mem_dayDigits hx
    exact fixedDigits_letter (by decide) hmem
  have afterAs : ∀ day rest', PlainWord day → ∀ x ∈ ((style.ofWord.toList.flatMap
      fun word => word.1.text ++ [point ' ']) ++ (day ++ rest')).head?, isSpace x = false := by
    intro day rest' hday
    cases style.ofWord with
    | none => exact head_plain hday rest'
    | some word =>
      have ofWord : PlainWord word.1.text := plainWord_printed word.1 (by decide) (by decide)
      simpa using head_plain ofWord (point ' ' :: (day ++ rest'))
  have dayEnd : ∀ x ∈ (point ' ' :: (style.month.text ++ style.afterMonthText t rest)).head?,
      (decimalValue x).isSome = false := head_blank (by decide) _
  rw [style.line_eq, stamp_eq, Expr.run_seq_pass (run_printed style.current _ _ _) (by simp),
    Expr.run_seq_pass (run_blank _ _ (head_plain asWord _)) (by simp),
    Expr.run_seq_pass (run_printed style.asWord _ _ _) (by simp),
    Expr.run_seq_pass (run_blank _ _ (afterAs _ _ dayWord)) (by simp)]
  obtain ⟨afterOf, hof⟩ := run_of style.ofWord dayWord dayLetter
    (spaces :: .group 2 monthToken :: afterName lib) _
    (point ' ' :: (style.month.text ++ style.afterMonthText t rest)) _
  rw [hof]
  obtain ⟨others, hday, hothers⟩ := run_day dayIs (length_dayDigits t _) dayEnd afterOf []
  have dayDead : ∀ e ∈ others,
      (Expr.seq (spaces :: .group 2 monthToken :: afterName lib)).run e = [] := by
    intro e he
    apply spaces_dead
    intro x hx
    obtain ⟨y, hy, digit⟩ := hothers e he
    obtain rfl : y = x := Option.some.inj ((Option.mem_def.1 hy).symm.trans (Option.mem_def.1 hx))
    exact digit_not_space digit
  have monthDead : ∀ c : Cursor CodePoint, (∃ x ∈ c.ahead.head?, x ∈ style.month.text) →
      (Expr.seq (afterName lib)).run c = [] := by
    intro c ⟨y, hy, letter⟩
    apply afterName_dead
    intro x hx
    obtain rfl : y = x := Option.some.inj ((Option.mem_def.1 hy).symm.trans (Option.mem_def.1 hx))
    exact month_letters style.isName style.month y letter
  rw [Expr.run_seq_pass hday dayDead, Expr.run_seq_pass (run_blank _ _ (head_plain monthWord _))
    (by simp), run_month style.isName style.month (afterMonthText_end t style rest) monthDead]
  exact run_afterMonth lib t style _ rest _

end PaxPivot
