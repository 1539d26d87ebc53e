import Mathlib
import PaxPivot.Application.Parsers.AmcPageTime
import PaxPivot.Library.RegexReplace

/-!
# What a page prints for a stamp, and what cleaning makes of it

The documented renderings of a date with or without a clock time: words in any case,
with white space, `&nbsp;` or tags between them. Cleaning leaves the words with one
blank in each gap, whatever text stands around them.
-/

namespace PaxPivot

open Regex (Expr)
open PyStr (ofString point spaces isSpace decimalValue)

/-! ## Words and gaps -/

/-- A word in any case of its ASCII letters. -/
def AnyCase (word : String) (text : PyStr) : Prop :=
  List.Forall₂ (fun (c : Char) x => x = point c.toLower ∨ x = point c.toUpper) word.toList text

/-- A printed word. -/
structure Printed (word : String) where
  text : PyStr
  cased : AnyCase word text

/-- What may stand between two words. -/
inductive Piece where
  | blank (c : CodePoint) (space : isSpace c = true)
  | nbsp
  | tag (body : PyStr) (nonempty : body ≠ []) (inner : point '>' ∉ body)

def Piece.text : Piece → PyStr
  | .blank c _ => [c]
  | .nbsp => ofString "&nbsp;"
  | .tag body _ _ => point '<' :: (body ++ [point '>'])

structure Gap where
  pieces : List Piece
  nonempty : pieces ≠ []

/-! ## The stamp -/

/-- The names of a month: in full, its first three letters, and `sept`. -/
def monthForms (month : Nat) : List String :=
  match monthNames[month - 1]? with
  | none => []
  | some name => name :: String.ofList (name.toList.take 3) :: (if month = 9 then ["sept"] else [])

def digitPoint (n : Nat) : CodePoint := Fin.ofNat _ (0x30 + n)

/-- The last `width` decimal digits of a number. -/
def fixedDigits : Nat → Nat → PyStr
  | 0, _ => []
  | width + 1, n => fixedDigits width (n / 10) ++ [digitPoint (n % 10)]

/-- How the clock time is printed: after `at`, or in front of `L`. -/
inductive ClockStyle where
  | at (before : List Piece) (word : Printed "at") (after : Gap)
      (mark : Option (List Piece × Printed "l"))
  | marked (before between : List Piece) (mark : Printed "l")

/-- How the stamp of a day of `month` is printed. -/
structure StampStyle (month : Nat) where
  current : Printed "current"
  afterCurrent : Gap
  asWord : Printed "as"
  afterAs : Gap
  ofWord : Option (Printed "of" × Gap)
  /-- Two digits also for a day below ten. -/
  padded : Bool
  afterDay : Gap
  name : String
  isName : name ∈ monthForms month
  month : Printed name
  period : Bool
  comma : Bool
  afterMonth : Gap
  yearComma : Bool
  clock : Option ClockStyle

/-- A word and the pieces after it. -/
abbrev Part := PyStr × List Piece

/-- The text of some parts, by the text of a gap. -/
def partsText (gap : List Piece → PyStr) (parts : List Part) : PyStr :=
  parts.flatMap fun part => part.1 ++ gap part.2

def optional (there : Bool) (text : String) : PyStr := if there then ofString text else []

section Render

variable (t : CivilFields)

def clockDigits : PyStr := fixedDigits 2 t.hour ++ fixedDigits 2 t.minute

def ClockStyle.before : ClockStyle → List Piece
  | .at before _ _ _ | .marked before _ _ => before

def ClockStyle.parts : ClockStyle → List Part
  | .at _ word after none => [(word.text, after.pieces), (clockDigits t, [])]
  | .at _ word after (some (between, mark)) =>
    [(word.text, after.pieces), (clockDigits t, between), (mark.text, [])]
  | .marked _ between mark => [(clockDigits t, between), (mark.text, [])]

def dayDigits (padded : Bool) : PyStr :=
  if padded = true ∨ 10 ≤ t.day then fixedDigits 2 t.day else fixedDigits 1 t.day

def StampStyle.parts {month : Nat} (style : StampStyle month) : List Part :=
  (style.current.text, style.afterCurrent.pieces) :: (style.asWord.text, style.afterAs.pieces) ::
    (style.ofWord.toList.map fun word => (word.1.text, word.2.pieces)) ++
    (dayDigits t style.padded, style.afterDay.pieces) ::
    (style.month.text ++ (optional style.period "." ++ optional style.comma ","),
      style.afterMonth.pieces) ::
    (fixedDigits 4 t.year ++ optional style.yearComma ",",
      (style.clock.map ClockStyle.before).getD []) ::
    ((style.clock.map (ClockStyle.parts t)).getD [])

/-- **The rendering** of a local time; the clock time is left out when the style has none. -/
def StampStyle.render {month : Nat} (style : StampStyle month) : PyStr :=
  partsText (·.flatMap Piece.text) (style.parts t)

end Render

/-! ## Cleaning -/

/-- No white space, no tag and no entity starts here. -/
def plainPoint (c : CodePoint) : Bool := !isSpace c && c != point '<' && c != point '&'

/-- A piece without its tag. -/
def Piece.untagged : Piece → PyStr
  | .tag _ _ _ => ofString " "
  | piece => piece.text

/-- A piece as one white space. -/
def Piece.blankOf : Piece → CodePoint
  | .blank c _ => c
  | .nbsp => 0xA0
  | .tag _ _ _ => point ' '

/-- What is left of a gap. -/
def gapText (pieces : List Piece) : PyStr := if pieces.isEmpty then [] else [point ' ']

/-- Words that cleaning leaves alone; gaps stand between words. -/
structure Separated (parts : List Part) : Prop where
  words : ∀ part ∈ parts, part.1 ≠ [] ∧ ∀ c ∈ part.1, plainPoint c = true
  last : ∀ part ∈ parts.getLast?, part.2 = []

/-- The functions of the library on what a stamp is printed with: `str.lower` on ASCII,
`html.unescape` on text without an ampersand and on `&nbsp;`, and `\\w`. -/
structure StandardLib (lib : PyLib) : Prop where
  lower_ascii : ∀ text : PyStr, (∀ c ∈ text, c.val < 0x80) →
    lib.lower text = text.map fun c => if 0x41 ≤ c.val ∧ c.val ≤ 0x5A then c + 0x20 else c
  unescape_word : ∀ word rest, point '&' ∉ word →
    lib.unescape (word ++ rest) = (lib.unescape rest).map (word ++ ·)
  unescape_nbsp : ∀ rest,
    lib.unescape (ofString "&nbsp;" ++ rest) = (lib.unescape rest).map (0xA0 :: ·)
  digit_isWord : ∀ c, (decimalValue c).isSome = true → lib.isWord c = true
  letter_isWord : ∀ c : Char, c.isAlpha = true → lib.isWord (point c) = true
  space_isWord : ∀ c, isSpace c = true → lib.isWord c = false
  comma_isWord : lib.isWord (point ',') = false

theorem tags_eq : tags = Expr.bracket (· = point '<') (· ≠ point '>') (· = point '>') := rfl

section Clean

/-- The tag expression closes with what it does not pass. -/
theorem tags_apart (c : CodePoint) : decide (c = point '>') = !decide (c ≠ point '>') := by simp

theorem untag_word {word : PyStr} (h : point '<' ∉ word) (rest : PyStr) :
    tags.replaceAll (ofString " ") (word ++ rest) =
      word ++ tags.replaceAll (ofString " ") rest := by
  rw [tags_eq]
  apply Expr.replaceAll_bracket_word tags_apart
  intro c hc
  rw [decide_eq_false_iff_not]
  rintro rfl
  exact h hc

theorem untag_piece (piece : Piece) (rest : PyStr) :
    tags.replaceAll (ofString " ") (piece.text ++ rest) =
      piece.untagged ++ tags.replaceAll (ofString " ") rest := by
  cases piece with
  | blank c space =>
    apply untag_word
    intro h
    obtain rfl := List.mem_singleton.1 h
    exact absurd space (by decide)
  | nbsp => exact untag_word (by decide) rest
  | tag body nonempty inner =>
    have text : (Piece.tag body nonempty inner).text ++ rest =
        point '<' :: (body ++ point '>' :: rest) := by simp [Piece.text]
    rw [text, tags_eq]
    apply Expr.replaceAll_bracket tags_apart (by simp) (by simp) _ nonempty
    intro c hc
    rw [decide_eq_true_iff]
    rintro rfl
    exact inner hc

variable {lib : PyLib}

theorem point_not_mem {word : PyStr} (h : ∀ c ∈ word, plainPoint c = true) :
    point '<' ∉ word ∧ point '&' ∉ word := by
  constructor
  · intro hmem
    exact absurd (h _ hmem) (by decide)
  · intro hmem
    exact absurd (h _ hmem) (by decide)

theorem untag_parts {parts : List Part}
    (words : ∀ part ∈ parts, part.1 ≠ [] ∧ ∀ c ∈ part.1, plainPoint c = true) (rest : PyStr) :
    tags.replaceAll (ofString " ") (partsText (·.flatMap Piece.text) parts ++ rest) =
      partsText (·.flatMap Piece.untagged) parts ++ tags.replaceAll (ofString " ") rest := by
  have pieces : ∀ (gap : List Piece) rest,
      tags.replaceAll (ofString " ") (gap.flatMap Piece.text ++ rest) =
        gap.flatMap Piece.untagged ++ tags.replaceAll (ofString " ") rest := by
    intro gap rest
    induction gap with
    | nil => rfl
    | cons piece gap ih =>
      rw [List.flatMap_cons, List.append_assoc, untag_piece, ih, List.flatMap_cons,
        List.append_assoc]
  unfold partsText
  induction parts with
  | nil => rfl
  | cons part parts ih =>
    have plain := point_not_mem (words part (by simp)).2
    rw [List.flatMap_cons, List.append_assoc, List.append_assoc, untag_word plain.1, pieces,
      ih fun other h => words other (by simp [h]), List.flatMap_cons, List.append_assoc,
      List.append_assoc]

/-- An unescaped piece is one white space. -/
theorem unescape_piece (std : StandardLib lib) (piece : Piece) (rest : PyStr) :
    lib.unescape (piece.untagged ++ rest) = (lib.unescape rest).map (piece.blankOf :: ·) := by
  cases piece with
  | blank c space =>
    apply std.unescape_word
    intro h
    obtain rfl := List.mem_singleton.1 h
    exact absurd space (by decide)
  | nbsp => exact std.unescape_nbsp rest
  | tag body nonempty inner => exact std.unescape_word (ofString " ") rest (by decide)

theorem unescape_parts (std : StandardLib lib) {parts : List Part}
    (words : ∀ part ∈ parts, part.1 ≠ [] ∧ ∀ c ∈ part.1, plainPoint c = true) (rest : PyStr) :
    lib.unescape (partsText (·.flatMap Piece.untagged) parts ++ rest) =
      (lib.unescape rest).map (partsText (·.map Piece.blankOf) parts ++ ·) := by
  have pieces : ∀ (gap : List Piece) rest, lib.unescape (gap.flatMap Piece.untagged ++ rest) =
      (lib.unescape rest).map (gap.map Piece.blankOf ++ ·) := by
    intro gap rest
    induction gap with
    | nil => simp
    | cons piece gap ih =>
      rw [List.flatMap_cons, List.append_assoc, unescape_piece std, ih, Option.map_map]
      rfl
  unfold partsText
  induction parts with
  | nil => simp
  | cons part parts ih =>
    have plain := point_not_mem (words part (by simp)).2
    rw [List.flatMap_cons, List.append_assoc, List.append_assoc, std.unescape_word _ _ plain.2,
      pieces, ih fun other h => words other (by simp [h]), Option.map_map, Option.map_map]
    congr 1
    funext text
    simp

theorem blankOf_space (piece : Piece) : isSpace piece.blankOf = true := by
  cases piece with
  | blank c space => exact space
  | nbsp => decide
  | tag body nonempty inner =>
    show isSpace (point ' ') = true
    decide

theorem plain_not_space {c : CodePoint} (h : plainPoint c = true) : isSpace c = false := by
  simp only [plainPoint, Bool.and_eq_true, Bool.not_eq_true'] at h
  exact h.1.1

/-- Collapsing leaves one blank in each gap. -/
theorem collapse_parts {parts : List Part} (separated : Separated parts) (rest : PyStr) :
    Expr.collapse isSpace (point ' ') false (partsText (·.map Piece.blankOf) parts ++ rest) =
      partsText gapText parts ++ Expr.collapse isSpace (point ' ') false rest := by
  unfold partsText
  induction parts with
  | nil => rfl
  | cons part parts ih =>
    obtain ⟨word, gap⟩ := part
    have plain := (separated.words (word, gap) (by simp)).2
    have here : Expr.collapse isSpace (point ' ') false
        (word ++ (gap.map Piece.blankOf ++
          (parts.flatMap (fun part => part.1 ++ part.2.map Piece.blankOf) ++ rest))) =
        word ++ (gapText gap ++ Expr.collapse isSpace (point ' ') false
          (parts.flatMap (fun part => part.1 ++ part.2.map Piece.blankOf) ++ rest)) := by
      rw [Expr.collapse_word fun c hc => plain_not_space (plain c hc)]
      congr 1
      by_cases hgap : gap = []
      · simp [hgap, gapText]
      · have blanks : ∀ c ∈ gap.map Piece.blankOf, isSpace c = true := by
          intro c hc
          obtain ⟨piece, -, rfl⟩ := List.mem_map.1 hc
          exact blankOf_space piece
        rw [Expr.collapse_run blanks false (by simpa using hgap), Expr.collapse_true]
        · simp [gapText, hgap]
        · -- A gap stands in front of a word.
          cases parts with
          | nil => exact absurd (separated.last _ rfl) hgap
          | cons next parts =>
            obtain ⟨nonempty, plain'⟩ := separated.words next (by simp)
            obtain ⟨c, word', hword⟩ := List.exists_cons_of_ne_nil nonempty
            intro d hd
            rw [List.flatMap_cons, hword] at hd
            obtain rfl : c = d := by simpa using hd
            exact plain_not_space (plain' c (by simp [hword]))
    have rest_separated : parts ≠ [] → Separated parts := fun ne =>
      ⟨fun other h => separated.words other (by simp [h]), fun other h => separated.last other
        (by simpa [List.getLast?_cons, List.getLast?_eq_some_getLast ne] using h)⟩
    rw [List.flatMap_cons, List.append_assoc, List.append_assoc, here, List.flatMap_cons,
      List.append_assoc, List.append_assoc]
    congr 2
    by_cases ne : parts = []
    · simp [ne]
    · exact ih (rest_separated ne)

/-- Text in front of a stamp that cleaning takes as it is, but for its white space. -/
structure Untagged (front : PyStr) : Prop where
  tag : point '<' ∉ front
  entity : point '&' ∉ front

/-- **Cleaning a page** cleans what is in front of the parts, the parts and what follows
them each by itself. -/
theorem cleanText_parts (std : StandardLib lib) {front : PyStr} (untagged : Untagged front)
    {parts : List Part} (nonempty : parts ≠ []) (separated : Separated parts) (post : PyStr) :
    cleanText lib (front ++ (partsText (·.flatMap Piece.text) parts ++ post)) =
      (cleanText lib post).map fun rest =>
        Expr.collapse isSpace (point ' ') false front ++ (partsText gapText parts ++ rest) := by
  have blanks : ∀ text, spaces.replaceAll (ofString " ") text =
      Expr.collapse isSpace (point ' ') false text := Expr.replaceAll_many
  unfold cleanText
  rw [untag_word untagged.tag, untag_parts separated.words, std.unescape_word _ _ untagged.entity,
    unescape_parts std separated.words, Option.map_map, Option.map_map, Option.map_map]
  congr 1
  funext text
  simp only [Function.comp_apply, blanks]
  rw [← collapse_parts separated]
  -- The parts begin with a letter of a word.
  obtain ⟨part, parts, rfl⟩ := List.exists_cons_of_ne_nil nonempty
  obtain ⟨some_word, plain⟩ := separated.words part (by simp)
  obtain ⟨c, word, hword⟩ := List.exists_cons_of_ne_nil some_word
  have begins : ∃ more, partsText (·.map Piece.blankOf) (part :: parts) ++ text = c :: more := by
    simp [partsText, hword]
  obtain ⟨more, hmore⟩ := begins
  have hc := plain_not_space (plain c (by simp [hword]))
  rw [hmore, Expr.collapse_append front more false hc, Expr.collapse, if_neg (by simp [hc])]

end Clean

/-! ## The parts of a stamp -/

/-- A printed word is of the letters of its word. -/
theorem anyCase_forall {P : CodePoint → Bool} {word : String} {text : PyStr}
    (cased : AnyCase word text)
    (h : word.toList.all (fun c => P (point c.toLower) && P (point c.toUpper)) = true) :
    ∀ x ∈ text, P x = true := by
  unfold AnyCase at cased
  generalize word.toList = letters at cased h
  induction cased with
  | nil => simp
  | cons hx _ ih =>
    simp only [List.all_cons, Bool.and_eq_true] at h
    intro y hy
    obtain _ | ⟨_, hy⟩ := hy
    · obtain rfl | rfl := hx
      · exact h.1.1
      · exact h.1.2
    · exact ih h.2 y hy

theorem Printed.length {word : String} (p : Printed word) : p.text.length = word.toList.length :=
  p.cased.length_eq.symm

/-- A check of every month's names. -/
theorem monthForms_forall {P : String → Bool}
    (h : (List.range 13).all (fun month => (monthForms month).all P) = true) {month : Nat}
    {name : String} (isName : name ∈ monthForms month) : P name = true := by
  by_cases small : month < 13
  · exact List.all_eq_true.1 (List.all_eq_true.1 h month (List.mem_range.2 small)) name isName
  · have none : monthNames[month - 1]? = none := by
      apply List.getElem?_eq_none
      show 12 ≤ month - 1
      omega
    simp [monthForms, none] at isName

theorem mem_fixedDigits {width n : Nat} {x : CodePoint} (h : x ∈ fixedDigits width n) :
    ∃ d < 10, x = digitPoint d := by
  induction width generalizing n with
  | zero => cases h
  | succ width ih =>
    obtain h | h := List.mem_append.1 h
    · exact ih h
    · exact ⟨n % 10, Nat.mod_lt _ (by decide), List.mem_singleton.1 h⟩

@[simp] theorem length_fixedDigits (width n : Nat) : (fixedDigits width n).length = width := by
  induction width generalizing n with
  | zero => rfl
  | succ width ih => simp [fixedDigits, ih]

theorem digitPoint_plain : ∀ d < 10, plainPoint (digitPoint d) = true ∧
    decimalValue (digitPoint d) = some d := by
  decide

theorem fixedDigits_plain {width n : Nat} {x : CodePoint} (h : x ∈ fixedDigits width n) :
    plainPoint x = true ∧ (decimalValue x).isSome = true := by
  obtain ⟨d, hd, rfl⟩ := mem_fixedDigits h
  have := digitPoint_plain d hd
  exact ⟨this.1, by simp [this.2]⟩

/-- The digits write the number. -/
theorem number_fixedDigits (width n : Nat) :
    PyStr.number (fixedDigits width n) = n % 10 ^ width := by
  induction width generalizing n with
  | zero => simp [fixedDigits, PyStr.number, Nat.mod_one]
  | succ width ih =>
    have value := (digitPoint_plain (n % 10) (Nat.mod_lt _ (by decide))).2
    have step : PyStr.number (fixedDigits width (n / 10) ++ [digitPoint (n % 10)]) =
        10 * PyStr.number (fixedDigits width (n / 10)) + n % 10 := by
      simp [PyStr.number, List.foldl_append, value]
    rw [fixedDigits, step, ih, Nat.pow_succ, Nat.mul_comm (10 ^ width), Nat.mod_mul]
    omega

theorem optional_plain {there : Bool} {text : String}
    (h : (ofString text).all plainPoint = true) :
    ∀ x ∈ optional there text, plainPoint x = true := by
  intro x hx
  unfold optional at hx
  split at hx
  · exact List.all_eq_true.1 h x hx
  · cases hx

/-- A word that cleaning leaves alone. -/
def PlainWord (word : PyStr) : Prop := word ≠ [] ∧ ∀ c ∈ word, plainPoint c = true

theorem plainWord_printed {word : String} (p : Printed word) (ne : word.toList ≠ [])
    (h : word.toList.all (fun c => plainPoint (point c.toLower) && plainPoint (point c.toUpper)) =
      true) : PlainWord p.text := by
  refine ⟨?_, anyCase_forall p.cased h⟩
  intro empty
  have := p.length
  rw [empty] at this
  exact ne (List.length_eq_zero_iff.1 this.symm)

theorem plainWord_append {word more : PyStr} (h : PlainWord word)
    (hmore : ∀ c ∈ more, plainPoint c = true) : PlainWord (word ++ more) := by
  refine ⟨by simp [h.1], ?_⟩
  intro c hc
  obtain hc | hc := List.mem_append.1 hc
  · exact h.2 c hc
  · exact hmore c hc

theorem plainWord_digits {width : Nat} (pos : 0 < width) (n : Nat) :
    PlainWord (fixedDigits width n) := by
  refine ⟨?_, fun c hc => (fixedDigits_plain hc).1⟩
  intro empty
  have := length_fixedDigits width n
  rw [empty, List.length_nil] at this
  omega

theorem plainWord_day (t : CivilFields) (padded : Bool) : PlainWord (dayDigits t padded) := by
  unfold dayDigits
  split <;> exact plainWord_digits (by decide) _

theorem plainWord_clock (t : CivilFields) : PlainWord (clockDigits t) :=
  plainWord_append (plainWord_digits (by decide) _) (plainWord_digits (by decide) _).2

theorem plainWord_month {month : Nat} {name : String} (isName : name ∈ monthForms month)
    (p : Printed name) : PlainWord p.text := by
  have names : (List.range 13).all (fun month => (monthForms month).all fun name =>
      name.toList ≠ [] && name.toList.all fun c =>
        plainPoint (point c.toLower) && plainPoint (point c.toUpper)) = true := by decide +kernel
  have here := monthForms_forall names isName
  simp only [Bool.and_eq_true, decide_eq_true_eq] at here
  exact plainWord_printed p here.1 here.2

theorem ClockStyle.parts_separated (t : CivilFields) (style : ClockStyle) :
    style.parts t ≠ [] ∧ Separated (style.parts t) := by
  have l : ∀ p : Printed "l", PlainWord p.text :=
    fun p => plainWord_printed p (by decide) (by decide)
  have at_ : ∀ p : Printed "at", PlainWord p.text :=
    fun p => plainWord_printed p (by decide) (by decide)
  have digits := plainWord_clock t
  cases style with
  | «at» before word after mark =>
    cases mark with
    | none =>
      refine ⟨by simp [ClockStyle.parts], ?_, by simp [ClockStyle.parts]⟩
      simp only [ClockStyle.parts, List.mem_cons, List.not_mem_nil, or_false]
      rintro part (rfl | rfl)
      exacts [at_ word, digits]
    | some mark =>
      refine ⟨by simp [ClockStyle.parts], ?_, by simp [ClockStyle.parts]⟩
      simp only [ClockStyle.parts, List.mem_cons, List.not_mem_nil, or_false]
      rintro part (rfl | rfl | rfl)
      exacts [at_ word, digits, l mark.2]
  | marked before between mark =>
    refine ⟨by simp [ClockStyle.parts], ?_, by simp [ClockStyle.parts]⟩
    simp only [ClockStyle.parts, List.mem_cons, List.not_mem_nil, or_false]
    rintro part (rfl | rfl)
    exacts [digits, l mark]

/-- **A rendering is made of words that cleaning leaves alone.** -/
theorem StampStyle.parts_separated (t : CivilFields) {month : Nat} (style : StampStyle month) :
    Separated (style.parts t) := by
  have comma : ∀ there, ∀ c ∈ optional there ",", plainPoint c = true :=
    fun there => optional_plain (by decide)
  have period : ∀ there, ∀ c ∈ optional there ".", plainPoint c = true :=
    fun there => optional_plain (by decide)
  constructor
  · intro part hpart
    simp only [StampStyle.parts, List.mem_append, List.mem_cons, List.mem_map] at hpart
    obtain (rfl | rfl | ⟨word, -, rfl⟩) | rfl | rfl | rfl | hclock := hpart
    · exact plainWord_printed style.current (by decide) (by decide)
    · exact plainWord_printed style.asWord (by decide) (by decide)
    · exact plainWord_printed word.1 (by decide) (by decide)
    · exact plainWord_day t style.padded
    · refine plainWord_append (plainWord_month style.isName style.month) ?_
      intro c hc
      obtain hc | hc := List.mem_append.1 hc
      · exact period _ c hc
      · exact comma _ c hc
    · exact plainWord_append (plainWord_digits (by decide) _) (comma _)
    · cases hstyle : style.clock with
      | none => simp [hstyle] at hclock
      | some clock =>
        rw [hstyle] at hclock
        exact (clock.parts_separated t).2.words part hclock
  · intro part hpart
    unfold StampStyle.parts at hpart
    cases hstyle : style.clock with
    | none =>
      rw [hstyle, List.getLast?_append_of_ne_nil _ (by simp)] at hpart
      obtain rfl := Option.some.inj hpart
      rfl
    | some clock =>
      obtain ⟨ne, separated⟩ := clock.parts_separated t
      apply separated.last part
      rw [hstyle] at hpart
      simpa [List.getLast?_append, List.getLast?_cons, List.getLast?_eq_some_getLast ne]
        using hpart

end PaxPivot
