import PaxPivot.Application.Parsers.FirstStamp
import PaxPivot.Application.Parsers.StampClock

/-!
# The month's name

The pattern reads a month in any case, and under `re.IGNORECASE` that takes three
letters outside ASCII. The table is asked for the name in lower case.
-/

namespace PaxPivot

open Regex (Expr Cursor First)
open Regex.Cursor (Reads)
open PyStr (ofString point literal spaces digits ignoreCase isSpace decimalValue)

/-! ## Lower case -/

/-- `İ`, `ı` and `ſ`. -/
def oddLetters : List CodePoint := [0x130, 0x131, 0x17F]

/-- The lower case of a letter; `İ` is two code points then. -/
def lowerLetter (c : CodePoint) : PyStr :=
  if 0x41 ≤ c.val ∧ c.val ≤ 0x5A then [c + 0x20]
  else if c = 0x130 then [0x69, 0x307]
  else [c]

/-- `str.lower` goes letter by letter on ASCII and on the odd letters. -/
structure LowersLetters (lib : PyLib) : Prop where
  lower : ∀ text : PyStr, (∀ c ∈ text, c.val < 0x80 ∨ c ∈ oddLetters) →
    lib.lower text = text.flatMap lowerLetter

theorem oddLetters_large : ∀ x ∈ oddLetters, 0x80 ≤ x.val := by
  have table : oddLetters.all (fun x => decide (0x80 ≤ x.val)) = true := by decide +kernel
  intro x hx
  exact of_decide_eq_true (List.all_eq_true.1 table x hx)

/-- A letter of the pattern stands for its two cases, and some letters for an odd one. -/
theorem ignoreCase_cases {c : Char} (hc : c ∈ alphabet) (noK : c ≠ 'k') {x : CodePoint}
    (h : ignoreCase c x = true) : x = point c.toLower ∨ x = point c.toUpper ∨ x ∈ oddLetters := by
  have table : alphabet.all (fun c => decide (c.toLower = c)) = true := by decide +kernel
  have lower : c.toLower = c := of_decide_eq_true (List.all_eq_true.1 table c hc)
  unfold ignoreCase at h
  simp only [Bool.or_eq_true, decide_eq_true_eq] at h
  obtain (same | same) | folded := h
  · exact .inl same
  · exact .inr (.inl same)
  · right
    right
    rw [lower] at folded
    split at folded
    · rw [Bool.or_eq_true, beq_iff_eq, beq_iff_eq] at folded
      obtain value | value := folded
      · rw [show x = 0x130 from Fin.ext value]
        decide
      · rw [show x = 0x131 from Fin.ext value]
        decide
    · rw [show x = 0x17F from Fin.ext (by simpa using folded)]
      decide
    · exact absurd rfl noK
    · cases folded

/-- What holds of the letters in both cases and of the odd ones. -/
theorem ignoreCase_forall {P : CodePoint → Bool} {c : Char} (hc : c ∈ alphabet) (noK : c ≠ 'k')
    (table : alphabet.all (fun c => P (point c.toLower) && P (point c.toUpper)) = true)
    (odd : oddLetters.all P = true) {x : CodePoint} (h : ignoreCase c x = true) : P x = true := by
  have here := List.all_eq_true.1 table c hc
  rw [Bool.and_eq_true] at here
  obtain rfl | rfl | isOdd := ignoreCase_cases hc noK h
  · exact here.1
  · exact here.2
  · exact List.all_eq_true.1 odd x isOdd

/-- In ASCII the lower case of what a letter stands for is the letter. -/
theorem ignoreCase_month {c : Char} (hc : c ∈ alphabet) (noK : c ≠ 'k') {x : CodePoint}
    (h : ignoreCase c x = true) : x.val < 0x80 ∧ lowerLetter x = [point c] ∨ x ∈ oddLetters := by
  have table : alphabet.all (fun c =>
      (decide ((point c.toLower).val < 0x80) && lowerLetter (point c.toLower) == [point c]) &&
      (decide ((point c.toUpper).val < 0x80) && lowerLetter (point c.toUpper) == [point c])) =
        true := by decide +kernel
  have here := List.all_eq_true.1 table c hc
  simp only [Bool.and_eq_true, decide_eq_true_eq, beq_iff_eq] at here
  obtain rfl | rfl | odd := ignoreCase_cases hc noK h
  · exact .inl here.1
  · exact .inl here.2
  · exact .inr odd

/-- A text in which a pattern's letters stand, one for one. -/
def Cased (letters : List Char) (text : PyStr) : Prop :=
  List.Forall₂ (fun c x => ignoreCase c x = true) letters text

section Cased

variable {letters : List Char} {text : PyStr}

theorem Cased.exists_letter (cased : Cased letters text) {x : CodePoint} (hx : x ∈ text) :
    ∃ c ∈ letters, ignoreCase c x = true := by
  obtain ⟨i, hi, rfl⟩ := List.getElem_of_mem hx
  exact ⟨_, List.getElem_mem (cased.length_eq ▸ hi), List.Forall₂.get cased _ hi⟩

theorem Cased.points (cased : Cased letters text) (inside : letters ⊆ alphabet)
    (noK : 'k' ∉ letters) : ∀ x ∈ text, x.val < 0x80 ∨ x ∈ oddLetters := by
  intro x hx
  obtain ⟨c, hc, folded⟩ := cased.exists_letter hx
  exact (ignoreCase_month (inside hc) (ne_of_mem_of_not_mem hc noK) folded).imp_left And.left

theorem Cased.forall {P : CodePoint → Bool} (cased : Cased letters text)
    (inside : letters ⊆ alphabet) (noK : 'k' ∉ letters)
    (table : alphabet.all (fun c => P (point c.toLower) && P (point c.toUpper)) = true)
    (odd : oddLetters.all P = true) : ∀ x ∈ text, P x = true := by
  intro x hx
  obtain ⟨c, hc, folded⟩ := cased.exists_letter hx
  exact ignoreCase_forall (inside hc) (ne_of_mem_of_not_mem hc noK) table odd folded

/-- In ASCII the lower case is the name itself. -/
theorem Cased.lower (cased : Cased letters text) (inside : letters ⊆ alphabet)
    (noK : 'k' ∉ letters) (ascii : ∀ x ∈ text, x.val < 0x80) :
    text.flatMap lowerLetter = letters.map point := by
  unfold Cased at cased
  induction cased with
  | nil => rfl
  | cons hx _ ih =>
    obtain ⟨head, tail⟩ := List.cons_subset.1 inside
    obtain ⟨other, rest⟩ := not_or.1 (mt List.mem_cons.2 noK)
    obtain ⟨small, ascii⟩ := List.forall_mem_cons.1 ascii
    obtain ⟨-, lowered⟩ | odd := ignoreCase_month head (Ne.symm other) hx
    · rw [List.flatMap_cons, lowered, ih tail rest ascii, List.map_cons, List.singleton_append]
    · exact absurd small (Nat.not_lt.2 (oddLetters_large _ odd))

end Cased

/-- An odd letter leaves the lower case outside ASCII. -/
theorem odd_lower {text : PyStr} {x : CodePoint} (hx : x ∈ text) (odd : x ∈ oddLetters) :
    ∃ y ∈ text.flatMap lowerLetter, 0x80 ≤ y.val := by
  have table : oddLetters.all (fun x => (lowerLetter x).any fun y => decide (0x80 ≤ y.val)) =
      true := by decide +kernel
  obtain ⟨y, hy, large⟩ := List.any_eq_true.1 (List.all_eq_true.1 table x odd)
  exact ⟨y, List.mem_flatMap.2 ⟨x, hx, hy⟩, of_decide_eq_true large⟩

/-! ## The table -/

theorem tokenNames_noK {name : String} (h : name ∈ tokenNames) : 'k' ∉ name.toList := by
  have table : tokenNames.all (fun name => !name.toList.contains 'k') = true := by decide +kernel
  simpa using List.all_eq_true.1 table name h

theorem monthNumber_name {lib : PyLib} {name : String} (h : name ∈ tokenNames) {text : PyStr}
    (lowered : lib.lower text = ofString name) : monthNumber lib text ≠ none := by
  unfold tokenNames at h
  rw [List.mem_insertionSort] at h
  obtain ⟨m, hm, rfl⟩ := List.mem_map.1 h
  unfold monthNumber
  rw [lowered, Ne, Option.map_eq_none_iff, List.find?_eq_none]
  intro none
  exact none m hm (by simp)

theorem monthNumber_odd {lib : PyLib} {text : PyStr}
    (h : ∃ y ∈ lib.lower text, 0x80 ≤ y.val) : monthNumber lib text = none := by
  have table : months.all (fun m => (ofString m.1).all fun c => decide (c.val < 0x80)) = true := by
    decide +kernel
  obtain ⟨y, hy, large⟩ := h
  unfold monthNumber
  rw [Option.map_eq_none_iff, List.find?_eq_none]
  intro m hm same
  have small := List.all_eq_true.1 (List.all_eq_true.1 table m hm) y
  rw [of_decide_eq_true same] at small
  exact absurd (of_decide_eq_true (small hy)) (Nat.not_lt.2 large)

/-! ## The match -/

/-- A letter that goes on with a word. -/
def inName (c : CodePoint) : Bool := !isSpace c && c != point '.' && c != point ','

/-- The word behind the first number of a text. -/
def nameAhead (text : PyStr) : PyStr :=
  (((text.dropWhile fun c => (decimalValue c).isNone).dropWhile fun c =>
    (decimalValue c).isSome).dropWhile isSpace).takeWhile inName

/-- The word is found where a number stands, whatever leads to it and follows. -/
theorem nameAhead_append {front day gap name rest : PyStr}
    (silent : ∀ c ∈ front, (decimalValue c).isNone = true) (isDay : AllDigits day)
    (some_day : day ≠ []) (blanks : Blanks gap) (some_gap : gap ≠ [])
    (letters : ∀ c ∈ name, inName c = true) (ends : ∀ c ∈ rest.head?, inName c = false)
    (some_name : name ≠ []) : nameAhead (front ++ (day ++ (gap ++ (name ++ rest)))) = name := by
  have number : ∀ c ∈ (day ++ (gap ++ (name ++ rest))).head?, (decimalValue c).isNone = false := by
    refine head_word some_day (fun c hc => ?_) _
    simpa using isDay c hc
  have blank : ∀ c ∈ (gap ++ (name ++ rest)).head?, (decimalValue c).isSome = false := by
    refine head_word some_gap (fun c hc => ?_) _
    simp [space_not_digit (blanks c hc)]
  have letter : ∀ c ∈ (name ++ rest).head?, isSpace c = false := by
    refine head_word some_name (fun c hc => ?_) _
    have here := letters c hc
    unfold inName at here
    simp only [Bool.and_eq_true, Bool.not_eq_true'] at here
    exact here.1.1
  unfold nameAhead
  rw [Expr.dropWhile_stop silent number, Expr.dropWhile_stop isDay blank,
    Expr.dropWhile_stop blanks letter, Expr.takeWhile_stop name rest letters ends]

/-- The wording in front of the day has no digit. -/
theorem heading_silent :
    (Expr.seq heading).Only fun c => (decimalValue c).isNone = true := by
  have words : ∀ word : String, word.toList ⊆ alphabet → 'k' ∉ word.toList →
      (literal word).Only fun c => (decimalValue c).isNone = true := by
    intro word inside noK
    unfold literal
    apply Expr.only_seq
    intro r hr
    obtain ⟨c, hc, rfl⟩ := List.mem_map.1 hr
    intro x hx
    refine ignoreCase_forall (P := fun c => (decimalValue c).isNone) (inside hc) ?_
      (by decide +kernel) (by decide +kernel) hx
    rintro rfl
    exact noK hc
  have blanks : spaces.Only fun c => (decimalValue c).isNone = true := by
    intro c hc
    rw [space_not_digit hc]
    rfl
  have word_of : (Expr.seq [literal "of", spaces]).Only fun c => (decimalValue c).isNone = true :=
    ⟨words "of" (by decide) (by decide), blanks, trivial⟩
  exact ⟨words "current" (by decide) (by decide), blanks, words "as" (by decide) (by decide),
    blanks, ⟨word_of, trivial⟩, trivial⟩

/-- What the stamp expression does up to the month's name. -/
def beforeName : List (Expr CodePoint) := heading ++ [.group 1 (digits 1 2), spaces]

theorem reads_beforeName {c e : Cursor CodePoint} (h : e ∈ (Expr.seq beforeName).run c) :
    ∃ front day gap, (∀ x ∈ front, (decimalValue x).isNone = true) ∧ AllDigits day ∧ day ≠ [] ∧
      Blanks gap ∧ gap ≠ [] ∧ Reads c (front ++ (day ++ gap)) e := by
  unfold beforeName at h
  rw [Expr.run_seq_append] at h
  obtain ⟨d, hd, h⟩ := List.mem_flatMap.1 h
  obtain ⟨front, silent, readsFront⟩ := Expr.reads_only hd heading_silent
  obtain ⟨d', hd', h⟩ := Expr.mem_run_seq_cons.1 h
  obtain ⟨d'', hd'', same⟩ := List.mem_map.1 hd'
  obtain ⟨day, isDay, some_day, -, readsDay, -⟩ := Expr.reads_many hd''
  obtain ⟨gap, blanks, some_gap, readsGap⟩ := reads_blanks (mem_seq_one h)
  have moved : Reads d day d' := same ▸ ⟨readsDay.ahead, readsDay.behind⟩
  exact ⟨front, day, gap, silent, isDay, List.length_pos_iff.1 some_day, blanks,
    List.length_pos_iff.1 some_gap, readsFront.trans (moved.trans readsGap)⟩

/-- What follows the name in a match is none of its letters. -/
theorem afterName_head {lib : PyLib} {c e : Cursor CodePoint}
    (h : e ∈ (Expr.seq (afterName lib)).run c) : ∀ x ∈ c.ahead.head?, inName x = false := by
  intro x hx
  by_contra letter
  rw [Bool.not_eq_false] at letter
  unfold inName at letter
  simp only [Bool.and_eq_true, Bool.not_eq_true', bne_iff_ne] at letter
  obtain ⟨⟨noSpace, noPeriod⟩, noComma⟩ := letter
  have other : ∀ mark : Char, foldsAlone mark = true → mark.toLower = mark → mark.toUpper = mark →
      x ≠ point mark → ignoreCase mark x = false := by
    intro mark alone lower upper ne
    by_contra folded
    rw [Bool.not_eq_false] at folded
    have cases := ignoreCase_alone alone folded
    rw [lower, upper, or_self] at cases
    exact ne cases
  have dead : (Expr.seq (afterName lib)).run c = [] := by
    apply afterName_dead
    intro y hy
    obtain rfl : x = y := Option.some.inj (hx.symm.trans hy)
    exact ⟨other '.' (by decide) (by decide) (by decide) noPeriod,
      other ',' (by decide) (by decide) (by decide) noComma, noSpace⟩
  rw [dead] at h
  cases h

/-- **The month of a match is a name of the pattern**, in any case, and the word behind
the day. -/
theorem month_of_match {lib : PyLib} {start stop : Cursor CodePoint}
    (h : stop ∈ (stamp lib).run start) :
    ∃ name ∈ tokenNames, Cased name.toList (nameAhead start.ahead) ∧
      stop.group 2 = some (nameAhead start.ahead) := by
  have parts : stamp lib = .seq (beforeName ++ .group 2 monthToken :: afterName lib) := rfl
  have some_names : tokenNames.map literal ≠ [] := by decide
  have token : monthToken = Expr.oneOf (tokenNames.map literal) := rfl
  have unclosed : 2 ∉ (Expr.seq (afterName lib)).indices := by
    have indices : (Expr.seq (afterName lib)).indices = [3, 4, 5, 6, 7] := rfl
    rw [indices]
    decide
  rw [parts, Expr.run_seq_append] at h
  obtain ⟨d, hd, h⟩ := List.mem_flatMap.1 h
  obtain ⟨e, he, h⟩ := Expr.mem_run_seq_cons.1 h
  obtain ⟨f, hf, rfl⟩ := List.mem_map.1 he
  rw [token, Expr.run_oneOf some_names, List.flatMap_map] at hf
  obtain ⟨name, hname, hf⟩ := List.mem_flatMap.1 hf
  rw [literal_eq] at hf
  obtain ⟨word, matched, reads, -⟩ := Expr.reads_sets hf
  have cased : Cased name.toList word := List.forall₂_map_left_iff.1 matched
  have group : stop.group 2 = some word := by
    rw [Expr.closed_of_run h unclosed, ← reads.since]
    rfl
  have ahead : nameAhead start.ahead = word := by
    obtain ⟨front, day, gap, silent, isDay, some_day, blanks, some_gap, readsFront⟩ :=
      reads_beforeName hd
    have letters : ∀ c ∈ word, inName c = true := cased.forall (tokenNames_letters hname)
      (tokenNames_noK hname) (by decide +kernel) (by decide +kernel)
    have some_word : word ≠ [] := by
      rintro rfl
      have table : tokenNames.all (fun name => !name.toList.isEmpty) = true := by decide +kernel
      have empty : name.toList = [] := List.forall₂_nil_right_iff.1 cased
      simpa [empty] using List.all_eq_true.1 table name hname
    have ends := afterName_head h
    rw [readsFront.ahead, reads.ahead, List.append_assoc, List.append_assoc]
    exact nameAhead_append silent isDay some_day blanks some_gap letters ends some_word
  rw [ahead]
  exact ⟨name, hname, cased, group⟩

/-- **The month of a match is in the table exactly when it is written in ASCII.** -/
theorem stampMonth_ne_none_iff {lib : PyLib} (letters : LowersLetters lib)
    {start stop : Cursor CodePoint} (h : stop ∈ (stamp lib).run start) :
    stampMonth lib stop ≠ none ↔ ∀ c ∈ nameAhead start.ahead, c.val < 0x80 := by
  obtain ⟨name, hname, cased, group⟩ := month_of_match h
  have inside := tokenNames_letters hname
  have noK := tokenNames_noK hname
  have points := cased.points inside noK
  have lowered := letters.lower _ points
  unfold stampMonth
  rw [group, Option.getD_some]
  constructor
  · intro known c hc
    by_contra large
    have odd := (points c hc).resolve_left large
    apply known
    apply monthNumber_odd
    rw [lowered]
    exact odd_lower hc odd
  · intro ascii
    apply monthNumber_name hname
    rw [lowered, cased.lower inside noK ascii]
    rfl

/-! ## Every document -/

/-- Whenever the stamp expression matches, the table has the month; the parser answers,
and `_with_page_time` raises only what the zone's lookup raises. -/
structure MonthKnown (lib : PyLib) (document : PyStr) : Prop where
  known : ∀ text, cleanText lib document = some text → ∀ start stop,
    (stamp lib).search text = some (start, stop) → stampMonth lib stop ≠ none
  answers : ∃ answer, parsePageTime lib document = .ok answer
  observed : ∀ (τ : Type) (p : FirecrawlSourceProvider τ) (source : Source) (o : ObservationFields),
    p.lib = lib → (∀ e, p.terminalZone source ≠ .error e) →
      ∃ o', p.withPageTime source o document = .ok o'

/-- The document can be cleaned, and the first text on it that is shaped like a stamp
has a word in ASCII behind its day. -/
structure AsciiMonth (lib : PyLib) (document : PyStr) : Prop where
  first : ∃ text, cleanText lib document = some text ∧
    ∀ start, First (stamp lib) text start → ∀ c ∈ nameAhead start.ahead, c.val < 0x80

/-- A stamp with a known month is read. -/
theorem readStamp_ok {lib : PyLib} {start stop : Cursor CodePoint}
    (known : stampMonth lib stop ≠ none) : ∃ answer, readStamp lib start stop = .ok answer := by
  by_cases year : YearInRange stop
  · obtain ⟨month, hmonth⟩ := Option.ne_none_iff_exists'.1 known
    rw [readStamp_of_year year, hmonth]
    exact ⟨_, rfl⟩
  · exact ⟨none, readStamp_of_not_year year⟩

theorem withPageTime_ok {τ : Type} {p : FirecrawlSourceProvider τ} {source : Source}
    {o : ObservationFields} {document : PyStr} {answer : Option PageTime}
    (parsed : parsePageTime p.lib document = .ok answer)
    (zone : ∀ e, p.terminalZone source ≠ .error e) :
    ∃ o', p.withPageTime source o document = .ok o' := by
  unfold FirecrawlSourceProvider.withPageTime
  rw [parsed]
  cases answer with
  | none => exact ⟨_, rfl⟩
  | some found =>
    dsimp only
    cases hzone : p.terminalZone source with
    | error e => exact absurd hzone (zone e)
    | ok instant =>
      cases instant with
      | none => exact ⟨_, rfl⟩
      | some instant =>
        dsimp only
        split
        · exact ⟨_, rfl⟩
        · exact ⟨_, rfl⟩

/-- **The month is looked up without a miss exactly on the pages whose stamp writes it in
ASCII**, among those that can be cleaned. -/
theorem monthKnown_iff {lib : PyLib} (letters : LowersLetters lib) (document : PyStr) :
    MonthKnown lib document ↔ AsciiMonth lib document := by
  constructor
  · intro h
    obtain ⟨answer, answered⟩ := h.answers
    cases clean : cleanText lib document with
    | none => simp [parsePageTime, clean] at answered
    | some text =>
      refine ⟨text, clean, ?_⟩
      intro start first
      obtain ⟨stop, hstop, -⟩ := Expr.exists_search first
      have known := h.known text clean start stop (Expr.search_eq_some_iff.2 ⟨first, hstop⟩)
      exact (stampMonth_ne_none_iff letters (List.mem_of_head? hstop)).1 known
  · rintro ⟨text, clean, ascii⟩
    have known : ∀ start stop, (stamp lib).search text = some (start, stop) →
        stampMonth lib stop ≠ none := by
      intro start stop found
      obtain ⟨first, hstop⟩ := Expr.search_eq_some_iff.1 found
      exact (stampMonth_ne_none_iff letters (List.mem_of_head? hstop)).2
        (ascii start first)
    have answers : ∃ answer, parsePageTime lib document = .ok answer := by
      unfold parsePageTime
      rw [clean]
      dsimp only
      cases found : (stamp lib).search text with
      | none => exact ⟨none, rfl⟩
      | some match' => exact readStamp_ok (known _ _ found)
    refine ⟨?_, answers, ?_⟩
    · intro text' clean'
      obtain rfl := Option.some.inj (clean.symm.trans clean')
      exact known
    · rintro τ p source o rfl zone
      obtain ⟨answer, answered⟩ := answers
      exact withPageTime_ok answered zone

/-- The library on plain text and the odd letters. -/
def letterLib : PyLib := { plainLib with lower := fun text => text.flatMap lowerLetter }

theorem letterLib_lowers : LowersLetters letterLib := ⟨fun _ _ => rfl⟩

def capitalPage : PyStr := ofString "Current as of 1 SEPT 2026 at 0350"

/-- `SEPT` is found. -/
theorem capitalPage_known : MonthKnown letterLib capitalPage := by
  apply (monthKnown_iff letterLib_lowers capitalPage).2
  have clean : cleanText letterLib capitalPage = some capitalPage := by decide +kernel
  have ascii : ((stamp letterLib).search capitalPage).all (fun found =>
      (nameAhead found.1.ahead).all fun c => decide (c.val < 0x80)) = true := by decide +kernel
  refine ⟨capitalPage, clean, ?_⟩
  intro start first c hc
  obtain ⟨stop, hstop, -⟩ := Expr.exists_search first
  rw [Expr.search_eq_some_iff.2 ⟨first, hstop⟩, Option.all_some] at ascii
  exact of_decide_eq_true (List.all_eq_true.1 ascii c hc)

/-- `ſept`. -/
def longSPage : PyStr := ofString "Current as of 1 " ++ 0x17F :: ofString "ept 2026"

/-- The month is matched and not found. -/
theorem longSPage_raises : ¬ MonthKnown letterLib longSPage := by
  intro h
  obtain ⟨answer, answered⟩ := h.answers
  have raised : parsePageTime letterLib longSPage = .error .keyError := by decide +kernel
  rw [raised] at answered
  cases answered

end PaxPivot
