import PaxPivot.Library.Stripping

/-!
# Python text operations over code points

The parts of `str` and `int` that read identifiers: `strip`, `replace(old, "")`
and `int(text, 16)`. Text is a `List Char`. `int16` follows CPython 3.12: white
space at both ends, one sign, an optional `0x`, and digits of any script with
single underscores between them.

Behind them stands the round trip of fixed-width hexadecimal: `int16` reads back
what `toHex` writes. Last, what a text of joined lines tells of its lines.
-/

namespace PyText

/-- Unicode `White_Space`: what `int` skips at the ends of its text. -/
def whiteSpace (c : Char) : Bool :=
  let n := c.toNat
  (9 ≤ n && n ≤ 13) || n == 0x20 || n == 0x85 || n == 0xA0 || n == 0x1680 ||
    (0x2000 ≤ n && n ≤ 0x200A) || n == 0x2028 || n == 0x2029 || n == 0x202F || n == 0x205F ||
    n == 0x3000

/-- The zero of every decimal digit block (category `Nd`) of Unicode 15.0. -/
def decimalZeros : List Nat :=
  [0x30, 0x660, 0x6f0, 0x7c0, 0x966, 0x9e6, 0xa66, 0xae6, 0xb66, 0xbe6, 0xc66, 0xce6, 0xd66, 0xde6,
    0xe50, 0xed0, 0xf20, 0x1040, 0x1090, 0x17e0, 0x1810, 0x1946, 0x19d0, 0x1a80, 0x1a90, 0x1b50,
    0x1bb0, 0x1c40, 0x1c50, 0xa620, 0xa8d0, 0xa900, 0xa9d0, 0xa9f0, 0xaa50, 0xabf0, 0xff10, 0x104a0,
    0x10d30, 0x11066, 0x110f0, 0x11136, 0x111d0, 0x112f0, 0x11450, 0x114d0, 0x11650, 0x116c0,
    0x11730, 0x118e0, 0x11950, 0x11c50, 0x11d50, 0x11da0, 0x11f50, 0x16a60, 0x16ac0, 0x16b50,
    0x1d7ce, 0x1d7d8, 0x1d7e2, 0x1d7ec, 0x1d7f6, 0x1e140, 0x1e2f0, 0x1e4f0, 0x1e950, 0x1fbf0]

/-- The value of a decimal digit of any script. -/
def decimalValue (c : Char) : Option Nat :=
  (decimalZeros.find? fun z => z ≤ c.toNat && c.toNat < z + 10).map (c.toNat - ·)

/-- The value of a base 16 digit. -/
def hexValue (c : Char) : Option Nat :=
  if 'a' ≤ c ∧ c ≤ 'f' then some (c.toNat - 'a'.toNat + 10)
  else if 'A' ≤ c ∧ c ≤ 'F' then some (c.toNat - 'A'.toNat + 10)
  else decimalValue c

/-- `text.strip(chars)` for the characters that satisfy `p`. -/
def stripChars (p : Char → Bool) (text : List Char) : List Char :=
  ((text.dropWhile p).reverse.dropWhile p).reverse

/-- `text.replace(pat, "")` for a nonempty `pat`: `skip` counts the characters
of the current occurrence that are still to be dropped. -/
def removeAllFrom (pat : List Char) : Nat → List Char → List Char
  | _, [] => []
  | skip + 1, _ :: cs => removeAllFrom pat skip cs
  | 0, c :: cs =>
    if pat.isPrefixOf (c :: cs) then removeAllFrom pat (pat.length - 1) cs
    else c :: removeAllFrom pat 0 cs

def removeAll (pat text : List Char) : List Char := removeAllFrom pat 0 text

/-- The digits of `int(text, 16)`: at least one, an underscore only between two.
`prevDigit` says whether the character before was a digit. -/
def digitRun (acc : Nat) (prevDigit : Bool) : List Char → Option Nat
  | [] => if prevDigit then some acc else none
  | c :: cs =>
    if c = '_' then (if prevDigit then digitRun acc false cs else none)
    else match hexValue c with
      | some d => digitRun (16 * acc + d) true cs
      | none => none

/-- Drop a `0x` or `0X` and the one underscore that may follow it. -/
def dropHexPrefix : List Char → List Char
  | z :: x :: cs =>
    if decimalValue z = some 0 ∧ (x = 'x' ∨ x = 'X') then
      match cs with
      | '_' :: rest => rest
      | _ => cs
    else z :: x :: cs
  | cs => cs

/-- `int(text, 16)`, `none` for `ValueError`. -/
def int16 (text : List Char) : Option Int :=
  match stripChars whiteSpace text with
  | '-' :: cs => (digitRun 0 false (dropHexPrefix cs)).map fun n => -(n : Int)
  | '+' :: cs => (digitRun 0 false (dropHexPrefix cs)).map Int.ofNat
  | cs => (digitRun 0 false (dropHexPrefix cs)).map Int.ofNat

/-- `"%0{width}x" % n` for `n < 16 ^ width`. -/
def toHex : Nat → Nat → List Char
  | 0, _ => []
  | width + 1, n => toHex width (n / 16) ++ [Nat.digitChar (n % 16)]

/-! ## Stripping and replacing -/

theorem dropWhile_eq_self {p : Char → Bool} {t : List Char} (h : ∀ c ∈ t.head?, p c = false) :
    t.dropWhile p = t := by
  cases t with
  | nil => rfl
  | cons c cs => simp [h c (by simp)]

/-- Text whose two ends are kept is kept whole. -/
theorem stripChars_eq_self {p : Char → Bool} {t : List Char} (hhead : ∀ c ∈ t.head?, p c = false)
    (hlast : ∀ c ∈ t.getLast?, p c = false) : stripChars p t = t := by
  unfold stripChars
  rw [dropWhile_eq_self hhead, dropWhile_eq_self, List.reverse_reverse]
  simpa [List.head?_reverse] using hlast

theorem stripChars_of_forall {p : Char → Bool} {t : List Char} (h : ∀ c ∈ t, p c = false) :
    stripChars p t = t :=
  stripChars_eq_self (fun c hc => h c (List.mem_of_mem_head? hc))
    (fun c hc => h c (List.mem_of_getLast? hc))

/-- The ends of what is left are kept. -/
theorem stripChars_ends {p : Char → Bool} {t : List Char} :
    (∀ c ∈ (stripChars p t).head?, p c = false) ∧ ∀ c ∈ (stripChars p t).getLast?, p c = false :=
  ⟨Stripping.dropEnds_head, Stripping.dropEnds_getLast⟩

/-- Stripping once is enough. -/
theorem stripChars_idem (p : Char → Bool) (t : List Char) :
    stripChars p (stripChars p t) = stripChars p t :=
  Stripping.dropEnds_idem

/-- A pattern with a character the text lacks occurs nowhere in it. -/
theorem removeAll_eq_self {pat t : List Char} {p : Char} (hp : p ∈ pat) (ht : p ∉ t) :
    removeAll pat t = t := by
  unfold removeAll
  induction t with
  | nil => rfl
  | cons c cs ih =>
    have hno : pat.isPrefixOf (c :: cs) = false := by
      rw [Bool.eq_false_iff, ne_eq, List.isPrefixOf_iff_prefix]
      exact fun hpre => ht (hpre.subset hp)
    simp only [removeAllFrom, hno, Bool.false_eq_true, ↓reduceIte]
    rw [ih fun hmem => ht (List.mem_cons_of_mem _ hmem)]

theorem removeAll_singleton (x : Char) (t : List Char) : removeAll [x] t = t.filter (· ≠ x) := by
  unfold removeAll
  induction t with
  | nil => rfl
  | cons c cs ih =>
    by_cases hc : c = x
    · subst hc
      simpa [removeAllFrom, List.isPrefixOf] using ih
    · have hx : ¬ x = c := fun e => hc e.symm
      simpa [removeAllFrom, List.isPrefixOf, hc, hx] using ih

/-! ## The round trip of `toHex` -/

theorem digitChar_hex (d : Nat) (h : d < 16) :
    hexValue (Nat.digitChar d) = some d ∧ Nat.digitChar d ∈ "0123456789abcdef".toList := by
  have all : ∀ d < 16,
      hexValue (Nat.digitChar d) = some d ∧ Nat.digitChar d ∈ "0123456789abcdef".toList := by decide
  exact all d h

/-- The characters `toHex` writes. -/
theorem mem_toHex {width n : Nat} {c : Char} (h : c ∈ toHex width n) :
    c ∈ "0123456789abcdef".toList := by
  induction width generalizing n with
  | zero => simp [toHex] at h
  | succ width ih =>
    rcases List.mem_append.1 h with h | h
    · exact ih h
    · rw [List.mem_singleton] at h
      exact h ▸ (digitChar_hex _ (Nat.mod_lt _ (by decide))).2

@[simp] theorem length_toHex (width n : Nat) : (toHex width n).length = width := by
  induction width generalizing n with
  | zero => rfl
  | succ width ih => simp [toHex, ih]

/-- A lower-case hexadecimal digit as the tests of `int16` see it. -/
theorem hex_digit_plain {c : Char} (h : c ∈ "0123456789abcdef".toList) :
    whiteSpace c = false ∧ c ≠ '-' ∧ c ≠ '+' ∧ c ≠ '_' ∧ c ≠ 'x' ∧ c ≠ 'X' := by
  have all : "0123456789abcdef".toList.all (fun c => !whiteSpace c && c != '-' && c != '+' &&
      c != '_' && c != 'x' && c != 'X') = true := by decide
  simpa [and_assoc] using List.all_eq_true.1 all c h

/-- Reading digits and then one more. -/
theorem digitRun_snoc {t : List Char} (ht : ∀ c ∈ t, c ∈ "0123456789abcdef".toList) (d : Nat)
    (hd : d < 16) (acc : Nat) (prev : Bool) (hne : t ≠ [] ∨ prev = true) :
    digitRun acc prev (t ++ [Nat.digitChar d]) =
      (digitRun acc prev t).map fun n => 16 * n + d := by
  have digit := digitChar_hex d hd
  induction t generalizing acc prev with
  | nil =>
    have hprev : prev = true := by simpa using hne
    simp [digitRun, (hex_digit_plain digit.2).2.2.2.1, digit.1, hprev]
  | cons c cs ih =>
    have hc := hex_digit_plain (ht c (by simp))
    simp only [List.cons_append, digitRun, hc.2.2.2.1, ↓reduceIte]
    cases hexValue c with
    | none => rfl
    | some v => exact ih (fun c' h' => ht c' (by simp [h'])) _ _ (.inr rfl)

theorem digitRun_toHex (width n : Nat) :
    digitRun 0 false (toHex (width + 1) n) = some (n % 16 ^ (width + 1)) := by
  induction width generalizing n with
  | zero =>
    have digit := digitChar_hex (n % 16) (Nat.mod_lt _ (by decide))
    simp [toHex, digitRun, (hex_digit_plain digit.2).2.2.2.1, digit.1]
  | succ width ih =>
    have hne : toHex (width + 1) (n / 16) ≠ [] := by
      intro h
      simpa using congrArg List.length h
    rw [toHex, digitRun_snoc (fun _ => mem_toHex) _ (Nat.mod_lt _ (by decide)) _ _ (.inl hne), ih]
    simp only [Option.map_some, Option.some.injEq]
    rw [pow_succ' 16 (width + 1), Nat.mod_mul]
    omega

theorem dropHexPrefix_of_digits {t : List Char} (ht : ∀ c ∈ t, c ∈ "0123456789abcdef".toList) :
    dropHexPrefix t = t := by
  match t with
  | [] => rfl
  | [_] => rfl
  | z :: x :: cs =>
    have hx := (hex_digit_plain (ht x (by simp))).2.2.2.2
    simp [dropHexPrefix, hx.1, hx.2]

/-- **`int(_, 16)` reads back fixed-width hexadecimal.** -/
theorem int16_toHex (width n : Nat) (hn : n < 16 ^ (width + 1)) :
    int16 (toHex (width + 1) n) = some (n : Int) := by
  have hmem : ∀ c ∈ toHex (width + 1) n, c ∈ "0123456789abcdef".toList := fun _ => mem_toHex
  have hrun : digitRun 0 false (dropHexPrefix (toHex (width + 1) n)) = some n := by
    rw [dropHexPrefix_of_digits hmem, digitRun_toHex, Nat.mod_eq_of_lt hn]
  unfold int16
  rw [stripChars_of_forall fun c hc => (hex_digit_plain (hmem c hc)).1]
  split
  · rename_i cs h
    exact absurd rfl (hex_digit_plain (hmem '-' (by simp [h]))).2.1
  · rename_i cs h
    exact absurd rfl (hex_digit_plain (hmem '+' (by simp [h]))).2.2.1
  · simp [hrun]

/-! ## Joined lines -/

/-- A joined text is split into the parts of its first line and the other lines. -/
theorem splitOn_joined {α : Type} [DecidableEq α] {sep : α} (first : List α) {rest : List (List α)}
    (h : ∀ line ∈ rest, sep ∉ line) :
    ([sep].intercalate (first :: rest)).splitOn sep = first.splitOn sep ++ rest := by
  cases rest with
  | nil => rw [List.intercalate_singleton, List.append_nil]
  | cons line rest =>
    rw [List.intercalate_cons_cons, List.append_assoc, List.singleton_append,
      List.splitOn_append_cons_self, List.splitOn_intercalate sep h (by simp)]

/-- Lines are told apart by the text they are joined to, when only the first has
separators. -/
theorem joined_inj {α : Type} [DecidableEq α] {sep : α} {first first' : List α}
    {rest rest' : List (List α)} (length : rest.length = rest'.length)
    (h : ∀ line ∈ rest, sep ∉ line) (h' : ∀ line ∈ rest', sep ∉ line)
    (same : [sep].intercalate (first :: rest) = [sep].intercalate (first' :: rest')) :
    first = first' ∧ rest = rest' := by
  have split := congrArg (List.splitOn sep) same
  rw [splitOn_joined first h, splitOn_joined first' h'] at split
  obtain ⟨parts, lines⟩ := List.append_inj' split length
  have back := congrArg (List.intercalate [sep]) parts
  rw [List.intercalate_splitOn, List.intercalate_splitOn] at back
  exact ⟨back, lines⟩

theorem joinedLines_inj {first first' : String} {rest rest' : List String}
    (length : rest.length = rest'.length) (h : ∀ line ∈ rest, '\n' ∉ line.toList)
    (h' : ∀ line ∈ rest', '\n' ∉ line.toList)
    (same : "\n".intercalate (first :: rest) = "\n".intercalate (first' :: rest')) :
    first = first' ∧ rest = rest' := by
  have newline : "\n".toList = ['\n'] := rfl
  have texts := congrArg String.toList same
  rw [String.toList_intercalate, String.toList_intercalate, newline, List.map_cons,
    List.map_cons] at texts
  obtain ⟨firsts, rests⟩ := joined_inj (by simpa using length) (List.forall_mem_map.2 h)
    (List.forall_mem_map.2 h') texts
  exact ⟨String.toList_inj.1 firsts,
    List.map_injective_iff.2 (fun _ _ => String.toList_inj.1) rests⟩

end PyText
