import Mathlib
import PaxPivot.Library.PyText
import PaxPivot.Library.Regex

/-!
# Python strings as code points

A `str` that came out of JSON may hold lone surrogates, which a `String` cannot.
`PyStr` holds any code points. Here are the operations on it that need no table
beyond those of `PyText`; the others are the fields of `PyLib`.
-/

abbrev CodePoint := Fin 0x110000

instance CodePoint.neZero : NeZero 0x110000 := ⟨by decide⟩

abbrev PyStr := List CodePoint

/-- The functions of the standard library that rest on tables of their own:
`PyLib` takes any. -/
structure PyLib where
  /-- `\w`: a letter, a digit of any kind or an underscore. -/
  isWord : CodePoint → Bool
  /-- `str.lower`. -/
  lower : PyStr → PyStr
  /-- `html.unescape`, `none` for `ValueError`. -/
  unescape : PyStr → Option PyStr
  /-- `urllib.parse.urljoin`, `none` for `ValueError`. -/
  urljoin : PyStr → PyStr → Option PyStr
  /-- SHA-256 of the text in UTF-8, surrogates passed. -/
  sha256 : PyStr → Fin (2 ^ 256)

namespace PyStr

theorem toNat_lt (c : Char) : c.toNat < 0x110000 := by
  have valid := c.valid
  show c.val.toNat < 0x110000
  unfold UInt32.isValidChar Nat.isValidChar at valid
  omega

def point (c : Char) : CodePoint := ⟨c.toNat, toNat_lt c⟩

def ofString (text : String) : PyStr := text.toList.map point

/-- `str.isspace`, also `\s`. -/
def isSpace (c : CodePoint) : Bool :=
  let n := c.val
  (9 ≤ n && n ≤ 13) || (0x1C ≤ n && n ≤ 0x20) || n == 0x85 || n == 0xA0 || n == 0x1680 ||
    (0x2000 ≤ n && n ≤ 0x200A) || n == 0x2028 || n == 0x2029 || n == 0x202F || n == 0x205F ||
    n == 0x3000

/-- `text.strip()`. -/
def strip (text : PyStr) : PyStr :=
  ((text.dropWhile isSpace).reverse.dropWhile isSpace).reverse

/-- The value of a decimal digit of any script, also `\d`. -/
def decimalValue (c : CodePoint) : Option Nat :=
  (PyText.decimalZeros.find? fun z => z ≤ c.val && c.val < z + 10).map (c.val - ·)

/-- The number that a run of digits writes. -/
def number (digits : PyStr) : Nat :=
  digits.foldl (fun acc c => 10 * acc + (decimalValue c).getD 0) 0

/-- The digits of `int(text)`: at least one, an underscore only between two.
`prevDigit` says whether the character before was a digit. -/
def digitRun (prevDigit : Bool) : PyStr → Option PyStr
  | [] => if prevDigit then some [] else none
  | c :: cs =>
    if c = point '_' then (if prevDigit then digitRun false cs else none)
    else if (decimalValue c).isSome then (digitRun true cs).map (c :: ·)
    else none

/-- `int(text)`, `none` for `ValueError`; it reads 4300 digits at most. -/
def int (text : PyStr) : Option Int :=
  let white (c : CodePoint) : Bool := isSpace c && !(0x1C ≤ c.val && c.val ≤ 0x1F)
  let body := ((text.dropWhile white).reverse.dropWhile white).reverse
  let digits := if body.head? = some (point '-') ∨ body.head? = some (point '+') then body.tail
    else body
  match digitRun false digits with
  | none => none
  | some run =>
    if 4300 < run.length then none
    else some (if body.head? = some (point '-') then -(number run : Int) else number run)

/-! ## Case-insensitive matching -/

/-- What an ASCII letter or mark of a pattern stands for under `re.IGNORECASE`: both
cases, and the code points that fold to it. -/
def ignoreCase (c : Char) (x : CodePoint) : Bool :=
  x = point c.toLower || x = point c.toUpper ||
    match c.toLower with
    | 'i' => x.val == 0x130 || x.val == 0x131
    | 's' => x.val == 0x17F
    | 'k' => x.val == 0x212A
    | _ => false

open Regex (Expr)

/-- A word of a pattern, in any case. -/
def literal (word : String) : Expr CodePoint :=
  .seq (word.toList.map fun c => .set (ignoreCase c))

/-- `\s+`. -/
def spaces : Expr CodePoint := .many isSpace 1 none

/-- `\s*`. -/
def anySpaces : Expr CodePoint := .many isSpace 0 none

/-- `\d{least,most}`. -/
def digits (least most : Nat) : Expr CodePoint :=
  .many (fun c => (decimalValue c).isSome) least (some most)

/-! ## Percent-decoding -/

def replacement : CodePoint := 0xFFFD

/-- A UTF-8 sequence under way: how many bytes it still needs, the bounds of the
next one and the bits read so far. -/
structure Utf8 where
  needed : Nat := 0
  lower : Nat := 0x80
  upper : Nat := 0xBF
  bits : Nat := 0

/-- The first byte of a sequence: what it yields at once, and what is under way. -/
def Utf8.start (b : Nat) : PyStr × Utf8 :=
  if b < 0x80 then ([Fin.ofNat _ b], {})
  else if 0xC2 ≤ b ∧ b ≤ 0xDF then ([], { needed := 1, bits := b - 0xC0 })
  else if 0xE0 ≤ b ∧ b ≤ 0xEF then
    -- No overlong form, no surrogate.
    ([], { needed := 2, bits := b - 0xE0, lower := if b = 0xE0 then 0xA0 else 0x80
           upper := if b = 0xED then 0x9F else 0xBF })
  else if 0xF0 ≤ b ∧ b ≤ 0xF4 then
    ([], { needed := 3, bits := b - 0xF0, lower := if b = 0xF0 then 0x90 else 0x80
           upper := if b = 0xF4 then 0x8F else 0xBF })
  else ([replacement], {})

/-- `bytes.decode("utf-8", "replace")`. -/
def decodeUtf8 : Utf8 → List Nat → PyStr
  | s, [] => if s.needed = 0 then [] else [replacement]
  | s, b :: rest =>
    if s.needed = 0 then (Utf8.start b).1 ++ decodeUtf8 (Utf8.start b).2 rest
    else if s.lower ≤ b ∧ b ≤ s.upper then
      let bits := 64 * s.bits + (b - 0x80)
      if s.needed = 1 then Fin.ofNat _ bits :: decodeUtf8 {} rest
      else decodeUtf8 { needed := s.needed - 1, bits } rest
    else replacement :: ((Utf8.start b).1 ++ decodeUtf8 (Utf8.start b).2 rest)

/-- The value of an ASCII hexadecimal digit. -/
def hexValue (c : CodePoint) : Option Nat :=
  if 0x30 ≤ c.val ∧ c.val ≤ 0x39 then some (c.val - 0x30)
  else if 0x41 ≤ c.val ∧ c.val ≤ 0x46 then some (c.val - 0x41 + 10)
  else if 0x61 ≤ c.val ∧ c.val ≤ 0x66 then some (c.val - 0x61 + 10)
  else none

/-- The byte of a percent escape. -/
def escaped (h l : CodePoint) : Option Nat :=
  match hexValue h, hexValue l with
  | some a, some b => some (16 * a + b)
  | _, _ => none

/-- `unquote`: each run of ASCII is decoded by itself. `bytes` are those of the
current run, last first; `skip` counts the characters of the current escape still
to be passed. -/
def unquoteFrom : Nat → List Nat → PyStr → PyStr
  | _, bytes, [] => decodeUtf8 {} bytes.reverse
  | skip + 1, bytes, _ :: rest => unquoteFrom skip bytes rest
  | 0, bytes, c :: rest =>
    if 0x80 ≤ c.val then decodeUtf8 {} bytes.reverse ++ c :: unquoteFrom 0 [] rest
    else match (if c = point '%' then rest.head?.bind fun h => rest[1]?.bind (escaped h)
        else none) with
      | some byte => unquoteFrom 2 (byte :: bytes) rest
      | none => unquoteFrom 0 (c.val :: bytes) rest

def unquote (text : PyStr) : PyStr := unquoteFrom 0 [] text

example : unquote (ofString "72-hr%20a%2Fb%C3%A9%") = ofString "72-hr a/bé%" := by decide

end PyStr
