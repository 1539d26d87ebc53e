import Mathlib

/-!
# JavaScript strings

A string is its UTF-16 code units. Here is what reads and writes numbers in them,
and the comparison that folds every difference of two strings into one 32-bit word.
-/

abbrev CodeUnit := BitVec 16

abbrev JsString := List CodeUnit

namespace JsText

/-- The code unit of a character below U+10000. -/
def unit (c : Char) : CodeUnit := BitVec.ofNat 16 c.toNat

def utf16 (c : Char) : JsString :=
  if c.toNat < 0x10000 then [unit c]
  else
    let n := c.toNat - 0x10000
    [BitVec.ofNat 16 (0xD800 + n / 0x400), BitVec.ofNat 16 (0xDC00 + n % 0x400)]

def ofString (text : String) : JsString := text.toList.flatMap utf16

def isHigh (u : CodeUnit) : Bool := 0xD800 ≤ u.toNat && u.toNat ≤ 0xDBFF

def isLow (u : CodeUnit) : Bool := 0xDC00 ≤ u.toNat && u.toNat ≤ 0xDFFF

def replacement : Char := Char.ofNat 0xFFFD

/-- The scalar values of a string after a high surrogate, or after none. A surrogate
that stands alone is U+FFFD. -/
def scalarsFrom (high : Option CodeUnit) : JsString → List Char
  | [] => high.toList.map fun _ => replacement
  | u :: rest =>
    match high with
    | some h =>
      if isLow u then
        Char.ofNat (0x10000 + (h.toNat - 0xD800) * 0x400 + (u.toNat - 0xDC00)) ::
          scalarsFrom none rest
      else if isHigh u then replacement :: scalarsFrom (some u) rest
      else replacement :: Char.ofNat u.toNat :: scalarsFrom none rest
    | none =>
      if isHigh u then scalarsFrom (some u) rest
      else if isLow u then replacement :: scalarsFrom none rest
      else Char.ofNat u.toNat :: scalarsFrom none rest

/-- The scalar values of a string, as the Web takes it. -/
def scalars (text : JsString) : List Char := scalarsFrom none text

/-- The string of some scalar values. -/
def ofScalars (text : List Char) : JsString := text.flatMap utf16

/-- ASCII is one code unit a character. -/
theorem ofScalars_eq_map {text : List Char} (h : ∀ c ∈ text, c.toNat < 0x80) :
    ofScalars text = text.map unit := by
  induction text with
  | nil => rfl
  | cons c rest ih =>
    have hc : utf16 c = [unit c] := if_pos (by have := h c (by simp); omega)
    show utf16 c ++ ofScalars rest = _
    rw [hc, ih fun d hd => h d (by simp [hd])]
    rfl

theorem unit_toNat_of_lt {c : Char} (h : c.toNat < 0x80) : (unit c).toNat = c.toNat := by
  unfold unit
  rw [BitVec.toNat_ofNat, Nat.mod_eq_of_lt]
  omega

/-- ASCII text reads back as itself. -/
theorem scalars_ofScalars {text : List Char} (h : ∀ c ∈ text, c.toNat < 0x80) :
    scalars (ofScalars text) = text := by
  rw [ofScalars_eq_map h]
  unfold scalars
  induction text with
  | nil => rfl
  | cons c rest ih =>
    have hc := h c (by simp)
    have value := unit_toNat_of_lt hc
    have high : isHigh (unit c) = false := by simp [isHigh, value]; omega
    have low : isLow (unit c) = false := by simp [isLow, value]; omega
    simp only [List.map_cons, scalarsFrom, high, low, Bool.false_eq_true, ↓reduceIte, value,
      Char.ofNat_toNat, ih fun d hd => h d (by simp [hd])]

/-! ## Digits -/

def isDigit (u : CodeUnit) : Bool := 0x30 ≤ u.toNat && u.toNat ≤ 0x39

/-- `/^\d+$/.test(s)`. -/
def allDigits (s : JsString) : Bool := s ≠ [] && s.all isDigit

/-- `Number(s)` of a run of digits. A double rounds it from 2 ^ 53 on. -/
def number (s : JsString) : Nat := Nat.ofDigitChars 10 (s.map fun u => Char.ofNat u.toNat) 0

/-- `String(n)`. -/
def decimal (n : Nat) : JsString := (Nat.toDigits 10 n).map unit

theorem toNat_of_isDigit {c : Char} (h : c.isDigit = true) : 0x30 ≤ c.toNat ∧ c.toNat ≤ 0x39 := by
  simp only [Char.isDigit, Bool.and_eq_true, decide_eq_true_eq] at h
  exact ⟨UInt32.le_iff_toNat_le.1 h.1, UInt32.le_iff_toNat_le.1 h.2⟩

theorem unit_toNat {c : Char} (h : c.isDigit = true) : (unit c).toNat = c.toNat := by
  have := toNat_of_isDigit h
  unfold unit
  rw [BitVec.toNat_ofNat, Nat.mod_eq_of_lt]
  omega

theorem isDigit_of_mem_decimal {n : Nat} {u : CodeUnit} (h : u ∈ decimal n) : isDigit u = true := by
  obtain ⟨c, hc, rfl⟩ := List.mem_map.1 h
  have digit := Nat.isDigit_of_mem_toDigits (by decide) (by decide) hc
  have := toNat_of_isDigit digit
  unfold isDigit
  rw [unit_toNat digit]
  simpa using this

theorem allDigits_decimal (n : Nat) : allDigits (decimal n) = true := by
  unfold allDigits
  rw [Bool.and_eq_true, List.all_eq_true]
  refine ⟨?_, fun u hu => isDigit_of_mem_decimal hu⟩
  simp [decimal, Nat.toDigits_ne_nil]

/-- A number is read back as itself. -/
theorem number_decimal (n : Nat) : number (decimal n) = n := by
  unfold number decimal
  rw [List.map_map]
  have same : (Nat.toDigits 10 n).map ((fun u => Char.ofNat u.toNat) ∘ unit) =
      Nat.toDigits 10 n := by
    apply (List.map_congr_left ?_).trans (List.map_id _)
    intro c hc
    have digit := Nat.isDigit_of_mem_toDigits (by decide) (by decide) hc
    show Char.ofNat (unit c).toNat = c
    rw [unit_toNat digit, Char.ofNat_toNat]
  rw [same, Nat.ofDigitChars_ten_toDigits]

/-! ## Splitting -/

/-- A string with one separator splits in two. -/
theorem splitOn_pair {dot : CodeUnit} {s t : JsString} (hs : dot ∉ s) (ht : dot ∉ t) :
    (s ++ dot :: t).splitOn dot = [s, t] := by
  rw [List.splitOn_append_cons_self_of_not_mem hs, List.splitOn_eq_singleton ht]

theorem eq_of_splitOn_pair {dot : CodeUnit} {text s t : JsString}
    (h : text.splitOn dot = [s, t]) : text = s ++ dot :: t := by
  have parts : [dot].intercalate (text.splitOn dot) = text := List.intercalate_splitOn dot
  rw [h] at parts
  rw [← parts]
  simp [List.intercalate]

/-- A string with one separator has one pair of parts. -/
theorem pair_inj {dot : CodeUnit} {a b s t : JsString} (hs : dot ∉ s) (ht : dot ∉ t)
    (h : a ++ dot :: b = s ++ dot :: t) : a = s ∧ b = t := by
  rcases List.append_eq_append_iff.1 h with ⟨rest, rfl, hrest⟩ | ⟨rest, rfl, hrest⟩
  · cases rest with
    | nil => simpa using hrest
    | cons c rest =>
      obtain ⟨rfl, -⟩ := List.cons.inj hrest
      exact absurd (by simp) hs
  · cases rest with
    | nil => simpa [eq_comm] using hrest
    | cons c rest =>
      obtain ⟨-, rfl⟩ := List.cons.inj hrest
      exact absurd (by simp) ht

/-! ## Comparing -/

/-- `s.charCodeAt(i) || 0`, as a 32-bit word. -/
def charCodeAt (s : JsString) (i : Nat) : BitVec 32 :=
  match s[i]? with
  | some u => u.setWidth 32
  | none => 0#32

/-- What `|=` accumulates is zero when every part is. -/
theorem foldl_or_eq_zero_iff {w : Nat} {f : Nat → BitVec w} {is : List Nat} {diff : BitVec w} :
    is.foldl (fun diff i => diff ||| f i) diff = 0#w ↔ diff = 0#w ∧ ∀ i ∈ is, f i = 0#w := by
  induction is generalizing diff with
  | nil => simp
  | cons i rest ih =>
    rw [List.foldl_cons, ih, BitVec.or_eq_zero_iff, and_assoc]
    simp

theorem charCodeAt_inj {s t : JsString} {i : Nat} (hs : i < s.length) (ht : i < t.length)
    (h : charCodeAt s i = charCodeAt t i) : s[i] = t[i] := by
  unfold charCodeAt at h
  rw [List.getElem?_eq_getElem hs, List.getElem?_eq_getElem ht] at h
  apply BitVec.eq_of_toNat_eq
  have same := congrArg BitVec.toNat h
  have hs := s[i].isLt
  have ht := t[i].isLt
  simp only [BitVec.toNat_setWidth] at same
  omega

end JsText
