import PaxPivot.Library.CodePoints
import PaxPivot.Library.WebUrl

/-!
# Form encoding

`encodeURIComponent` and `application/x-www-form-urlencoded`, as URL queries and form
bodies carry them. ASCII text comes back unchanged.
-/

namespace FormEncoding

open WebUrl (encodeChar encode percentByte specialQuerySet)

/-- What `encodeURIComponent` escapes. -/
def uriComponentSet (c : Char) : Bool :=
  !(c.isAlphanum || ['-', '_', '.', '!', '~', '*', Char.ofNat 0x27, '(', ')'].contains c)

/-- What a form escapes, but for the space. -/
def formSet (c : Char) : Bool := !(c.isAlphanum || ['*', '-', '.', '_'].contains c)

def formEncode (text : List Char) : List Char :=
  text.flatMap fun c => if c = ' ' then ['+'] else encodeChar formSet c

/-- `name=value&…`. -/
def formSerialize (pairs : List (List Char × List Char)) : List Char :=
  ['&'].intercalate (pairs.map fun pair => formEncode pair.1 ++ '=' :: formEncode pair.2)

/-- The byte of an escape that begins with `b`. -/
def escapedByte (b : UInt8) : List UInt8 → Option Nat
  | h :: l :: _ =>
    if b = 0x25 then
      PyStr.escaped (Fin.ofNat _ h.toNat) (Fin.ofNat _ l.toNat)
    else none
  | _ => none

/-- Percent-decoding; `skip` counts the bytes of the current escape still to be passed. -/
def percentDecode : Nat → List UInt8 → List Nat
  | _, [] => []
  | skip + 1, _ :: rest => percentDecode skip rest
  | 0, b :: rest =>
    match escapedByte b rest with
    | some value => value :: percentDecode 2 rest
    | none => b.toNat :: percentDecode 0 rest

/-- A name or a value as it is read. -/
def formDecode (text : List Char) : List Char :=
  let spaced := text.map fun c => if c = '+' then ' ' else c
  (PyStr.decodeUtf8 {} (percentDecode 0 (spaced.flatMap String.utf8EncodeChar))).map
    fun c => Char.ofNat c.val

/-- A part splits at its first equals sign. -/
def readPair (part : List Char) : List Char × List Char :=
  (formDecode (part.takeWhile (· != '=')), formDecode ((part.dropWhile (· != '=')).drop 1))

def formParse (text : List Char) : List (List Char × List Char) :=
  ((text.splitOn '&').filter (· ≠ [])).map readPair

/-! ## ASCII comes back -/

/-- The bytes of ASCII text. -/
def asciiBytes (text : List Char) : List UInt8 := text.map fun c => UInt8.ofNat c.toNat

theorem utf8_ascii {text : List Char} (h : ∀ c ∈ text, c.toNat < 0x80) :
    text.flatMap String.utf8EncodeChar = asciiBytes text := by
  induction text with
  | nil => rfl
  | cons c rest ih =>
    have hc : String.utf8EncodeChar c = [UInt8.ofNat c.toNat] := by
      have small : c.val.toNat ≤ 0x7F := by
        have := h c (by simp)
        show c.toNat ≤ 0x7F
        omega
      unfold String.utf8EncodeChar
      rw [if_pos small]
      rfl
    rw [List.flatMap_cons, hc, ih fun d hd => h d (by simp [hd])]
    rfl

/-- A hexadecimal digit of an escape tells its value. -/
theorem hexValue_hexDigit : ∀ n < 16, PyStr.hexValue
    (Fin.ofNat _ (UInt8.ofNat (WebUrl.hexDigit n).toNat).toNat) = some n := by
  decide

/-- **An escape decodes to its byte.** -/
theorem percentDecode_percentByte (b : UInt8) (rest : List UInt8) :
    percentDecode 0 (asciiBytes (percentByte b) ++ rest) = b.toNat :: percentDecode 0 rest := by
  have hb := b.toNat_lt
  have value : escapedByte 0x25 (UInt8.ofNat (WebUrl.hexDigit (b.toNat / 16)).toNat ::
      UInt8.ofNat (WebUrl.hexDigit (b.toNat % 16)).toNat :: rest) = some b.toNat := by
    simp only [escapedByte, ↓reduceIte, PyStr.escaped,
      hexValue_hexDigit (b.toNat / 16) (by omega), hexValue_hexDigit (b.toNat % 16) (by omega)]
    congr 1
    omega
  show percentDecode 0 (0x25 :: _ :: _ :: rest) = _
  rw [percentDecode, value]
  rfl

/-- ASCII bytes are their own characters. -/
theorem decodeUtf8_ascii {bytes : List Nat} (h : ∀ b ∈ bytes, b < 0x80) :
    PyStr.decodeUtf8 {} bytes = bytes.map (Fin.ofNat _) := by
  induction bytes with
  | nil => rfl
  | cons b rest ih =>
    have hb : PyStr.Utf8.start b = ([Fin.ofNat _ b], {}) := if_pos (h b (by simp))
    rw [PyStr.decodeUtf8, if_pos rfl, hb, ih fun d hd => h d (by simp [hd])]
    rfl

section Components

variable {set : Char → Bool}

/-- The set has every mark that a form reads as something else. -/
structure Covers (set : Char → Bool) : Prop where
  plus : set '+' = true
  percent : set '%' = true
  ampersand : set '&' = true

/-- An encoding writes escapes, and what is outside the set. -/
theorem mem_encode {text : List Char} {d : Char} (h : d ∈ encode set text) :
    d ∈ WebUrl.escapeChars ∨ (d ∈ text ∧ set d = false) := by
  obtain ⟨c, hc, hd⟩ := List.mem_flatMap.1 h
  unfold encodeChar at hd
  split at hd
  · obtain ⟨b, -, hd⟩ := List.mem_flatMap.1 hd
    exact .inl (WebUrl.mem_percentByte hd)
  case isFalse outside =>
    obtain rfl := List.mem_singleton.1 hd
    exact .inr ⟨hc, by simpa using outside⟩

/-- No mark in the set is written, unless an escape has it. -/
theorem not_mem_encode {text : List Char} {d : Char} (hset : set d = true)
    (hescape : d ∉ WebUrl.escapeChars) : d ∉ encode set text := by
  intro h
  obtain hd | ⟨-, hd⟩ := mem_encode h
  · exact hescape hd
  · rw [hset] at hd
    cases hd

theorem escapeChars_ascii {c : Char} (h : c ∈ WebUrl.escapeChars) : c.toNat < 0x80 := by
  have visible := WebUrl.plainChar_visible (WebUrl.escapeChars_plain h).2.1
  omega

/-- The escapes of ASCII text decode to it. -/
theorem percentDecode_encode (covers : Covers set) {text : List Char}
    (h : ∀ c ∈ text, c.toNat < 0x80) :
    percentDecode 0 (asciiBytes (encode set text)) = text.map Char.toNat := by
  induction text with
  | nil => rfl
  | cons c rest ih =>
    have hc := h c (by simp)
    have hrest := ih fun d hd => h d (by simp [hd])
    have append : asciiBytes (encode set (c :: rest)) =
        asciiBytes (encodeChar set c) ++ asciiBytes (encode set rest) := by
      simp [asciiBytes, encode]
    have small : (UInt8.ofNat c.toNat).toNat = c.toNat := by
      rw [UInt8.toNat_ofNat', Nat.mod_eq_of_lt]
      omega
    rw [append, List.map_cons, ← hrest]
    unfold encodeChar
    split
    · have bytes : String.utf8EncodeChar c = [UInt8.ofNat c.toNat] := by
        simpa [asciiBytes] using @utf8_ascii [c] (by simpa using hc)
      rw [bytes, List.flatMap_cons, List.flatMap_nil, List.append_nil, percentDecode_percentByte,
        small]
    case isFalse outside =>
      have other : escapedByte (UInt8.ofNat c.toNat) (asciiBytes (encode set rest)) = none := by
        have hpercent : UInt8.ofNat c.toNat ≠ 0x25 := by
          intro same
          have value := congrArg UInt8.toNat same
          rw [small] at value
          obtain rfl : c = '%' := Char.toNat_inj.1 value
          exact outside covers.percent
        unfold escapedByte
        split
        · rw [if_neg hpercent]
        · rfl
      show percentDecode 0 (UInt8.ofNat c.toNat :: asciiBytes (encode set rest)) = _
      rw [percentDecode, other, small]

/-- **What is encoded decodes to itself.** -/
theorem formDecode_encode (covers : Covers set) {text : List Char}
    (h : ∀ c ∈ text, c.toNat < 0x80) : formDecode (encode set text) = text := by
  have spaced : (encode set text).map (fun c => if c = '+' then ' ' else c) = encode set text := by
    apply (List.map_congr_left _).trans (List.map_id _)
    intro c hc
    apply if_neg
    rintro rfl
    exact not_mem_encode covers.plus (by decide) hc
  have ascii : ∀ c ∈ encode set text, c.toNat < 0x80 := by
    intro c hc
    obtain hc | ⟨hc, -⟩ := mem_encode hc
    · exact escapeChars_ascii hc
    · exact h c hc
  unfold formDecode
  dsimp only
  rw [spaced, utf8_ascii ascii, percentDecode_encode covers h, decodeUtf8_ascii (by simpa using h),
    List.map_map, List.map_map]
  apply (List.map_congr_left _).trans (List.map_id _)
  intro c hc
  have small := h c hc
  show Char.ofNat (c.toNat % 0x110000) = c
  rw [Nat.mod_eq_of_lt (by omega), Char.ofNat_toNat]

/-- A pair reads back, whatever its name decodes to. -/
theorem readPair_encode (covers : Covers set) {name value : List Char} (hname : '=' ∉ name)
    (h : ∀ c ∈ value, c.toNat < 0x80) :
    readPair (name ++ '=' :: encode set value) = (formDecode name, value) := by
  have before : ∀ c ∈ name, (c != '=') = true := by
    intro c hc
    rw [bne_iff_ne]
    rintro rfl
    exact hname hc
  unfold readPair
  rw [List.takeWhile_append_of_pos before, List.dropWhile_append_of_pos before,
    List.takeWhile_cons_of_neg (by simp), List.dropWhile_cons_of_neg (by simp), List.append_nil,
    List.drop_one, List.tail_cons, formDecode_encode covers h]

/-- **The first pair of a query or a body reads back**, alone or before others. -/
theorem formParse_head (covers : Covers set) {name value : List Char} (hname : '=' ∉ name)
    (hpart : '&' ∉ name) (h : ∀ c ∈ value, c.toNat < 0x80) (more : List Char) :
    formParse (name ++ '=' :: encode set value) = [(formDecode name, value)] ∧
      formParse (name ++ '=' :: encode set value ++ '&' :: more) =
        (formDecode name, value) :: formParse more := by
  have whole : '&' ∉ name ++ '=' :: encode set value := by
    intro hmem
    obtain hmem | hmem := List.mem_append.1 hmem
    · exact hpart hmem
    · obtain _ | ⟨_, hmem⟩ := hmem
      exact not_mem_encode covers.ampersand (by decide) hmem
  have kept : name ++ '=' :: encode set value ≠ [] := by simp
  unfold formParse
  constructor
  · rw [List.splitOn_eq_singleton whole]
    simp [kept, readPair_encode covers hname h]
  · rw [List.splitOn_append_cons_self_of_not_mem whole]
    simp [kept, readPair_encode covers hname h]

end Components

end FormEncoding
