import PaxPivot.Library.FormEncoding
import PaxPivot.Library.PyText
import PaxPivot.Library.Utf8

/-!
# Forms of any text

What a form writes is read back: names and values of any characters, any number of pairs. The
written text is visible ASCII without the marks that part URLs.
-/

namespace FormEncoding

open WebUrl (encodeChar percentByte)

/-- What stands for a character in a form. -/
def formChar (c : Char) : List Char := if c = ' ' then ['+'] else encodeChar formSet c

theorem formEncode_cons (c : Char) (text : List Char) :
    formEncode (c :: text) = formChar c ++ formEncode text := List.flatMap_cons

/-- The marks that a form leaves as they are. -/
def formMarks : List Char := ['*', '-', '.', '_']

theorem formSet_eq_false_iff {c : Char} :
    formSet c = false ↔ c.isAlphanum = true ∨ c ∈ formMarks := by
  unfold formSet
  rw [Bool.not_eq_false', Bool.or_eq_true, List.contains_iff_mem]
  rfl

theorem ascii_of_isAlphanum {c : Char} (h : c.isAlphanum = true) :
    0x30 ≤ c.toNat ∧ c.toNat ≤ 0x7A := by
  simp [Char.isAlphanum, Char.isAlpha, Char.isUpper, Char.isLower, Char.isDigit,
    UInt32.le_iff_toNat_le] at h
  omega

/-- What parts forms and URLs, or ends a link in a page. -/
def urlMarks : List Char := ['&', '=', '#', '?', '"', '<', '>', Char.ofNat 0x27]

/-- What a form leaves alone is visible, and no mark. -/
theorem formSet_false {c : Char} (h : formSet c = false) :
    (0x20 < c.toNat ∧ c.toNat ≤ 0x7E) ∧ c ∉ '+' :: '%' :: urlMarks := by
  rcases formSet_eq_false_iff.1 h with letter | mark
  · have range := ascii_of_isAlphanum letter
    refine ⟨by omega, ?_⟩
    intro other
    have all : ('+' :: '%' :: urlMarks).all (fun c => !c.isAlphanum) = true := by decide
    have := List.all_eq_true.1 all c other
    rw [letter] at this
    cases this
  · have all : formMarks.all (fun c => decide ((0x20 < c.toNat ∧ c.toNat ≤ 0x7E) ∧
        c ∉ '+' :: '%' :: urlMarks)) = true := by decide
    simpa using List.all_eq_true.1 all c mark

/-- A form writes escapes, the plus sign and what it leaves alone. -/
theorem mem_formChar {c d : Char} (h : d ∈ formChar c) :
    d = '+' ∨ d ∈ WebUrl.escapeChars ∨ d = c ∧ formSet c = false := by
  unfold formChar at h
  split at h
  case isTrue => exact .inl (List.mem_singleton.1 h)
  case isFalse =>
    unfold encodeChar at h
    split at h
    · obtain ⟨b, -, hd⟩ := List.mem_flatMap.1 h
      exact .inr (.inl (WebUrl.mem_percentByte hd))
    case isFalse outside =>
      exact .inr (.inr ⟨List.mem_singleton.1 h, by simpa using outside⟩)

/-- **A form writes visible ASCII**, and none of the marks that part it. -/
theorem formEncode_plain {text : List Char} {d : Char} (h : d ∈ formEncode text) :
    (0x20 < d.toNat ∧ d.toNat ≤ 0x7E) ∧ d ∉ urlMarks := by
  obtain ⟨c, -, hd⟩ := List.mem_flatMap.1 h
  rcases mem_formChar hd with rfl | escape | ⟨rfl, outside⟩
  · decide
  · have all : WebUrl.escapeChars.all (fun d => decide ((0x20 < d.toNat ∧ d.toNat ≤ 0x7E) ∧
        d ∉ urlMarks)) = true := by decide
    simpa using List.all_eq_true.1 all d escape
  · obtain ⟨visible, marks⟩ := formSet_false outside
    exact ⟨visible, fun mark => marks (List.mem_cons_of_mem _ (List.mem_cons_of_mem _ mark))⟩

/-- A URL's query keeps what a form writes. -/
theorem specialQuerySet_of_plain {d : Char} (visible : 0x20 < d.toNat ∧ d.toNat ≤ 0x7E)
    (marks : d ∉ urlMarks) : WebUrl.specialQuerySet d = false := by
  have other : ∀ n ∈ [0x22, 0x23, 0x3C, 0x3E, 0x27], d.toNat ≠ n := by
    have all : [0x22, 0x23, 0x3C, 0x3E, 0x27].all (fun n => Char.ofNat n ∈ urlMarks) = true := by
      decide
    intro n hn same
    have mark := List.all_eq_true.1 all n hn
    rw [← same, Char.ofNat_toNat] at mark
    exact marks (by simpa using mark)
  simp only [List.forall_mem_cons, List.not_mem_nil, false_implies, implies_true, and_true] at other
  unfold WebUrl.specialQuerySet WebUrl.querySet WebUrl.c0Set
  simp
  omega

/-! ## A value -/

/-- The plus signs of a form are spaces. -/
def spaced (text : List Char) : List Char := text.map fun c => if c = '+' then ' ' else c

theorem spaced_eq_self {text : List Char} (h : '+' ∉ text) : spaced text = text := by
  apply (List.map_congr_left _).trans (List.map_id _)
  intro c hc
  apply if_neg
  rintro rfl
  exact h hc

theorem percentDecode_bytes (bytes rest : List UInt8) :
    percentDecode 0 (asciiBytes (bytes.flatMap percentByte) ++ rest) =
      bytes.map UInt8.toNat ++ percentDecode 0 rest := by
  induction bytes with
  | nil => rfl
  | cons b bytes ih =>
    have split : asciiBytes ((b :: bytes).flatMap percentByte) =
        asciiBytes (percentByte b) ++ asciiBytes (bytes.flatMap percentByte) := by
      simp [asciiBytes]
    rw [split, List.append_assoc, percentDecode_percentByte, ih]
    rfl

/-- A byte that begins no escape. -/
theorem percentDecode_plain {b : UInt8} (h : b ≠ 0x25) (rest : List UInt8) :
    percentDecode 0 (b :: rest) = b.toNat :: percentDecode 0 rest := by
  have none : escapedByte b rest = none := by
    unfold escapedByte
    split
    · rw [if_neg h]
    · rfl
  rw [percentDecode, none]

/-- **What stands for a character decodes to its bytes.** -/
theorem percentDecode_formChar (c : Char) (rest : List UInt8) :
    percentDecode 0 (asciiBytes (spaced (formChar c)) ++ rest) =
      (String.utf8EncodeChar c).map UInt8.toNat ++ percentDecode 0 rest := by
  unfold formChar
  split
  case isTrue space =>
    subst space
    exact percentDecode_plain (by decide) rest
  case isFalse =>
    unfold encodeChar
    split
    case isTrue =>
      have plus : '+' ∉ (String.utf8EncodeChar c).flatMap percentByte := by
        intro h
        obtain ⟨b, -, hb⟩ := List.mem_flatMap.1 h
        exact absurd (WebUrl.mem_percentByte hb) (by decide)
      rw [spaced_eq_self plus, percentDecode_bytes]
    case isFalse outside =>
      obtain ⟨visible, marks⟩ := formSet_false (by simpa using outside)
      have plus : '+' ∉ [c] := by
        rintro h
        rw [List.mem_singleton] at h
        exact marks (by simp [← h])
      have ascii : String.utf8EncodeChar c = asciiBytes [c] := by
        have bytes := @utf8_ascii [c] (by simpa using (by omega : c.toNat < 0x80))
        rwa [List.flatMap_cons, List.flatMap_nil, List.append_nil] at bytes
      rw [spaced_eq_self plus, ascii]
      refine percentDecode_plain ?_ rest
      intro same
      have value := congrArg UInt8.toNat same
      rw [UInt8.toNat_ofNat', Nat.mod_eq_of_lt (by omega)] at value
      obtain rfl : c = '%' := Char.toNat_inj.1 value
      exact marks (by decide)

theorem spaced_append (a b : List Char) : spaced (a ++ b) = spaced a ++ spaced b :=
  List.map_append

theorem percentDecode_formEncode (text : List Char) :
    percentDecode 0 (asciiBytes (spaced (formEncode text))) = PyStr.utf8Bytes text := by
  induction text with
  | nil => rfl
  | cons c rest ih =>
    have split : asciiBytes (spaced (formEncode (c :: rest))) =
        asciiBytes (spaced (formChar c)) ++ asciiBytes (spaced (formEncode rest)) := by
      rw [formEncode_cons, spaced_append]
      exact List.map_append
    rw [split, percentDecode_formChar, ih]
    rfl

/-- **What a form writes of a text is read as the text.** -/
theorem formDecode_formEncode (text : List Char) : formDecode (formEncode text) = text := by
  have ascii : ∀ c ∈ spaced (formEncode text), c.toNat < 0x80 := by
    intro c hc
    obtain ⟨d, hd, rfl⟩ := List.mem_map.1 hc
    have visible := (formEncode_plain hd).1
    split
    · decide
    · omega
  have decoded := PyStr.decodeUtf8_utf8Bytes text []
  rw [List.append_nil] at decoded
  have whole : formDecode (formEncode text) = (PyStr.decodeUtf8 {} (percentDecode 0
      ((spaced (formEncode text)).flatMap String.utf8EncodeChar))).map
        fun c => Char.ofNat c.val := rfl
  rw [whole, utf8_ascii ascii, percentDecode_formEncode, decoded]
  show (text.map PyStr.point ++ []).map _ = text
  rw [List.append_nil, List.map_map]
  apply (List.map_congr_left _).trans (List.map_id _)
  intro c _
  exact Char.ofNat_toNat c

/-! ## Pairs -/

/-- A pair as it is written. -/
def formPart (pair : List Char × List Char) : List Char :=
  formEncode pair.1 ++ '=' :: formEncode pair.2

theorem readPair_formPart (pair : List Char × List Char) : readPair (formPart pair) = pair := by
  have before : ∀ c ∈ formEncode pair.1, (c != '=') = true := by
    intro c hc
    rw [bne_iff_ne]
    rintro rfl
    exact (formEncode_plain hc).2 (by decide)
  unfold readPair formPart
  rw [List.takeWhile_append_of_pos before, List.dropWhile_append_of_pos before,
    List.takeWhile_cons_of_neg (by simp), List.dropWhile_cons_of_neg (by simp), List.append_nil,
    List.drop_one, List.tail_cons, formDecode_formEncode, formDecode_formEncode]

theorem not_mem_formPart (pair : List Char × List Char) : '&' ∉ formPart pair := by
  intro h
  rcases List.mem_append.1 h with h | h
  · exact (formEncode_plain h).2 (by decide)
  · rcases List.mem_cons.1 h with h | h
    · cases h
    · exact (formEncode_plain h).2 (by decide)

/-- **Round trip of a form.** -/
theorem formParse_formSerialize (pairs : List (List Char × List Char)) :
    formParse (formSerialize pairs) = pairs := by
  cases pairs with
  | nil => rfl
  | cons pair rest =>
    have parts : formSerialize (pair :: rest) =
        ['&'].intercalate (formPart pair :: rest.map formPart) := rfl
    have clean : ∀ part ∈ formPart pair :: rest.map formPart, '&' ∉ part := by
      rw [← List.map_cons]
      exact List.forall_mem_map.2 fun pair _ => not_mem_formPart pair
    have filled : ∀ part ∈ formPart pair :: rest.map formPart, decide (part ≠ []) = true := by
      rw [← List.map_cons]
      refine List.forall_mem_map.2 fun pair _ => ?_
      simp [formPart]
    unfold formParse
    rw [parts, List.splitOn_intercalate '&' clean (by simp), List.filter_eq_self.2 filled,
      ← List.map_cons, List.map_map]
    apply (List.map_congr_left _).trans (List.map_id _)
    intro pair _
    exact readPair_formPart pair

end FormEncoding
