import PaxPivot.Library.CodePoints

/-!
# UTF-8 and back

What the strict encoder writes, the decoder reads back: characters of any length, one after
the other. Last, what `strip` leaves of a text.
-/

namespace PyStr

/-- The bytes of a text, as numbers. -/
def utf8Bytes (text : List Char) : List Nat :=
  text.flatMap fun c => (String.utf8EncodeChar c).map UInt8.toNat

variable {b : Nat} {s : Utf8} {rest : List Nat}

theorem decodeUtf8_start (h : s.needed = 0) :
    decodeUtf8 s (b :: rest) = (Utf8.start b).1 ++ decodeUtf8 (Utf8.start b).2 rest := by
  rw [decodeUtf8, if_pos h]

/-- A byte in the middle of a sequence. -/
theorem decodeUtf8_more (h : 2 ≤ s.needed) (low : s.lower ≤ b) (high : b ≤ s.upper) :
    decodeUtf8 s (b :: rest) =
      decodeUtf8 { needed := s.needed - 1, bits := 64 * s.bits + (b - 0x80) } rest := by
  rw [decodeUtf8, if_neg (by omega), if_pos ⟨low, high⟩]
  exact if_neg (by omega)

/-- The last byte of a sequence. -/
theorem decodeUtf8_last (h : s.needed = 1) (low : s.lower ≤ b) (high : b ≤ s.upper) :
    decodeUtf8 s (b :: rest) =
      Fin.ofNat _ (64 * s.bits + (b - 0x80)) :: decodeUtf8 {} rest := by
  rw [decodeUtf8, if_neg (by omega), if_pos ⟨low, high⟩]
  exact if_pos h

theorem start_two (low : 0xC2 ≤ b) (high : b ≤ 0xDF) :
    Utf8.start b = ([], { needed := 1, bits := b - 0xC0 }) := by
  unfold Utf8.start
  rw [if_neg (by omega), if_pos ⟨low, high⟩]

theorem start_three (low : 0xE0 ≤ b) (high : b ≤ 0xEF) :
    Utf8.start b = ([], { needed := 2, bits := b - 0xE0, lower := if b = 0xE0 then 0xA0 else 0x80
                          upper := if b = 0xED then 0x9F else 0xBF }) := by
  unfold Utf8.start
  rw [if_neg (by omega), if_neg (by omega), if_pos ⟨low, high⟩]

theorem start_four (low : 0xF0 ≤ b) (high : b ≤ 0xF4) :
    Utf8.start b = ([], { needed := 3, bits := b - 0xF0, lower := if b = 0xF0 then 0x90 else 0x80
                          upper := if b = 0xF4 then 0x8F else 0xBF }) := by
  unfold Utf8.start
  rw [if_neg (by omega), if_neg (by omega), if_neg (by omega), if_pos ⟨low, high⟩]

theorem point_eq {n : Nat} (c : Char) (h : n = c.toNat) : Fin.ofNat 0x110000 n = point c := by
  apply Fin.ext
  show n % 0x110000 = c.toNat
  rw [h, Nat.mod_eq_of_lt (toNat_lt c)]

/-- **A character's bytes decode to it.** The sequences are as long as the character needs, so
none is overlong, and no character is a surrogate. -/
theorem decodeUtf8_char (c : Char) (rest : List Nat) :
    decodeUtf8 {} ((String.utf8EncodeChar c).map UInt8.toNat ++ rest) =
      point c :: decodeUtf8 {} rest := by
  have valid := c.valid
  have value : c.val.toNat = c.toNat := rfl
  unfold UInt32.isValidChar Nat.isValidChar at valid
  rw [value] at valid
  unfold String.utf8EncodeChar
  dsimp only
  rw [value]
  have byte : ∀ n, n < 256 → (UInt8.ofNat n).toNat = n := by
    intro n hn
    rw [UInt8.toNat_ofNat', Nat.mod_eq_of_lt hn]
  by_cases one : c.toNat ≤ 127
  · rw [if_pos one]
    have only := byte c.toNat (by omega)
    simp only [List.map_cons, List.map_nil, List.cons_append, List.nil_append, only]
    rw [decodeUtf8_start rfl, show Utf8.start c.toNat = ([Fin.ofNat _ c.toNat], {}) from
      if_pos (by omega), point_eq c rfl]
    rfl
  · rw [if_neg one]
    by_cases two : c.toNat ≤ 2047
    · rw [if_pos two]
      have first := byte (c.toNat / 64 % 32 + 192) (by omega)
      have second := byte (c.toNat % 64 + 128) (by omega)
      simp only [List.map_cons, List.map_nil, List.cons_append, List.nil_append, first, second]
      rw [decodeUtf8_start rfl, start_two (by omega) (by omega)]
      show decodeUtf8 _ _ = _
      rw [decodeUtf8_last rfl (by show 0x80 ≤ _; omega) (by show _ ≤ 0xBF; omega),
        point_eq c (by dsimp only; omega)]
    · rw [if_neg two]
      have last := byte (c.toNat % 64 + 128) (by omega)
      have middle := byte (c.toNat / 64 % 64 + 128) (by omega)
      by_cases three : c.toNat ≤ 65535
      · rw [if_pos three]
        have first := byte (c.toNat / 4096 % 16 + 224) (by omega)
        simp only [List.map_cons, List.map_nil, List.cons_append, List.nil_append, first, middle,
          last]
        rw [decodeUtf8_start rfl, start_three (by omega) (by omega)]
        show decodeUtf8 _ _ = _
        rw [decodeUtf8_more le_rfl ?low ?high]
        · rw [decodeUtf8_last rfl (by show 0x80 ≤ _; omega) (by show _ ≤ 0xBF; omega),
            point_eq c (by dsimp only; omega)]
        case low =>
          dsimp only
          split <;> omega
        case high =>
          dsimp only
          split <;> omega
      · rw [if_neg three]
        have first := byte (c.toNat / 262144 % 8 + 240) (by omega)
        have next := byte (c.toNat / 4096 % 64 + 128) (by omega)
        simp only [List.map_cons, List.map_nil, List.cons_append, List.nil_append, first, next,
          middle, last]
        rw [decodeUtf8_start rfl, start_four (by omega) (by omega)]
        show decodeUtf8 _ _ = _
        rw [decodeUtf8_more (by show 2 ≤ 3; omega) ?low ?high]
        · rw [decodeUtf8_more le_rfl (by show 0x80 ≤ _; omega) (by show _ ≤ 0xBF; omega),
            decodeUtf8_last rfl (by show 0x80 ≤ _; omega) (by show _ ≤ 0xBF; omega),
            point_eq c (by dsimp only; omega)]
        case low =>
          dsimp only
          split <;> omega
        case high =>
          dsimp only
          split <;> omega

/-- **What is encoded decodes to itself.** -/
theorem decodeUtf8_utf8Bytes (text : List Char) (rest : List Nat) :
    decodeUtf8 {} (utf8Bytes text ++ rest) = text.map point ++ decodeUtf8 {} rest := by
  induction text with
  | nil => rfl
  | cons c text ih =>
    have bytes : utf8Bytes (c :: text) ++ rest =
        (String.utf8EncodeChar c).map UInt8.toNat ++ (utf8Bytes text ++ rest) := by
      unfold utf8Bytes
      rw [List.flatMap_cons, List.append_assoc]
    rw [bytes, decodeUtf8_char, ih]
    rfl

theorem point_inj {c d : Char} (h : point c = point d) : c = d := by
  have same : (point c).val = (point d).val := congrArg Fin.val h
  exact Char.toNat_inj.1 same

/-- Different texts have different bytes. -/
theorem utf8Bytes_inj {a b : List Char} (h : utf8Bytes a = utf8Bytes b) : a = b := by
  have decoded := congrArg (decodeUtf8 {}) h
  rw [← List.append_nil (utf8Bytes a), ← List.append_nil (utf8Bytes b), decodeUtf8_utf8Bytes,
    decodeUtf8_utf8Bytes] at decoded
  have points : a.map point = b.map point := List.append_cancel_right decoded
  exact List.map_injective_iff.2 (fun _ _ => point_inj) points

/-! ## Texts that may hold surrogates -/

/-- A code point that is no surrogate. -/
def scalar (x : CodePoint) : Option Char :=
  if x.val < 0xD800 ∨ 0xDFFF < x.val then some (Char.ofNat x.val) else none

/-- `text.encode("utf-8")`, `none` for `UnicodeEncodeError`. -/
def encodeUtf8 (text : PyStr) : Option (List Nat) := (text.mapM scalar).map utf8Bytes

theorem point_scalar {x : CodePoint} {c : Char} (h : scalar x = some c) : point c = x := by
  unfold scalar at h
  split at h
  case isTrue range =>
    obtain rfl := Option.some.inj h
    have valid : x.val.isValidChar := by
      have := x.isLt
      unfold Nat.isValidChar
      omega
    apply Fin.ext
    show (Char.ofNat x.val).toNat = x.val
    rw [Char.toNat_ofNat, if_pos valid]
  case isFalse => cases h

theorem points_scalars {text : PyStr} {chars : List Char} (h : text.mapM scalar = some chars) :
    chars.map point = text := by
  induction text generalizing chars with
  | nil =>
    rw [List.mapM_nil] at h
    obtain rfl := Option.some.inj h
    rfl
  | cons x rest ih =>
    rw [List.mapM_cons] at h
    obtain ⟨c, hc, h⟩ := Option.bind_eq_some_iff.1 h
    obtain ⟨cs, hcs, h⟩ := Option.bind_eq_some_iff.1 h
    obtain rfl := Option.some.inj h
    rw [List.map_cons, point_scalar hc, ih hcs]

/-- **Texts that can be encoded are told apart by their bytes.** -/
theorem encodeUtf8_inj {a b : PyStr} {bytes : List Nat} (ha : encodeUtf8 a = some bytes)
    (hb : encodeUtf8 b = some bytes) : a = b := by
  obtain ⟨as, has, rfl⟩ := Option.map_eq_some_iff.1 ha
  obtain ⟨bs, hbs, same⟩ := Option.map_eq_some_iff.1 hb
  rw [← points_scalars has, ← points_scalars hbs, utf8Bytes_inj same]

/-- A text without surrogates can be encoded. -/
theorem encodeUtf8_isSome {text : PyStr} (h : ∀ x ∈ text, x.val < 0xD800) :
    ∃ bytes, encodeUtf8 text = some bytes := by
  have chars : ∃ cs, text.mapM scalar = some cs := by
    induction text with
    | nil => exact ⟨[], rfl⟩
    | cons x rest ih =>
      obtain ⟨cs, hcs⟩ := ih fun y hy => h y (List.mem_cons_of_mem _ hy)
      have hx : scalar x = some (Char.ofNat x.val) := if_pos (.inl (h x List.mem_cons_self))
      exact ⟨_, by rw [List.mapM_cons, hx, hcs]; rfl⟩
  obtain ⟨cs, hcs⟩ := chars
  exact ⟨utf8Bytes cs, by rw [encodeUtf8, hcs]; rfl⟩

/-! ## Stripping -/

/-- **What `strip` leaves lies between spaces, and has none at its ends.** -/
theorem strip_eq_iff {text core : PyStr} :
    strip text = core ↔
      (∃ before after, text = before ++ core ++ after ∧ (∀ c ∈ before, isSpace c = true) ∧
        ∀ c ∈ after, isSpace c = true) ∧
      (∀ c ∈ core.head?, isSpace c = false) ∧ ∀ c ∈ core.getLast?, isSpace c = false :=
  Stripping.dropEnds_eq_iff

end PyStr
