import Mathlib
import PaxPivot.Library.PyText

/-!
# Identifiers, identities, URLs and results

`domain/base.py` and `application/result.py`, with the standard types the
contracts use. Instants and durations are `Int` microseconds, the resolution of
`datetime`; an instant counts from the epoch in UTC.
-/

namespace PaxPivot

/-- The `StringConstraints` of `Identifier`: stripped, 1 to 128 code points. -/
def Identifier.accepts (text : String) : Bool :=
  PyText.stripChars PyText.whiteSpace text.toList == text.toList &&
    decide (1 ≤ text.length) && decide (text.length ≤ 128)

structure Identifier where
  text : String
  accepted : Identifier.accepts text = true
  deriving DecidableEq

/-- Validation of a raw string: strip it, then check what is left. -/
def Identifier.validate (raw : String) : Option Identifier :=
  let text := String.ofList (PyText.stripChars PyText.whiteSpace raw.toList)
  if h : Identifier.accepts text = true then some ⟨text, h⟩ else none

/-- An identifier written out in the source. -/
def Identifier.lit (text : String) (accepted : Identifier.accepts text = true := by decide) :
    Identifier :=
  ⟨text, accepted⟩

/-- An identifier is read back as itself. -/
theorem Identifier.validate_text (a : Identifier) : Identifier.validate a.text = some a := by
  have accepted := a.accepted
  have stripped : PyText.stripChars PyText.whiteSpace a.text.toList = a.text.toList := by
    simp only [Identifier.accepts, Bool.and_eq_true, beq_iff_eq] at accepted
    exact accepted.1.1
  unfold Identifier.validate
  simp only [stripped, String.ofList_toList, accepted, ↓reduceDIte]

theorem Identifier.text_ne_empty (a : Identifier) : a.text ≠ "" := by
  intro h
  have := a.accepted
  rw [h] at this
  exact absurd this (by decide)

/-! ## UUIDs -/

/-- A 128-bit identity, in the order Postgres gives `uuid` values. -/
abbrev UUID := Fin (2 ^ 128)

instance UUID.neZero : NeZero (2 ^ 128) := ⟨by decide⟩

/-- `str(u)`: lower-case, hyphenated 8-4-4-4-12. -/
def UUID.str (u : UUID) : String :=
  let h := PyText.toHex 32 u.val
  String.ofList (h.take 8 ++ '-' :: (h.drop 8).take 4 ++ '-' :: (h.drop 12).take 4 ++
    '-' :: (h.drop 16).take 4 ++ '-' :: h.drop 20)

/-- What `UUID(text)` reads as hexadecimal: `urn:`, `uuid:`, braces at the ends
and hyphens are dropped. -/
def UUID.hexText (text : String) : List Char :=
  PyText.removeAll ['-'] (PyText.stripChars (fun c => c == '{' || c == '}')
    (PyText.removeAll "uuid:".toList (PyText.removeAll "urn:".toList text.toList)))

/-- `UUID(text)`, `none` for `ValueError`. -/
def UUID.parse (text : String) : Option UUID :=
  let hex := UUID.hexText text
  if hex.length = 32 then
    match PyText.int16 hex with
    | some n => if h : 0 ≤ n ∧ n < 2 ^ 128 then some ⟨n.toNat, by omega⟩ else none
    | none => none
  else none

theorem UUID.mem_str {u : UUID} {c : Char} (h : c ∈ u.str.toList) :
    c ∈ "0123456789abcdef-".toList := by
  have hex : "0123456789abcdef".toList ⊆ "0123456789abcdef-".toList := by decide
  have dash : '-' ∈ "0123456789abcdef-".toList := by decide
  simp only [UUID.str, String.toList_ofList, List.mem_append, List.mem_cons] at h
  rcases h with (((h | rfl | h) | rfl | h) | rfl | h) | rfl | h
  · exact hex (PyText.mem_toHex (List.mem_of_mem_take h))
  · exact dash
  · exact hex (PyText.mem_toHex (List.mem_of_mem_drop (List.mem_of_mem_take h)))
  · exact dash
  · exact hex (PyText.mem_toHex (List.mem_of_mem_drop (List.mem_of_mem_take h)))
  · exact dash
  · exact hex (PyText.mem_toHex (List.mem_of_mem_drop (List.mem_of_mem_take h)))
  · exact dash
  · exact hex (PyText.mem_toHex (List.mem_of_mem_drop h))

/-- The canonical text is 36 characters of hexadecimal and hyphens, so nothing
but the hyphens is dropped from it. -/
theorem UUID.hexText_str (u : UUID) : UUID.hexText u.str = PyText.toHex 32 u.val := by
  have hu : 'u' ∉ u.str.toList := by
    intro h
    exact absurd (UUID.mem_str h) (by decide)
  have hbrace : ∀ c ∈ u.str.toList, (c == '{' || c == '}') = false := by
    have all : "0123456789abcdef-".toList.all (fun c => !(c == '{' || c == '}')) = true := by
      decide
    intro c hc
    simpa using List.all_eq_true.1 all c (UUID.mem_str hc)
  have keep : (PyText.toHex 32 u.val).filter (· ≠ '-') = PyText.toHex 32 u.val := by
    apply List.filter_eq_self.2
    intro c hc
    simpa using (PyText.hex_digit_plain (PyText.mem_toHex hc)).2.1
  unfold UUID.hexText
  rw [PyText.removeAll_eq_self (p := 'u') (by decide) hu,
    PyText.removeAll_eq_self (p := 'u') (by decide) hu,
    PyText.stripChars_of_forall hbrace,
    PyText.removeAll_singleton]
  generalize hh : PyText.toHex 32 u.val = h at keep
  simp only [UUID.str, hh, String.toList_ofList, List.filter_append, List.filter_cons]
  simp only [ne_eq, not_true_eq_false, decide_false, Bool.false_eq_true, ↓reduceIte]
  rw [← List.filter_append, ← List.filter_append, ← List.filter_append, ← List.filter_append]
  rw [show h.take 8 ++ (h.drop 8).take 4 ++ (h.drop 12).take 4 ++ (h.drop 16).take 4 ++ h.drop 20
    = h from ?_]
  · exact keep
  · have split4 : ∀ n, (h.drop n).take 4 ++ h.drop (n + 4) = h.drop n := by
      intro n
      rw [← List.drop_drop, List.take_append_drop]
    simp only [List.append_assoc, split4, List.take_append_drop]

/-- **`UUID(str(u))` is `u`.** -/
theorem UUID.parse_str (u : UUID) : UUID.parse u.str = some u := by
  have hlt := u.isLt
  unfold UUID.parse
  have read : PyText.int16 (PyText.toHex 32 u.val) = some (u.val : Int) :=
    PyText.int16_toHex 31 u.val (by omega)
  have range : (0 : Int) ≤ u.val ∧ (u.val : Int) < 2 ^ 128 := by omega
  simp only [UUID.hexText_str, PyText.length_toHex, ↓reduceIte, read, range, and_self, ↓reduceDIte,
    Int.toNat_natCast]

/-! ## URLs -/

/-- `pydantic.HttpUrl`, by the parts it was parsed into. -/
structure HttpUrl where
  scheme : String
  username : Option String := none
  password : Option String := none
  host : String
  port : Option Nat := none
  path : Option String := none
  query : Option String := none
  fragment : Option String := none
  deriving DecidableEq

/-- Python truthiness of an optional string. -/
def truthy (text : Option String) : Bool := text.any (· ≠ "")

namespace HttpUrl

/-- A user name or a password in front of the host. -/
def hasUserinfo (u : HttpUrl) : Bool := truthy u.username || truthy u.password

/-- Something secret can stand in front of the host, in the query and in the fragment. -/
def carriesCredentials (u : HttpUrl) : Bool :=
  u.hasUserinfo || truthy u.query || truthy u.fragment

/-- `user[:password]@`, empty without either. -/
def userinfo (u : HttpUrl) : String :=
  if u.hasUserinfo then
    u.username.getD "" ++ (if truthy u.password then ":" ++ u.password.getD "" else "") ++ "@"
  else ""

/-- `str(url)`. A part that is present keeps its delimiter, even when it is empty. -/
def str (u : HttpUrl) : String :=
  u.scheme ++ "://" ++ u.userinfo ++ u.host ++ (u.port.map fun p => ":" ++ toString p).getD "" ++
    u.path.getD "" ++ (u.query.map ("?" ++ ·)).getD "" ++ (u.fragment.map ("#" ++ ·)).getD ""

variable {u : HttpUrl}

theorem mem_str_of_query (h : truthy u.query = true) : '?' ∈ u.str.toList := by
  unfold truthy at h
  cases hq : u.query with
  | none => simp [hq] at h
  | some query => simp [str, hq]

theorem mem_str_of_fragment (h : truthy u.fragment = true) : '#' ∈ u.str.toList := by
  unfold truthy at h
  cases hf : u.fragment with
  | none => simp [hf] at h
  | some fragment => simp [str, hf]

end HttpUrl

/-! ## Results -/

inductive ErrorCode where
  | unauthorized | forbidden | unavailable | invalidInput | conflict
  deriving DecidableEq

structure ApplicationError where
  code : ErrorCode
  messageKey : Identifier
  retryable : Bool
  deriving DecidableEq

/-- `Success[T] | Failure`: `.ok` is `Success`, `.error` is `Failure`. -/
abbrev Result := Except ApplicationError

/-- The exceptions a caller sees when nothing catches them. -/
inductive PyError where
  | keyError | valueError | typeError | overflowError | validationError | other
  deriving DecidableEq

theorem isOk_iff {ε α : Type*} {result : Except ε α} :
    result.isOk = true ↔ ∃ a, result = .ok a := by
  cases result <;> simp [Except.isOk, Except.toBool]

theorem toOption_eq_some_iff {ε α : Type*} {result : Except ε α} {a : α} :
    result.toOption = some a ↔ result = .ok a := by
  cases result <;> simp [Except.toOption]

/-- A computation went through when both of its parts did. -/
theorem bind_eq_ok_iff {ε : Type*} {α β : Type} {x : Except ε α} {f : α → Except ε β} {b : β} :
    (x >>= f) = .ok b ↔ ∃ a, x = .ok a ∧ f a = .ok b := by
  cases x with
  | error e => simp [bind, Except.bind]
  | ok a => simp [bind, Except.bind]

/-! ## Checks in a row -/

section Checks

variable {c : Prop} [Decidable c] {ε α : Type*}

/-- A validator goes on past a check that does not raise. -/
theorem raise_if_eq_ok_iff {e : ε} {rest : Except ε α} {a : α} :
    (if c then .error e else rest) = .ok a ↔ ¬ c ∧ rest = .ok a := by
  by_cases h : c <;> simp [h]

/-- A list of refusals goes on past one that does not apply. -/
theorem refuse_if_eq_none_iff {e : α} {rest : Option α} :
    (if c then some e else rest) = none ↔ ¬ c ∧ rest = none := by
  by_cases h : c <;> simp [h]

end Checks

end PaxPivot
