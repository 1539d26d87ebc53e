import Mathlib
import PaxPivot.Library.JsText

/-!
# The session token

`lib/auth/session.ts`: `<issued-at-ms>.<hmac-sha256 hex>`. The MAC itself is the
platform's and the model takes any 32 bytes; what the code does with them is here.
-/

namespace PaxPivot

open JsText (ofString unit allDigits number decimal charCodeAt)

/-- The time value of a valid `Date`: milliseconds, a hundred million days at most
from the epoch. So it is exact in a double, and so is its distance to every number
near it. -/
structure TimeValue where
  ms : Int
  inRange : ms.natAbs ≤ 8640000000000000

/-- A `Date`; `none` is an invalid one, whose time value is `NaN`. -/
abbrev JsDate := Option TimeValue

/-- `crypto.subtle.sign("HMAC", …)` with SHA-256, from the secret and the message. -/
abbrev HmacSha256 := JsString → JsString → List.Vector (Fin 256) 32

def sessionTtlMs : Int := 12 * 60 * 60 * 1000

/-- `b.toString(16).padStart(2, "0")`. -/
def byteHex (b : Fin 256) : JsString :=
  let digits := Nat.toDigits 16 b.val
  (List.replicate (2 - digits.length) '0' ++ digits).map unit

def hmac (sign : HmacSha256) (secret message : JsString) : JsString :=
  (sign secret message).toList.flatMap byteHex

def timingSafeEqual (a b : JsString) : Bool :=
  let length := max a.length b.length
  (List.range length).foldl (fun diff i => diff ||| (charCodeAt a i ^^^ charCodeAt b i))
    (BitVec.ofNat 32 a.length ^^^ BitVec.ofNat 32 b.length) = 0#32

def dot : CodeUnit := unit '.'

/-- `String(now.getTime())`. -/
def timeText : JsDate → JsString
  | none => ofString "NaN"
  | some t => if t.ms < 0 then unit '-' :: decimal t.ms.natAbs else decimal t.ms.toNat

def issueSession (sign : HmacSha256) (secret : JsString) (now : JsDate) : JsString :=
  timeText now ++ dot :: hmac sign secret (timeText now)

def verifySession (sign : HmacSha256) (secret : JsString) (token : Option JsString)
    (now : JsDate) : Bool :=
  match token with
  | none => false
  | some token =>
    if token = [] then false
    else match token.splitOn dot with
      | [issued, signature] =>
        if issued = [] ∨ signature = [] ∨ !allDigits issued then false
        else if !timingSafeEqual (hmac sign secret issued) signature then false
        else match now with
          | none => false
          | some t =>
            let age := t.ms - number issued
            0 ≤ age && age ≤ sessionTtlMs
      -- One part lacks a signature, three or more have a rest.
      | _ => false

/-! ## Equality -/

theorem timingSafeEqual_iff {a b : JsString} (ha : a.length < 2 ^ 31) (hb : b.length < 2 ^ 31) :
    timingSafeEqual a b = true ↔ a = b := by
  unfold timingSafeEqual
  rw [decide_eq_true_eq, JsText.foldl_or_eq_zero_iff]
  constructor
  · rintro ⟨hlength, hcodes⟩
    have length : a.length = b.length := by
      have same := congrArg BitVec.toNat (BitVec.xor_eq_zero_iff.1 hlength)
      simp only [BitVec.toNat_ofNat] at same
      omega
    apply List.ext_getElem length
    intro i hia hib
    have hcode := hcodes i (List.mem_range.2 (lt_max_of_lt_left hia))
    exact JsText.charCodeAt_inj hia hib (BitVec.xor_eq_zero_iff.1 hcode)
  · rintro rfl
    exact ⟨BitVec.xor_self, fun i _ => BitVec.xor_self⟩

/-! ## The tag -/

/-- A lower-case hexadecimal digit. -/
def isHexDigit (u : CodeUnit) : Bool :=
  JsText.isDigit u || (0x61 ≤ u.toNat && u.toNat ≤ 0x66)

theorem byteHex_spec (b : Fin 256) :
    (byteHex b).length = 2 ∧ (byteHex b).all isHexDigit = true := by
  have all : (List.finRange 256).all (fun b =>
      (byteHex b).length = 2 && (byteHex b).all isHexDigit) = true := by
    decide +kernel
  simpa using List.all_eq_true.1 all b (List.mem_finRange b)

variable {sign : HmacSha256} {secret s : JsString}

/-- The tag is 64 lower-case hexadecimal digits. -/
theorem hmac_spec (sign : HmacSha256) (secret message : JsString) :
    (hmac sign secret message).length = 64 ∧
    ∀ u ∈ hmac sign secret message, isHexDigit u = true := by
  unfold hmac
  constructor
  · rw [List.length_flatMap, List.map_congr_left fun b _ => (byteHex_spec b).1]
    simp
  · intro u hu
    obtain ⟨b, -, hb⟩ := List.mem_flatMap.1 hu
    exact List.all_eq_true.1 (byteHex_spec b).2 u hb

theorem hmac_short (message : JsString) : (hmac sign secret message).length < 2 ^ 31 := by
  rw [(hmac_spec sign secret message).1]
  decide

theorem dot_not_mem_of_forall {p : CodeUnit → Bool} (hdot : p dot = false)
    (h : ∀ u ∈ s, p u = true) : dot ∉ s := by
  intro hmem
  rw [h dot hmem] at hdot
  cases hdot

theorem dot_not_mem_hmac (message : JsString) : dot ∉ hmac sign secret message :=
  dot_not_mem_of_forall (by decide) (hmac_spec sign secret message).2

theorem dot_not_mem_digits (h : allDigits s = true) : dot ∉ s := by
  unfold allDigits at h
  rw [Bool.and_eq_true, List.all_eq_true] at h
  exact dot_not_mem_of_forall (by decide) h.2

theorem ne_nil_of_allDigits (h : allDigits s = true) : s ≠ [] := by
  rintro rfl
  cases h

/-! ## What verifies -/

/-- What verifies is digits with their own tag, issued at most twelve hours ago. -/
theorem issued_of_verifySession {token : JsString} (hlength : token.length < 2 ^ 31) {now : JsDate}
    (h : verifySession sign secret (some token) now = true) :
    ∃ s, allDigits s = true ∧ token = s ++ dot :: hmac sign secret s ∧
      ∃ t, now = some t ∧ 0 ≤ t.ms - number s ∧ t.ms - number s ≤ sessionTtlMs := by
  unfold verifySession at h
  dsimp only at h
  split at h
  · cases h
  split at h
  · rename_i issued signature hsplit
    have htoken := JsText.eq_of_splitOn_pair hsplit
    split at h
    · cases h
    rename_i hparts
    split at h
    · cases h
    rename_i hequal
    have digits : allDigits issued = true := by
      by_contra hdigits
      exact hparts (.inr (.inr (by simpa using hdigits)))
    have hsignature : signature.length < 2 ^ 31 := by
      rw [htoken, List.length_append, List.length_cons] at hlength
      omega
    have tag : hmac sign secret issued = signature :=
      (timingSafeEqual_iff (hmac_short issued) hsignature).1 (by simpa using hequal)
    refine ⟨issued, digits, by rw [tag, htoken], ?_⟩
    cases now with
    | none => cases h
    | some t =>
      refine ⟨t, rfl, ?_⟩
      simpa using h
  · cases h

/-- Digits with their own tag verify for twelve hours. -/
theorem verifySession_of_issued (digits : allDigits s = true) {t : TimeValue}
    (hpast : 0 ≤ t.ms - number s) (hfresh : t.ms - number s ≤ sessionTtlMs) :
    verifySession sign secret (some (s ++ dot :: hmac sign secret s)) (some t) = true := by
  have hsplit : (s ++ dot :: hmac sign secret s).splitOn dot = [s, hmac sign secret s] :=
    JsText.splitOn_pair (dot_not_mem_digits digits) (dot_not_mem_hmac s)
  have nonempty : s ++ dot :: hmac sign secret s ≠ [] := by simp
  have hparts : ¬ (s = [] ∨ hmac sign secret s = [] ∨ (!allDigits s) = true) := by
    rintro (hs | hempty | hdigits)
    · exact ne_nil_of_allDigits digits hs
    · exact absurd (hmac_spec sign secret s).1 (by simp [hempty])
    · simp [digits] at hdigits
  have short : (hmac sign secret s).length < 2 ^ 31 := hmac_short s
  have hequal := (timingSafeEqual_iff short short).2 rfl
  unfold verifySession
  dsimp only
  rw [if_neg nonempty, hsplit]
  dsimp only
  rw [if_neg hparts, hequal]
  simpa using And.intro hpast hfresh

/-- **A token verifies exactly when it is digits with their own tag, issued at most
twelve hours ago.** -/
theorem verifySession_iff {token : JsString} (hlength : token.length < 2 ^ 31) (now : JsDate) :
    verifySession sign secret (some token) now = true ↔
      ∃ s, allDigits s = true ∧ token = s ++ dot :: hmac sign secret s ∧
        ∃ t, now = some t ∧ 0 ≤ t.ms - number s ∧ t.ms - number s ≤ sessionTtlMs := by
  constructor
  · intro h
    exact issued_of_verifySession hlength h
  · rintro ⟨s, digits, rfl, t, rfl, hpast, hfresh⟩
    exact verifySession_of_issued digits hpast hfresh

/-- The same for a string by its two parts. -/
theorem verifySession_pair_iff {issued tag : JsString}
    (hlength : (issued ++ dot :: tag).length < 2 ^ 31) (now : JsDate) :
    verifySession sign secret (some (issued ++ dot :: tag)) now = true ↔
      allDigits issued = true ∧ tag = hmac sign secret issued ∧
        ∃ t, now = some t ∧ 0 ≤ t.ms - number issued ∧ t.ms - number issued ≤ sessionTtlMs := by
  rw [verifySession_iff hlength]
  constructor
  · rintro ⟨s, digits, htoken, fresh⟩
    obtain ⟨rfl, rfl⟩ := JsText.pair_inj (dot_not_mem_digits digits) (dot_not_mem_hmac s) htoken
    exact ⟨digits, rfl, fresh⟩
  · rintro ⟨digits, rfl, fresh⟩
    exact ⟨issued, digits, rfl, fresh⟩

/-- A token issued at `t` verifies from `t` on for twelve hours, and at no other time. -/
theorem verifySession_issueSession {t : TimeValue} (ht : 0 ≤ t.ms) (now : JsDate) :
    verifySession sign secret (some (issueSession sign secret (some t))) now = true ↔
      ∃ n, now = some n ∧ t.ms ≤ n.ms ∧ n.ms ≤ t.ms + sessionTtlMs := by
  have text : timeText (some t) = decimal t.ms.toNat := if_neg (by omega)
  have value : (number (decimal t.ms.toNat) : Int) = t.ms := by
    rw [JsText.number_decimal]
    omega
  have short : (decimal t.ms.toNat).length ≤ 16 := by
    unfold decimal
    rw [List.length_map, Nat.length_toDigits_le_iff (by decide) (by decide)]
    have := t.inRange
    omega
  have hlength : (decimal t.ms.toNat ++ dot :: hmac sign secret (decimal t.ms.toNat)).length <
      2 ^ 31 := by
    rw [List.length_append, List.length_cons, (hmac_spec sign secret _).1]
    omega
  unfold issueSession
  rw [text, verifySession_pair_iff hlength, value]
  constructor
  · rintro ⟨-, -, n, rfl, hpast, hfresh⟩
    exact ⟨n, rfl, by omega, by omega⟩
  · rintro ⟨n, rfl, hpast, hfresh⟩
    exact ⟨JsText.allDigits_decimal _, rfl, n, rfl, by omega, by omega⟩

end PaxPivot
