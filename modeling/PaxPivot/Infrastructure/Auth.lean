import PaxPivot.Base
import PaxPivot.Library.Utf8

/-!
# Who may call the API

`infrastructure/auth.py` and `require_principal` of `api.py`: one server-side token, sent as
`Authorization: Bearer …`. Without a token in the environment every call is denied.
-/

namespace PaxPivot

structure Principal where
  userId : UUID
  deriving DecidableEq

/-- `uuid5(NAMESPACE_URL, "paxpivot:principal:local-api-token")`. -/
def localPrincipalId : UUID := 0x4b574dfbdd7b5d1ca48841b5bcc38b95

/-- `_unauthorized`. -/
def unauthorized (messageKey : Identifier) : ApplicationError :=
  { code := .unauthorized, messageKey, retryable := false }

def authNotConfigured : Identifier := .lit "auth.not_configured"

def invalidCredential : Identifier := .lit "auth.invalid_credential"

/-! ## Authenticators -/

/-- A token of at least 32 characters. -/
structure BearerTokenAuthenticator where
  token : PyStr
  long : 32 ≤ token.length

/-- `hmac.compare_digest` on the bytes of both; encoding a surrogate raises. -/
def BearerTokenAuthenticator.authenticate (a : BearerTokenAuthenticator) :
    Option PyStr → Except PyError (Result Principal)
  | none => .ok (.error (unauthorized invalidCredential))
  | some credential =>
    match PyStr.encodeUtf8 credential, PyStr.encodeUtf8 a.token with
    | some sent, some held =>
      if sent = held then .ok (.ok ⟨localPrincipalId⟩)
      else .ok (.error (unauthorized invalidCredential))
    | _, _ => .error .valueError

inductive Authenticator where
  | denyAll
  | bearerToken (a : BearerTokenAuthenticator)

def Authenticator.authenticate :
    Authenticator → Option PyStr → Except PyError (Result Principal)
  | .denyAll, _ => .ok (.error (unauthorized authNotConfigured))
  | .bearerToken a, credential => a.authenticate credential

/-- `authenticator_from_env`, where `token` is `PAXPIVOT_API_TOKEN`. -/
def authenticatorFromEnv : Option PyStr → Except PyError Authenticator
  | none => .ok .denyAll
  | some [] => .ok .denyAll
  | some (c :: rest) =>
    if long : 32 ≤ (c :: rest).length then .ok (.bearerToken ⟨c :: rest, long⟩)
    else .error .valueError

/-! ## The header -/

/-- A header's value: its bytes, each read as one character. -/
def latin1 (value : List UInt8) : PyStr := value.map fun b => Fin.ofNat _ b.toNat

def bearerScheme : PyStr := PyStr.ofString "Bearer "

/-- The credential of an `Authorization` header. -/
def credentialOf (authorization : Option (List UInt8)) : Option PyStr :=
  match authorization with
  | none => none
  | some value =>
    let text := latin1 value
    if bearerScheme <+: text then
      let credential := PyStr.strip (text.drop bearerScheme.length)
      if credential = [] then none else some credential
    else none

/-- `require_principal`: the principal, or the message key of a 401. -/
def requirePrincipal (token : Option PyStr) (authorization : Option (List UInt8)) :
    Except PyError (Except Identifier Principal) := do
  let authenticator ← authenticatorFromEnv token
  match ← authenticator.authenticate (credentialOf authorization) with
  | .error e => return .error e.messageKey
  | .ok principal => return .ok principal

/-! ## Who gets in -/

section Access

variable {token : Option PyStr} {authorization : Option (List UInt8)}

theorem latin1_small {value : List UInt8} {x : CodePoint} (h : x ∈ latin1 value) :
    x.val < 0xD800 := by
  obtain ⟨b, -, rfl⟩ := List.mem_map.1 h
  have := b.toNat_lt
  show b.toNat % 0x110000 < 0xD800
  rw [Nat.mod_eq_of_lt (by omega)]
  omega

/-- A credential is what the header has between spaces after its scheme. -/
theorem credentialOf_eq_some_iff {credential : PyStr} :
    credentialOf authorization = some credential ↔
      credential ≠ [] ∧ ∃ value, authorization = some value ∧ ∃ before after,
        latin1 value = bearerScheme ++ (before ++ credential ++ after) ∧
        (∀ c ∈ before, PyStr.isSpace c = true) ∧ (∀ c ∈ after, PyStr.isSpace c = true) ∧
        (∀ c ∈ credential.head?, PyStr.isSpace c = false) ∧
        ∀ c ∈ credential.getLast?, PyStr.isSpace c = false := by
  unfold credentialOf
  cases authorization with
  | none => simp
  | some value =>
    dsimp only
    constructor
    · intro h
      split at h
      case isTrue scheme =>
        obtain ⟨rest, hrest⟩ := scheme
        rw [← hrest, List.drop_left] at h
        split at h
        · cases h
        · rename_i filled
          obtain rfl := Option.some.inj h
          obtain ⟨⟨before, after, whole, spaces, spaces'⟩, head, last⟩ :=
            PyStr.strip_eq_iff.1 (rfl : PyStr.strip rest = _)
          refine ⟨filled, value, rfl, before, after, ?_, spaces, spaces', head, last⟩
          rw [← hrest, ← whole]
      case isFalse => cases h
    · rintro ⟨filled, value', hvalue, before, after, whole, spaces, spaces', head, last⟩
      obtain rfl := Option.some.inj hvalue
      have stripped : PyStr.strip (before ++ credential ++ after) = credential :=
        PyStr.strip_eq_iff.2 ⟨⟨before, after, rfl, spaces, spaces'⟩, head, last⟩
      rw [whole, if_pos (List.prefix_append _ _), List.drop_left, stripped, if_neg filled]

/-- The bytes of a header can be encoded again. -/
theorem credentialOf_encodes {credential : PyStr}
    (h : credentialOf authorization = some credential) :
    ∃ bytes, PyStr.encodeUtf8 credential = some bytes := by
  obtain ⟨-, value, -, before, after, whole, -⟩ := credentialOf_eq_some_iff.1 h
  apply PyStr.encodeUtf8_isSome
  intro x hx
  have sent : x ∈ latin1 value := by
    rw [whole]
    simp [hx]
  exact latin1_small sent

/-- **A principal is granted exactly to the token**, of at least 32 characters, alone between
spaces after the scheme. A token with a space at an end lets nobody in. -/
theorem requirePrincipal_granted_iff {principal : Principal} :
    requirePrincipal token authorization = .ok (.ok principal) ↔
      principal = ⟨localPrincipalId⟩ ∧ ∃ secret, token = some secret ∧ 32 ≤ secret.length ∧
        credentialOf authorization = some secret := by
  unfold requirePrincipal
  rw [bind_eq_ok_iff]
  constructor
  · rintro ⟨authenticator, hauth, h⟩
    obtain ⟨result, hresult, h⟩ := bind_eq_ok_iff.1 h
    cases result with
    | error e => cases h
    | ok granted =>
      obtain rfl : granted = principal := by
        simpa [pure, Except.pure] using h
      cases token with
      | none =>
        obtain rfl := Except.ok.inj hauth
        cases hresult
      | some secret =>
        cases secret with
        | nil =>
          obtain rfl := Except.ok.inj hauth
          cases hresult
        | cons c rest =>
          simp only [authenticatorFromEnv] at hauth
          split at hauth
          case isFalse => cases hauth
          case isTrue long =>
            obtain rfl := Except.ok.inj hauth
            unfold Authenticator.authenticate BearerTokenAuthenticator.authenticate at hresult
            dsimp only at hresult
            cases hcredential : credentialOf authorization with
            | none =>
              rw [hcredential] at hresult
              cases hresult
            | some credential =>
              rw [hcredential] at hresult
              dsimp only at hresult
              split at hresult
              case h_2 => cases hresult
              case h_1 sent held hsent hheld =>
                split at hresult
                case isFalse => cases hresult
                case isTrue same =>
                  obtain rfl := Except.ok.inj (Except.ok.inj hresult)
                  rw [same] at hsent
                  rw [PyStr.encodeUtf8_inj hsent hheld]
                  exact ⟨rfl, _, rfl, long, rfl⟩
  · rintro ⟨rfl, secret, rfl, long, hcredential⟩
    obtain ⟨bytes, hbytes⟩ := credentialOf_encodes hcredential
    cases secret with
    | nil => cases long
    | cons c rest =>
      refine ⟨.bearerToken ⟨c :: rest, long⟩, dif_pos long, ?_⟩
      have granted : Authenticator.authenticate (.bearerToken ⟨c :: rest, long⟩)
          (credentialOf authorization) = .ok (.ok ⟨localPrincipalId⟩) := by
        unfold Authenticator.authenticate BearerTokenAuthenticator.authenticate
        rw [hcredential]
        dsimp only
        rw [hbytes]
        exact if_pos rfl
      rw [granted]
      rfl

end Access

end PaxPivot
