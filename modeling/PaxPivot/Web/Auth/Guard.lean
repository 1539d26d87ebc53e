import PaxPivot.Web.Auth.Session

/-!
# The access boundary

`lib/auth/config.ts` and `lib/auth/guard.ts`: which configuration an environment
gives, and what the proxy decides about a request. Anything but an explicit
development or test environment fails closed.
-/

namespace PaxPivot

open JsText (ofString allDigits number)

inductive AccessConfig where
  | configured (passphrase sessionSecret : JsString)
  | developmentOpen
  | misconfigured (reason : String)
  deriving DecidableEq

def minSecretLength : Nat := 32

def minPassphraseLength : Nat := 20

/-- `process.env`. -/
abbrev Env := String → Option JsString

namespace Env

variable (env : Env)

def passphrase : Option JsString := env "PAXPIVOT_PILOT_PASSPHRASE"

def sessionSecret : Option JsString := env "PAXPIVOT_SESSION_SECRET"

def development : Prop :=
  env "NODE_ENV" = some (ofString "development") ∨ env "NODE_ENV" = some (ofString "test")

instance : Decidable env.development := inferInstanceAs (Decidable (_ ∨ _))

end Env

/-- A string that is there and not empty: what JavaScript takes for true. -/
def ifSet (text : Option JsString) : Option JsString := text.filter (· ≠ [])

def accessConfig (env : Env) : AccessConfig :=
  match ifSet env.passphrase, ifSet env.sessionSecret with
  | none, none =>
    if env.development then .developmentOpen else .misconfigured "access_not_configured"
  | some passphrase, some sessionSecret =>
    if sessionSecret.length < minSecretLength then .misconfigured "session_secret_too_short"
    else if passphrase.length < minPassphraseLength then .misconfigured "passphrase_too_short"
    else .configured passphrase sessionSecret
  | _, _ => .misconfigured "access_partially_configured"

inductive GuardDecision where
  | allow
  | login (next : JsString)
  | refuse (reason : String)
  deriving DecidableEq

/-- Paths that work without a session. -/
def isPublicPath (pathname : JsString) : Bool :=
  pathname = ofString "/login" || (ofString "/auth/").isPrefixOf pathname ||
    (ofString "/_next/").isPrefixOf pathname || pathname = ofString "/favicon.ico"

def guard (sign : HmacSha256) (pathname : JsString) (sessionCookie : Option JsString)
    (config : AccessConfig) (now : JsDate) : GuardDecision :=
  if isPublicPath pathname then .allow
  else match config with
    | .developmentOpen => .allow
    | .misconfigured reason => .refuse reason
    | .configured _ sessionSecret =>
      if verifySession sign sessionSecret sessionCookie now then .allow else .login pathname

/-! ## Which configuration an environment gives -/

/-- Empty or not there. -/
def Unset (text : Option JsString) : Prop := text = none ∨ text = some []

theorem ifSet_eq_none_iff {text : Option JsString} : ifSet text = none ↔ Unset text := by
  unfold ifSet Unset
  cases text with
  | none => simp
  | some s => by_cases hs : s = [] <;> simp [hs]

theorem ifSet_eq_some_iff {text : Option JsString} {s : JsString} :
    ifSet text = some s ↔ text = some s ∧ s ≠ [] := by
  unfold ifSet
  rw [Option.filter_eq_some_iff, decide_eq_true_eq]

/-- Nothing is set, in an environment that may be open. -/
def OpenEnv (env : Env) : Prop := env.development ∧ Unset env.passphrase ∧ Unset env.sessionSecret

/-- Both secrets are set and long enough. -/
structure Configured (env : Env) (word secret : JsString) : Prop where
  passphrase : env.passphrase = some word
  sessionSecret : env.sessionSecret = some secret
  secretLength : minSecretLength ≤ secret.length
  passphraseLength : minPassphraseLength ≤ word.length

theorem Configured.ifSet {env : Env} {word secret : JsString} (h : Configured env word secret) :
    ifSet env.passphrase = some word ∧ ifSet env.sessionSecret = some secret := by
  have hword := h.passphraseLength
  have hsecret := h.secretLength
  unfold minPassphraseLength at hword
  unfold minSecretLength at hsecret
  constructor
  · apply ifSet_eq_some_iff.2 ⟨h.passphrase, ?_⟩
    rintro rfl
    simp at hword
  · apply ifSet_eq_some_iff.2 ⟨h.sessionSecret, ?_⟩
    rintro rfl
    simp at hsecret

theorem accessConfig_developmentOpen_iff {env : Env} :
    accessConfig env = .developmentOpen ↔ OpenEnv env := by
  unfold accessConfig OpenEnv
  rw [← ifSet_eq_none_iff, ← ifSet_eq_none_iff]
  rcases ifSet env.passphrase with _ | word <;> rcases ifSet env.sessionSecret with _ | secret
  · by_cases hdevelopment : env.development <;> simp [hdevelopment]
  · simp
  · simp
  · dsimp only
    split_ifs <;> simp

theorem accessConfig_configured_iff {env : Env} {word secret : JsString} :
    accessConfig env = .configured word secret ↔ Configured env word secret := by
  constructor
  · intro h
    unfold accessConfig at h
    split at h
    · split_ifs at h
    · rename_i word' secret' hword hsecret
      split_ifs at h with hsecretLength hwordLength
      cases h
      exact ⟨(ifSet_eq_some_iff.1 hword).1, (ifSet_eq_some_iff.1 hsecret).1,
        by omega, by omega⟩
    · cases h
  · intro h
    obtain ⟨hword, hsecret⟩ := h.ifSet
    have := h.secretLength
    have := h.passphraseLength
    unfold accessConfig
    rw [hword, hsecret]
    dsimp only
    rw [if_neg (by omega), if_neg (by omega)]

/-! ## The boundary -/

variable {sign : HmacSha256} {pathname : JsString} {cookie : Option JsString} {now : JsDate}

/-- A private path is let through when the environment is open, or for a session. -/
theorem guard_allow_iff {env : Env} (hprivate : isPublicPath pathname = false) :
    guard sign pathname cookie (accessConfig env) now = .allow ↔
      OpenEnv env ∨ ∃ word secret, Configured env word secret ∧
        verifySession sign secret cookie now = true := by
  simp only [← accessConfig_developmentOpen_iff, ← accessConfig_configured_iff]
  unfold guard
  rw [hprivate]
  cases accessConfig env with
  | configured word secret =>
    by_cases hsession : verifySession sign secret cookie now = true <;> simp [hsession]
  | developmentOpen => simp
  | misconfigured reason => simp

/-- Every other environment refuses every private path. -/
theorem guard_refuse {env : Env} (hprivate : isPublicPath pathname = false) (hopen : ¬ OpenEnv env)
    (hconfigured : ∀ word secret, ¬ Configured env word secret) :
    ∃ reason, guard sign pathname cookie (accessConfig env) now = .refuse reason := by
  unfold guard
  rw [hprivate]
  cases hconfig : accessConfig env with
  | configured word secret =>
    exact absurd (accessConfig_configured_iff.1 hconfig) (hconfigured word secret)
  | developmentOpen => exact absurd (accessConfig_developmentOpen_iff.1 hconfig) hopen
  | misconfigured reason => exact ⟨reason, rfl⟩

/-- **The access boundary is exact**, for any 32 bytes that sign. A private path is let
through exactly when the environment is open or when it is configured and the cookie
is digits with their own tag, issued at most twelve hours ago; in every other
environment it is refused whatever the cookie. A token verifies from its issue for
twelve hours and at no other time, a string only with the tag of its own issue text;
and the comparison is equality. -/
theorem access_boundary_exact (sign : HmacSha256) :
    (∀ (env : Env) (pathname : JsString) (cookie : Option JsString) (now : JsDate),
      isPublicPath pathname = false → (∀ token ∈ cookie, token.length < 2 ^ 31) →
      (guard sign pathname cookie (accessConfig env) now = .allow ↔
        OpenEnv env ∨ ∃ word secret, Configured env word secret ∧
          ∃ s, allDigits s = true ∧ cookie = some (s ++ dot :: hmac sign secret s) ∧
            ∃ t, now = some t ∧ 0 ≤ t.ms - number s ∧ t.ms - number s ≤ sessionTtlMs) ∧
      (¬ OpenEnv env → (∀ word secret, ¬ Configured env word secret) →
        ∃ reason, guard sign pathname cookie (accessConfig env) now = .refuse reason)) ∧
    (∀ (secret : JsString) (t : TimeValue), 0 ≤ t.ms → ∀ now : JsDate,
      verifySession sign secret (some (issueSession sign secret (some t))) now = true ↔
        ∃ n, now = some n ∧ t.ms ≤ n.ms ∧ n.ms ≤ t.ms + sessionTtlMs) ∧
    (∀ (secret issued tag : JsString) (now : JsDate), (issued ++ dot :: tag).length < 2 ^ 31 →
      (verifySession sign secret (some (issued ++ dot :: tag)) now = true ↔
        allDigits issued = true ∧ tag = hmac sign secret issued ∧
          ∃ t, now = some t ∧ 0 ≤ t.ms - number issued ∧ t.ms - number issued ≤ sessionTtlMs)) ∧
    ∀ a b : JsString, a.length < 2 ^ 31 → b.length < 2 ^ 31 →
      (timingSafeEqual a b = true ↔ a = b) := by
  refine ⟨?_, ?_, ?_, ?_⟩
  · intro env pathname cookie now hprivate hlength
    refine ⟨?_, guard_refuse hprivate⟩
    rw [guard_allow_iff hprivate]
    cases cookie with
    | none => simp [verifySession]
    | some token => simp only [verifySession_iff (hlength token rfl), Option.some.injEq]
  · intro secret t ht now
    exact verifySession_issueSession ht now
  · intro secret issued tag now hlength
    exact verifySession_pair_iff hlength now
  · intro a b ha hb
    exact timingSafeEqual_iff ha hb

/-! ## Fixture records -/

def fixtureSecret : JsString := ofString "session-secret-with-at-least-32-characters!"

def fixturePassphrase : JsString := ofString "correct-horse-battery-staple-pilot"

/-- What signing the text `0` with the fixture secret gives. -/
def fixtureSign : HmacSha256 := fun _ _ =>
  ⟨[195, 151, 86, 116, 96, 249, 234, 236, 249, 166, 234, 7, 102, 64, 46, 27,
    247, 176, 244, 91, 55, 166, 49, 177, 246, 69, 76, 243, 24, 33, 131, 199], rfl⟩

def productionEnv : Env
  | "PAXPIVOT_PILOT_PASSPHRASE" => some fixturePassphrase
  | "PAXPIVOT_SESSION_SECRET" => some fixtureSecret
  | "NODE_ENV" => some (ofString "production")
  | _ => none

/-- The epoch. -/
def epoch : TimeValue := ⟨0, by decide⟩

/-- The cookie issued at the epoch. -/
def fixtureCookie : JsString := ofString "0" ++ dot :: hmac fixtureSign fixtureSecret (ofString "0")

theorem fixture_cookie_is_allowed :
    guard fixtureSign (ofString "/terminals") (some fixtureCookie) (accessConfig productionEnv)
      (some epoch) = .allow := by
  have hlength : ∀ token ∈ some fixtureCookie, token.length < 2 ^ 31 := by
    rintro token ⟨⟩
    decide +kernel
  refine ((access_boundary_exact fixtureSign).1 productionEnv _ _ _ (by decide) hlength).1.2
    (.inr ⟨fixturePassphrase, fixtureSecret, ⟨rfl, rfl, by decide, by decide⟩, ?_⟩)
  exact ⟨ofString "0", by decide, rfl, epoch, rfl, by decide, by decide⟩

end PaxPivot
