import PaxPivot.Web.Auth.Guard
import PaxPivot.Library.FormEncoding

/-!
# Where a login leads

`safeNextPath` of `lib/auth/guard.ts`, and the way of a private page's path through
`proxy.ts`, `app/login/page.tsx` and `app/auth/session/route.ts`. The server's and the
browser's URL parsers are that of the URL Standard, each with a host parser of its
own.
-/

namespace PaxPivot

open JsText (ofString ofScalars scalars unit)
open WebUrl (Base Url)
open FormEncoding (uriComponentSet formParse formSerialize)

/-- The host parser of a URL implementation; `none` is a failure. -/
abbrev HostParser := List Char → Option String

/-- A value of type `unknown`: a string or none. -/
inductive Candidate where
  | string (text : JsString)
  | other

/-- `http://local.invalid`. -/
def sentinel : Base := { scheme := .http, host := "local.invalid", port := none }

def safeNextPath (hostParse : HostParser) : Candidate → JsString
  | .other => ofString "/"
  | .string candidate =>
    if candidate.head? ≠ some (unit '/') then ofString "/"
    else match WebUrl.resolve hostParse sentinel (scalars candidate) with
      | none => ofString "/"
      | some url =>
        if url.origin.text ≠ "http://local.invalid" ∨ url.protocolRelative = true then ofString "/"
        else ofScalars url.pathSearch

/-! ## Proxy, login page, session route -/

/-- `encodeURIComponent`, `none` for the `URIError` of a lone surrogate. -/
def encodeURIComponent (text : JsString) : Option (List Char) :=
  if ofScalars (scalars text) = text then some (WebUrl.encode uriComponentSet (scalars text))
  else none

/-- What the proxy reads of a request. -/
structure ProxyRequest where
  base : Base
  pathname : JsString
  search : JsString
  sessionCookie : Option JsString

inductive ProxyAnswer where
  | next
  | unavailable
  | redirect (login : Url)

/-- `proxy`; `none` when an exception ends it. -/
def proxy (sign : HmacSha256) (hostParse : HostParser) (config : AccessConfig) (now : JsDate)
    (request : ProxyRequest) : Option ProxyAnswer :=
  match guard sign request.pathname request.sessionCookie config now with
  | .allow => some .next
  | .refuse _ => some .unavailable
  | .login next => do
    let value ← encodeURIComponent (next ++ request.search)
    let login ← WebUrl.resolve hostParse request.base ("/login?next=".toList ++ value)
    some (.redirect login)

/-- A search parameter: a string when it is there once. -/
def searchParam (pairs : List (List Char × List Char)) (name : List Char) : Candidate :=
  match pairs.filter (·.1 = name) with
  | [pair] => .string (ofScalars pair.2)
  | _ => .other

def nextField : List Char := ['n', 'e', 'x', 't']

def passphraseField : List Char := ['p', 'a', 's', 's', 'p', 'h', 'r', 'a', 's', 'e']

/-- The hidden field of the login page at `login`. -/
def hiddenNext (hostParse : HostParser) (login : Url) : JsString :=
  safeNextPath hostParse (searchParam (formParse (login.search.drop 1)) nextField)

/-- What the login form posts. -/
def loginForm (next : JsString) (passphrase : List Char) : List Char :=
  formSerialize [(nextField, scalars next), (passphraseField, passphrase)]

/-- A value of `FormData`. -/
inductive FormValue where
  | text (value : JsString)
  | file

abbrev Form := List (JsString × FormValue)

/-- The form of an urlencoded body. -/
def Form.ofBody (body : List Char) : Form :=
  (formParse body).map fun pair => (ofScalars pair.1, .text (ofScalars pair.2))

/-- `form.get(name)`. -/
def Form.get (form : Form) (name : List Char) : Option FormValue :=
  (form.find? (·.1 = ofScalars name)).map (·.2)

/-- `String(value ?? "")`. -/
def FormValue.toText : Option FormValue → JsString
  | none => []
  | some (.text value) => value
  | some .file => ofString "[object File]"

def FormValue.candidate : Option FormValue → Candidate
  | some (.text value) => .string value
  | some .file | none => .other

inductive SignInAnswer where
  | unavailable
  | badRequest
  | refused (location : JsString)
  | signedIn (location session : JsString)
  deriving DecidableEq

/-- `POST`; `form` is `none` when `formData` raises, the answer when `encodeURIComponent` does. -/
def signIn (sign : HmacSha256) (hostParse : HostParser) (config : AccessConfig) (now : JsDate)
    (form : Option Form) : Option SignInAnswer :=
  match config, form with
  | .developmentOpen, _ | .misconfigured _, _ => some .unavailable
  | .configured _ _, none => some .badRequest
  | .configured passphrase sessionSecret, some form => do
    let given := FormValue.toText (form.get passphraseField)
    let next := safeNextPath hostParse (FormValue.candidate (form.get nextField))
    if !timingSafeEqual given passphrase then
      let value ← encodeURIComponent next
      some (.refused (ofScalars ("/login?error=1&next=".toList ++ value)))
    else some (.signedIn next (issueSession sign sessionSecret now))

/-! ## Every answer is a normal form -/

/-- The site's root. -/
def root : Url := { origin := sentinel, path := [[]], query := none }

theorem root_normal : root.Normal := by
  refine ⟨?_, by simp [root], by simp [root]⟩
  intro segment h
  obtain rfl : segment = [] := by simpa [root] using h
  exact WebUrl.plainSegment_nil

theorem root_pathSearch : ofScalars root.pathSearch = ofString "/" := by decide

/-- **What `safeNextPath` answers** is a written normal form that no browser takes for
a host. -/
theorem safeNextPath_cases (hostParse : HostParser) (candidate : Candidate) :
    ∃ u : Url, u.Normal ∧ u.protocolRelative = false ∧
      safeNextPath hostParse candidate = ofScalars u.pathSearch := by
  have fallback : ∃ u : Url, u.Normal ∧ u.protocolRelative = false ∧
      ofString "/" = ofScalars u.pathSearch := ⟨root, root_normal, rfl, root_pathSearch.symm⟩
  cases candidate with
  | other => exact fallback
  | string text =>
    rw [safeNextPath]
    split
    · exact fallback
    · split
      · exact fallback
      case h_2 url resolved =>
        split
        · exact fallback
        case isFalse kept =>
          simp only [not_or, Bool.not_eq_true] at kept
          exact ⟨url, WebUrl.resolve_normal resolved, kept.2, rfl⟩

theorem pathSearch_ascii {u : Url} (h : u.Normal) : ∀ c ∈ u.pathSearch, c.toNat < 0x80 := by
  intro c hc
  have := (WebUrl.pathSearch_visible h c hc).2
  omega

/-- An answer on the site, for every browser and every base. -/
structure OnSite (next : JsString) : Prop where
  slash : ∃ rest, next = unit '/' :: rest ∧ rest.head? ≠ some (unit '/') ∧
    rest.head? ≠ some (unit '\\')
  noTab : unit '\t' ∉ next
  noNewline : unit '\n' ∉ next
  noReturn : unit '\r' ∉ next
  sameOrigin : ∀ (hostParse : HostParser) (base : Base),
    ∃ url, WebUrl.resolve hostParse base (scalars next) = some url ∧ url.origin = base

theorem unit_inj {c d : Char} (hc : c.toNat < 0x80) (hd : d.toNat < 0x80) (h : unit c = unit d) :
    c = d := by
  have values := congrArg BitVec.toNat h
  rw [JsText.unit_toNat_of_lt hc, JsText.unit_toNat_of_lt hd] at values
  exact Char.toNat_inj.1 values

theorem onSite_of_normal {u : Url} (h : u.Normal) (relative : u.protocolRelative = false) :
    OnSite (ofScalars u.pathSearch) := by
  have ascii := pathSearch_ascii h
  obtain ⟨segment, more, -, htext, hsecond⟩ := WebUrl.pathSearch_eq_cons h relative
  have control : ∀ d : Char, d.toNat ≤ 0x20 → unit d ∉ ofScalars u.pathSearch := by
    intro d hd hmem
    rw [JsText.ofScalars_eq_map ascii] at hmem
    obtain ⟨c, hc, same⟩ := List.mem_map.1 hmem
    obtain rfl := unit_inj (ascii c hc) (by omega) same
    have := (WebUrl.pathSearch_visible h c hc).1
    omega
  have second : ∀ d : Char, d.toNat < 0x80 → WebUrl.isSlash d = true →
      ((segment ++ (more.flatMap ('/' :: ·) ++ u.search)).map unit).head? ≠ some (unit d) := by
    intro d hd hslash hhead
    rw [List.head?_map] at hhead
    obtain ⟨c, hc, same⟩ := Option.map_eq_some_iff.1 hhead
    have hmem : c ∈ u.pathSearch := by
      rw [htext]
      exact List.mem_cons_of_mem _ (List.mem_of_mem_head? hc)
    obtain rfl := unit_inj (ascii c hmem) hd same
    rw [hsecond c hc] at hslash
    cases hslash
  refine ⟨⟨_, ?_, second '/' (by decide) rfl, second '\\' (by decide) rfl⟩, control _ (by decide),
    control _ (by decide), control _ (by decide), ?_⟩
  · rw [JsText.ofScalars_eq_map ascii, htext, List.map_cons]
  · intro hostParse base
    rw [JsText.scalars_ofScalars ascii]
    exact ⟨_, WebUrl.resolve_pathSearch h relative hostParse base, rfl⟩

/-- **A normal form is kept.** -/
theorem safeNextPath_normal {u : Url} (h : u.Normal) (relative : u.protocolRelative = false)
    (hostParse : HostParser) :
    safeNextPath hostParse (.string (ofScalars u.pathSearch)) = ofScalars u.pathSearch := by
  have ascii := pathSearch_ascii h
  have begins : (ofScalars u.pathSearch).head? = some (unit '/') := by
    obtain ⟨rest, same, -⟩ := (onSite_of_normal h relative).slash
    rw [same]
    rfl
  have kept : (⟨sentinel, u.path, u.query.filter (· ≠ [])⟩ : Url).pathSearch = u.pathSearch := by
    unfold Url.pathSearch Url.pathname Url.search
    rcases hquery : u.query with _ | _ | ⟨c, rest⟩ <;> simp [Option.filter]
  have here : sentinel.text = "http://local.invalid" := by decide
  rw [safeNextPath, if_neg (not_not.2 begins), JsText.scalars_ofScalars ascii,
    WebUrl.resolve_pathSearch h relative]
  dsimp only
  rw [if_neg, kept]
  rw [not_or]
  exact ⟨not_not.2 here, ne_true_of_eq_false relative⟩

/-! ## The way of a deep link -/

/-- What the login link of a request escapes: what `encodeURIComponent` and then the query
of a URL escape. -/
def linkSet (c : Char) : Bool := uriComponentSet c || WebUrl.specialQuerySet c

theorem linkSet_covers : FormEncoding.Covers linkSet := ⟨by decide, by decide, by decide⟩

theorem formSet_covers : FormEncoding.Covers FormEncoding.formSet :=
  ⟨by decide, by decide, by decide⟩

/-- The names of the two fields need no escape. -/
theorem formDecode_nextField : FormEncoding.formDecode nextField = nextField := by
  have plain : WebUrl.encode FormEncoding.formSet nextField = nextField :=
    WebUrl.encode_eq_self (WebUrl.forall_of_all (by decide))
  have ascii : ∀ c ∈ nextField, c.toNat < 0x80 := WebUrl.forall_of_all (by decide)
  rw [← plain, FormEncoding.formDecode_encode formSet_covers ascii, plain]

/-- What `encodeURIComponent` leaves is visible, and no number sign. -/
theorem uriComponent_visible {text : List Char} :
    ∀ c ∈ WebUrl.encode uriComponentSet text, 0x20 < c.toNat ∧ c ≠ '#' := by
  have blank : ∀ n < 0x21, uriComponentSet (Char.ofNat n) = true := by decide
  intro c hc
  obtain hescape | ⟨-, outside⟩ := FormEncoding.mem_encode hc
  · have := WebUrl.plainChar_visible (WebUrl.escapeChars_plain hescape).2.1
    exact ⟨this.1, this.2.2.2⟩
  · constructor
    · by_contra low
      have escaped := blank c.toNat (by omega)
      rw [Char.ofNat_toNat, outside] at escaped
      cases escaped
    · rintro rfl
      exact absurd outside (by decide)

/-- `login`. -/
def loginSegment : List Char := ['l', 'o', 'g', 'i', 'n']

theorem loginSegment_plain : WebUrl.PlainSegment loginSegment :=
  ⟨WebUrl.forall_of_all (by decide), by decide, by decide⟩

/-- The URL parser escapes more of the query, and keeps it otherwise. -/
theorem queryState_login (text : List Char) :
    WebUrl.queryState ('?' :: (nextField ++ '=' :: WebUrl.encode uriComponentSet text)) =
      some (nextField ++ '=' :: WebUrl.encode linkSet text) := by
  have whole : (nextField ++ '=' :: WebUrl.encode uriComponentSet text).takeWhile (· != '#') =
      nextField ++ '=' :: WebUrl.encode uriComponentSet text := by
    apply List.takeWhile_eq_self_iff.2
    intro c hc
    rw [bne_iff_ne]
    obtain hname | hrest := List.mem_append.1 hc
    · rintro rfl
      exact absurd hname (by decide)
    · obtain _ | ⟨_, hvalue⟩ := hrest
      · decide
      · exact (uriComponent_visible c hvalue).2
  have field : WebUrl.encode WebUrl.specialQuerySet (nextField ++ ['=']) = nextField ++ ['='] :=
    WebUrl.encode_eq_self (WebUrl.forall_of_all (by decide))
  have regroup : ∀ value, nextField ++ '=' :: value = (nextField ++ ['=']) ++ value := by simp
  rw [WebUrl.queryState, whole, regroup, WebUrl.encode_append, field,
    WebUrl.encode_encode fun c hc => (WebUrl.escapeChars_plain hc).2.2, regroup]
  rfl

/-- **The login URL** of a text holds it in its query, escaped. -/
theorem resolve_login (hostParse : HostParser) (base : Base) (text : List Char) :
    WebUrl.resolve hostParse base ("/login?next=".toList ++ WebUrl.encode uriComponentSet text) =
      some { origin := base, path := [loginSegment],
             query := some (nextField ++ '=' :: WebUrl.encode linkSet text) } := by
  have written : "/login?next=".toList ++ WebUrl.encode uriComponentSet text =
      '/' :: (loginSegment ++ (List.flatMap ('/' :: ·) [] ++
        '?' :: (nextField ++ '=' :: WebUrl.encode uriComponentSet text))) := rfl
  have visible : ∀ c ∈ "/login?next=".toList ++ WebUrl.encode uriComponentSet text,
      0x20 < c.toNat := by
    intro c hc
    obtain hfront | hvalue := List.mem_append.1 hc
    · have front : ∀ c ∈ "/login?next=".toList, 0x20 < c.toNat :=
        WebUrl.forall_of_all (by decide)
      exact front c hfront
    · exact (uriComponent_visible c hvalue).1
  rw [written] at visible ⊢
  rw [WebUrl.resolve_plain loginSegment_plain (by simp) (by simp) visible ?_, queryState_login]
  intro c hc
  obtain rfl : 'l' = c := by simpa [loginSegment] using hc
  rfl

/-- The login page reads the text back. -/
theorem hiddenNext_login {text : List Char} (h : ∀ c ∈ text, c.toNat < 0x80) {login : Url}
    (hquery : login.query = some (nextField ++ '=' :: WebUrl.encode linkSet text))
    (hostParse : HostParser) :
    hiddenNext hostParse login = safeNextPath hostParse (.string (ofScalars text)) := by
  have search : login.search.drop 1 = nextField ++ '=' :: WebUrl.encode linkSet text := by
    unfold Url.search
    rw [hquery]
    rfl
  have pairs : formParse (login.search.drop 1) = [(nextField, text)] := by
    rw [search, (FormEncoding.formParse_head linkSet_covers (by decide) (by decide) h []).1,
      formDecode_nextField]
  unfold hiddenNext searchParam
  rw [pairs]
  rfl

/-- The session route reads the field back. -/
theorem get_next_loginForm {text : List Char} (h : ∀ c ∈ text, 0x20 < c.toNat ∧ c.toNat ≤ 0x7E)
    (passphrase : List Char) :
    Form.get (Form.ofBody (loginForm (ofScalars text) passphrase)) nextField =
      some (.text (ofScalars text)) := by
  have ascii : ∀ c ∈ text, c.toNat < 0x80 := fun c hc => by have := h c hc; omega
  have name : FormEncoding.formEncode nextField = nextField := by decide
  have value : FormEncoding.formEncode text = WebUrl.encode FormEncoding.formSet text := by
    unfold FormEncoding.formEncode WebUrl.encode
    apply List.flatMap_congr
    intro c hc
    apply if_neg
    rintro rfl
    exact absurd (h ' ' hc).1 (by decide)
  have body : loginForm (ofScalars text) passphrase =
      nextField ++ '=' :: WebUrl.encode FormEncoding.formSet text ++ '&' ::
        (FormEncoding.formEncode passphraseField ++ '=' :: FormEncoding.formEncode passphrase) := by
    unfold loginForm formSerialize
    rw [JsText.scalars_ofScalars ascii]
    simp [List.intercalate, name, value]
  unfold Form.get Form.ofBody
  rw [body, (FormEncoding.formParse_head formSet_covers (by decide) (by decide) ascii _).2,
    formDecode_nextField]
  simp

/-- The guard sends on the path it was asked about. -/
theorem guard_login {sign : HmacSha256} {pathname next : JsString}
    {sessionCookie : Option JsString} {config : AccessConfig} {now : JsDate}
    (h : guard sign pathname sessionCookie config now = .login next) : next = pathname := by
  unfold guard at h
  repeat' split at h
  all_goals cases h
  rfl

/-- A request for `page`, from a caller without a session. -/
structure SentToLogin (sign : HmacSha256) (config : AccessConfig) (now : JsDate) (page : Url)
    (request : ProxyRequest) : Prop where
  pathname : request.pathname = ofScalars page.pathname
  search : request.search = ofScalars page.search
  login : ∃ next, guard sign request.pathname request.sessionCookie config now = .login next

/-- The page survives: the login page is on the request's origin and its hidden field is
the page, and so is the `Location` of a sign-in, or what a refused sign-in hands back. -/
structure Survives (sign : HmacSha256) (hostParse : HostParser) (config : AccessConfig)
    (now later : JsDate) (page : Url) (request : ProxyRequest) (login : Url) : Prop where
  proxied : proxy sign hostParse config now request = some (.redirect login)
  origin : login.origin = request.base
  field : hiddenNext hostParse login = ofScalars page.pathSearch
  signedIn : ∀ passphrase, ∃ answer,
    signIn sign hostParse config later
      (some (.ofBody (loginForm (hiddenNext hostParse login) passphrase))) = some answer ∧
    ((∃ session, answer = .signedIn (ofScalars page.pathSearch) session) ∨
      answer = .refused (ofScalars ("/login?error=1&next=".toList ++
        WebUrl.encode uriComponentSet page.pathSearch)))

/-- A guard that asks for a login has both secrets. -/
theorem configured_of_login {sign : HmacSha256} {pathname next : JsString}
    {sessionCookie : Option JsString} {config : AccessConfig} {now : JsDate}
    (h : guard sign pathname sessionCookie config now = .login next) :
    ∃ passphrase sessionSecret, config = .configured passphrase sessionSecret := by
  cases config with
  | configured passphrase sessionSecret => exact ⟨passphrase, sessionSecret, rfl⟩
  | developmentOpen =>
    unfold guard at h
    split at h <;> cases h
  | misconfigured reason =>
    unfold guard at h
    split at h <;> cases h

theorem encodeURIComponent_ascii {text : List Char} (h : ∀ c ∈ text, c.toNat < 0x80) :
    encodeURIComponent (ofScalars text) = some (WebUrl.encode uriComponentSet text) := by
  unfold encodeURIComponent
  rw [JsText.scalars_ofScalars h, if_pos rfl]

/-- **A deep link survives** the proxy, the login page and the session route. -/
theorem deep_link_survives {sign : HmacSha256} {config : AccessConfig} {now : JsDate} {page : Url}
    {request : ProxyRequest} (hostParse : HostParser) (later : JsDate) (normal : page.Normal)
    (relative : page.protocolRelative = false)
    (sent : SentToLogin sign config now page request) :
    ∃ login, Survives sign hostParse config now later page request login := by
  have ascii := pathSearch_ascii normal
  have field : ∀ login : Url,
      login.query = some (nextField ++ '=' :: WebUrl.encode linkSet page.pathSearch) →
      hiddenNext hostParse login = ofScalars page.pathSearch := by
    intro login hquery
    rw [hiddenNext_login ascii hquery, safeNextPath_normal normal relative]
  obtain ⟨next, hguard⟩ := sent.login
  obtain rfl := guard_login hguard
  obtain ⟨passphrase, sessionSecret, rfl⟩ := configured_of_login hguard
  refine ⟨⟨request.base, [loginSegment],
    some (nextField ++ '=' :: WebUrl.encode linkSet page.pathSearch)⟩,
    ⟨?_, rfl, field _ rfl, ?_⟩⟩
  · have whole : request.pathname ++ request.search = ofScalars page.pathSearch := by
      rw [sent.pathname, sent.search]
      exact List.flatMap_append.symm
    unfold proxy
    rw [hguard]
    dsimp only
    rw [whole, encodeURIComponent_ascii ascii]
    show (WebUrl.resolve hostParse request.base _).bind _ = _
    rw [resolve_login]
    rfl
  · intro given
    rw [field _ rfl]
    have posted := get_next_loginForm (WebUrl.pathSearch_visible normal) given
    have kept : safeNextPath hostParse (FormValue.candidate
        (Form.get (Form.ofBody (loginForm (ofScalars page.pathSearch) given)) nextField)) =
        ofScalars page.pathSearch := by
      rw [posted]
      exact safeNextPath_normal normal relative hostParse
    unfold signIn
    dsimp only
    rw [kept, encodeURIComponent_ascii ascii]
    split
    · exact ⟨_, rfl, .inr rfl⟩
    · exact ⟨_, rfl, .inl ⟨_, rfl⟩⟩

/-- **Post-login redirects.** For every value the answer stays on the site and is its own
answer; every URL the parser returns is in normal form, and a normal form that does not
begin with two slashes is kept; and such a page survives the way to the session. -/
theorem redirects_stay_on_site (hostParse : HostParser) :
    (∀ candidate, OnSite (safeNextPath hostParse candidate) ∧
      safeNextPath hostParse (.string (safeNextPath hostParse candidate)) =
        safeNextPath hostParse candidate) ∧
    (∀ base reference page, WebUrl.resolve hostParse base reference = some page → page.Normal) ∧
    (∀ page : Url, page.Normal → page.protocolRelative = false →
      safeNextPath hostParse (.string (ofScalars page.pathSearch)) = ofScalars page.pathSearch) ∧
    (∀ sign config now later request, ∀ page : Url, page.Normal → page.protocolRelative = false →
      SentToLogin sign config now page request →
      ∃ login, Survives sign hostParse config now later page request login) := by
  refine ⟨?_, ?_, ?_, ?_⟩
  · intro candidate
    obtain ⟨u, normal, relative, same⟩ := safeNextPath_cases hostParse candidate
    rw [same]
    exact ⟨onSite_of_normal normal relative, safeNextPath_normal normal relative hostParse⟩
  · intro base reference page resolved
    exact WebUrl.resolve_normal resolved
  · intro page normal relative
    exact safeNextPath_normal normal relative hostParse
  · intro sign config now later request page normal relative sent
    exact deep_link_survives hostParse later normal relative sent

-- A dot segment in disguise leaves two slashes; a deep link is kept.
example : safeNextPath (fun host => some (String.ofList host))
    (.string (ofString "/a/%2E%2e//evil.invalid/")) = ofString "/" := by
  decide +kernel

example : safeNextPath (fun host => some (String.ofList host))
    (.string (ofString "/terminals?filter=x")) = ofString "/terminals?filter=x" := by
  decide +kernel

end PaxPivot
