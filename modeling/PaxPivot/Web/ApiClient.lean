import PaxPivot.ApiRuns
import PaxPivot.Web.Auth.Guard

/-!
# The web's API client

`lib/api/client.ts`, and the deployment it runs in: a call goes to the API when the network lets
it, with the header that `fetch` makes of the token. Every way to fail has its own reason, and
a page tells them apart.
-/

namespace PaxPivot

open JsText (ofString)

inductive ApiFailure where
  | notConfigured | unauthorized | notFound | invalid | unavailable
  deriving DecidableEq

abbrev ApiResult := Except ApiFailure

/-- A response: its status, and what `json` makes of its body, `none` when that raises. -/
structure Response (α : Type) where
  status : Nat
  json : Option α

/-- `callApi`; `fetch` is given the base and the credential, and `none` when it raises. -/
def callApi {α : Type} (env : Env) (fetch : JsString → JsString → Option (Response α)) :
    ApiResult α :=
  match ifSet (env "PAXPIVOT_API_URL"), ifSet (env "PAXPIVOT_API_TOKEN") with
  | some base, some token =>
    match fetch base (ofString "Bearer " ++ token) with
    | none => .error .unavailable
    | some response =>
      if response.status = 401 then .error .unauthorized
      else if response.status = 404 then .error .notFound
      else if response.status = 422 then .error .invalid
      else if ¬ (200 ≤ response.status ∧ response.status ≤ 299) then .error .unavailable
      else match response.json with
        | some value => .ok value
        | none => .error .unavailable
  | _, _ => .error .notConfigured

/-- What a page comes to; `failed` is its error state, and `raised` the framework's. -/
inductive PageAnswer (α : Type) where
  | notConfigured
  | notFound
  | failed
  | raised
  | shown (model : α)

/-! ## The deployment -/

/-- The environments of the API and of the web, and the header's value that `fetch` makes of a
credential, `none` when it raises. -/
structure Site where
  api : ApiEnv
  env : Env
  headerBytes : JsString → Option (List UInt8)

namespace Site

variable (site : Site)

/-- What the web sends as `Authorization`. -/
def authorization : Option (List UInt8) :=
  (ifSet (site.env "PAXPIVOT_API_TOKEN")).bind fun token =>
    site.headerBytes (ofString "Bearer " ++ token)

/-- Both variables are set. -/
def Configured : Prop :=
  (ifSet (site.env "PAXPIVOT_API_URL")).isSome ∧ (ifSet (site.env "PAXPIVOT_API_TOKEN")).isSome

instance : Decidable site.Configured := inferInstanceAs (Decidable (_ ∧ _))

/-- `fetch`: `reached` when the network delivers the request to the API and back. -/
def fetch {α : Type} (reached : Bool) (json : ApiAnswer → Option α)
    (api : Option (List UInt8) → Option ApiAnswer) (_base credential : JsString) :
    Option (Response α) :=
  if reached then do
    let header ← site.headerBytes credential
    let answer ← api (some header)
    return ⟨answer.status, json answer⟩
  else none

/-- `readApi`, while the API is at `s`. -/
def readApi {α : Type} (s : Server) (reached : Bool) (now : Int) (call : ApiRead)
    (json : ApiAnswer → Option α) : ApiResult α :=
  callApi site.env (site.fetch reached json fun authorization =>
    (s.call site.api authorization (.read call) 0 now).2)

end Site

/-! ## What a call comes to -/

/-- What the client makes of an answer. -/
def ApiAnswer.outcome {α : Type} (json : ApiAnswer → Option α) (answer : ApiAnswer) :
    ApiResult α :=
  if answer.status = 401 then .error .unauthorized
  else if answer.status = 404 then .error .notFound
  else if answer.status = 422 then .error .invalid
  else if ¬ (200 ≤ answer.status ∧ answer.status ≤ 299) then .error .unavailable
  else match json answer with
    | some value => .ok value
    | none => .error .unavailable

section Call

variable {site : Site} {α : Type} {json : ApiAnswer → Option α} {reached : Bool}
  {api : Option (List UInt8) → Option ApiAnswer}

/-- Nothing is asked without a configuration. -/
theorem callApi_unset (unset : ¬ site.Configured)
    (fetch : JsString → JsString → Option (Response α)) :
    callApi site.env fetch = .error .notConfigured := by
  unfold Site.Configured at unset
  unfold callApi
  split
  case h_1 base token hbase htoken =>
    rw [hbase, htoken] at unset
    exact absurd ⟨rfl, rfl⟩ unset
  case h_2 => rfl

/-- **A call with a configuration**: it comes to the API's answer to the header, or fails. -/
theorem callApi_set (set : site.Configured) :
    callApi site.env (site.fetch reached json api) =
      match (if reached then site.authorization else none) with
      | none => .error .unavailable
      | some header =>
        match api (some header) with
        | none => .error .unavailable
        | some answer => answer.outcome json := by
  obtain ⟨base, token⟩ := set
  obtain ⟨base, hbase⟩ := Option.isSome_iff_exists.1 base
  obtain ⟨token, htoken⟩ := Option.isSome_iff_exists.1 token
  have authorization : site.authorization = site.headerBytes (ofString "Bearer " ++ token) := by
    unfold Site.authorization
    rw [htoken]
    rfl
  unfold callApi
  rw [hbase, htoken, authorization]
  dsimp only
  unfold Site.fetch
  cases reached with
  | false => rfl
  | true =>
    cases hheader : site.headerBytes (ofString "Bearer " ++ token) with
    | none => rfl
    | some header =>
      rw [if_pos rfl, if_pos rfl]
      show (match (api (some header)).bind fun answer =>
          some (Response.mk answer.status (json answer)) with
        | none => _
        | some response => _) = _
      dsimp only
      cases api (some header) with
      | none => rfl
      | some answer => rfl

/-- **A call that succeeds** was delivered, and is the API's answer to the header. -/
theorem callApi_ok {value : α} (h : callApi site.env (site.fetch reached json api) = .ok value) :
    site.Configured ∧ reached = true ∧ ∃ header answer, site.authorization = some header ∧
      api (some header) = some answer ∧ answer.outcome json = .ok value := by
  by_cases set : site.Configured
  case neg =>
    rw [callApi_unset set] at h
    cases h
  case pos =>
    rw [callApi_set set] at h
    cases reached with
    | false => cases h
    | true =>
      rw [if_pos rfl] at h
      split at h
      case h_1 => cases h
      case h_2 header hheader =>
        split at h
        case h_1 => cases h
        case h_2 answer hanswer => exact ⟨set, rfl, header, answer, hheader, hanswer, h⟩

end Call

section Read

variable {site : Site} {α : Type} {json : ApiAnswer → Option α} {reached : Bool} {s : Server}
  {now : Int} {call : ApiRead}

/-- The web is let in: it is configured, the network delivers, and its header bears the token. -/
structure Admitted (site : Site) (reached : Bool) : Prop where
  configured : site.Configured
  reached : reached = true
  bears : Bears site.api site.authorization

theorem Admitted.header (h : Admitted site reached) :
    ∃ header, site.authorization = some header := by
  obtain ⟨secret, value, before, after, -, -, header, -⟩ := h.bears
  exact ⟨value, header⟩

/-- The API and the web of one machine, with one token. -/
def fixtureSite : Site where
  api := fixtureApiEnv
  env name :=
    if name = "PAXPIVOT_API_URL" then some (ofString "http://127.0.0.1:8000")
    else if name = "PAXPIVOT_API_TOKEN" then
      some (ofString "synthetic-token-with-at-least-32-characters")
    else none
  headerBytes text :=
    if text.all (fun u => u.toNat < 256) then some (text.map fun u => UInt8.ofNat u.toNat) else none

theorem fixture_admitted : Admitted fixtureSite true where
  configured := by decide +kernel
  reached := rfl
  bears := by
    have header : fixtureSite.authorization = some fixtureAuthorization := by decide +kernel
    rw [header]
    exact fixture_bears

/-- **Who is let in reads what the API answers.** -/
theorem readApi_admitted (h : Admitted site reached) :
    site.readApi s reached now call json = (s.answerRead now call).outcome json := by
  obtain ⟨header, hheader⟩ := h.header
  have bears := h.bears
  rw [hheader] at bears
  have served : s.call site.api (some header) (.read call) 0 now =
      (s, some (s.answerRead now call)) :=
    call_of_bears bears rfl s 0 now
  unfold Site.readApi
  rw [callApi_set h.configured, if_pos h.reached, hheader]
  dsimp only
  rw [served]

/-- **Who is not let in is told so**, and learns nothing of the server. -/
theorem readApi_refused (call : ApiRead) (json : ApiAnswer → Option α) (now : Int)
    (set : site.Configured) (h : ¬ Admitted site reached) :
    ∃ failure ∈ [ApiFailure.unauthorized, .unavailable], ∀ s : Server,
      site.readApi s reached now call json = .error failure := by
  unfold Site.readApi
  simp only [callApi_set set]
  cases hdelivered : if reached then site.authorization else none with
  | none => exact ⟨.unavailable, by decide, fun _ => rfl⟩
  | some header =>
    cases reached with
    | false => cases hdelivered
    | true =>
      have denied : ¬ Bears site.api (some header) := by
        intro bears
        refine h ⟨set, rfl, ?_⟩
        rwa [show site.authorization = some header from hdelivered]
      have read : (ApiCall.read call).unread = none := rfl
      obtain ⟨answer, status, same⟩ := call_refused denied read 0 now
      simp only [same]
      unfold ApiAnswer.outcome
      rcases List.mem_cons.1 status with status | status
      · exact ⟨.unauthorized, by decide, fun _ => if_pos status⟩
      · rw [List.mem_singleton.1 status]
        exact ⟨.unavailable, by decide, fun _ => rfl⟩

end Read

end PaxPivot
