import Mathlib
import PaxPivot.Base
import PaxPivot.Library.CodePoints

/-!
# What Firecrawl is asked and what it answers

The two ends of `infrastructure/providers/firecrawl.py`: how `_fetch` decodes an
answer, and how `discover_artifact` picks a link of a page.
-/

namespace PaxPivot

open Regex (Expr)
open PyStr (ofString point literal anySpaces)

/-! ## Requests -/

inductive Format where
  | rawHtml | markdown
  deriving DecidableEq

def Format.value : Format → String
  | .rawHtml => "rawHtml"
  | .markdown => "markdown"

/-- The JSON body of the one request the adapter makes. -/
structure ScrapeRequest where
  url : PyStr
  formats : List Format
  onlyMainContent : Bool
  maxAge : Nat
  deriving DecidableEq

def scrapeRequest (url : PyStr) (fmt : Format) : ScrapeRequest :=
  { url, formats := [fmt], onlyMainContent := false, maxAge := 0 }

/-! ## Answers -/

/-- A number of JSON with a fraction or an exponent, as Python reads it. -/
inductive PyFloat where
  | finite (value : ℚ)
  | infinite
  | nan
  deriving DecidableEq

/-- What `json.loads` returns. -/
inductive Json where
  | null
  | bool (value : Bool)
  | int (value : Int)
  | float (value : PyFloat)
  | str (text : PyStr)
  | arr (items : List Json)
  | obj (members : List (PyStr × Json))

namespace Json

/-- The value of a key; the last of several members wins. -/
def member (members : List (PyStr × Json)) (key : String) : Option Json :=
  (members.reverse.find? fun m => m.1 = ofString key).map (·.2)

/-- `value[key]`. -/
def item (key : String) : Json → Except PyError Json
  | obj members =>
    match member members key with
    | some value => .ok value
    | none => .error .keyError
  | _ => .error .typeError

/-- `value.get(key)` of a dictionary. -/
def get (key : String) : Json → Json
  | obj members => (member members key).getD null
  | _ => null

/-- `int(value)`. -/
def toInt : Json → Except PyError Int
  | bool value => .ok (if value then 1 else 0)
  | int value => .ok value
  | float (.finite value) => .ok (value.num.tdiv value.den)
  | float .infinite => .error .overflowError
  | float .nan => .error .valueError
  | str text =>
    match PyStr.int text with
    | some value => .ok value
    | none => .error .valueError
  | null | arr _ | obj _ => .error .typeError

/-- The text of a string, `none` for every other value. -/
def text? : Json → Option PyStr
  | str text => some text
  | _ => none

/-- A blank string has no content. -/
def nonblank : Json → Json
  | str text => if PyStr.strip text = [] then null else str text
  | value => value

end Json

/-- The status a page answered with and its document. -/
structure Page where
  status : Int
  document : Json

/-- What comes back: nothing (`httpx.HTTPError`), a response whose body is JSON or
is not, or another exception of the client. -/
inductive HttpAnswer where
  | unreachable
  | response (statusCode : Nat) (body : Option Json)
  | raised (e : PyError)

/-- `_failure`. -/
def fetchFailure (code : ErrorCode) (messageKey : Identifier) (retryable : Bool) :
    ApplicationError :=
  { code, messageKey, retryable }

theorem firecrawlUnreachable_accepted :
    Identifier.accepts "source_provider.firecrawl_unreachable" = true := by decide

def firecrawlUnreachable : ApplicationError :=
  fetchFailure .unavailable
    (.lit "source_provider.firecrawl_unreachable" firecrawlUnreachable_accepted) true

/-- The `try` block that reads the payload. -/
def readPage (fmt : Format) (payload : Json) : Except PyError Page := do
  let data ← payload.item "data"
  let metadata ← data.item "metadata"
  let code ← metadata.item "statusCode"
  let status ← code.toInt
  .ok { status, document := (data.get fmt.value).nonblank }

/-- `except (ValueError, KeyError, TypeError)`. -/
def malformed : List PyError := [.valueError, .keyError, .typeError]

/-- `_fetch` from the answer on. -/
def decodeAnswer (fmt : Format) : HttpAnswer → Except PyError (Result Page)
  | .raised e => .error e
  | .unreachable => .ok (.error firecrawlUnreachable)
  | .response statusCode body =>
    if statusCode = 401 then
      .ok (.error
        (fetchFailure .unauthorized (.lit "source_provider.firecrawl_unauthorized") false))
    else if statusCode = 402 ∨ statusCode = 429 then
      .ok (.error (fetchFailure .unavailable (.lit "source_provider.firecrawl_budget") true))
    else if 500 ≤ statusCode then
      .ok (.error (fetchFailure .unavailable (.lit "source_provider.firecrawl_unavailable") true))
    else if statusCode ≠ 200 then
      .ok (.error (fetchFailure .unavailable (.lit "source_provider.firecrawl_rejected") false))
    else
      let page : Except PyError Page := match body with
        | none => .error .valueError
        | some payload => readPage fmt payload
      match page with
      | .ok page => .ok (.ok page)
      | .error e =>
        if e ∈ malformed then
          .ok (.error (fetchFailure .unavailable (.lit "source_provider.firecrawl_malformed") true))
        else .error e

/-! ## The link of a schedule artifact -/

/-- `ARTIFACT_FILENAME`. -/
def artifactFilename : Expr CodePoint :=
  .seq [literal "72", anySpaces, .opt (literal "-"), anySpaces,
    .group 1 (.alt (literal "hr") (literal "hour"))]

def quote (c : CodePoint) : Bool := c = point '"' || c = point '\''

/-- `HREF`. -/
def href : Expr CodePoint :=
  .seq [literal "href=", .set quote, .group 1 (.many (fun c => !quote c) 1 none), .set quote]

/-- The links of a page, as its text writes them. -/
def hrefs (pageHtml : PyStr) : List PyStr := href.findAll 1 pageHtml

/-- What follows the folder in a link, up to its query, decoded. -/
def linkFilename (folder link : PyStr) : PyStr :=
  PyStr.unquote ((link.drop folder.length).takeWhile (· ≠ point '?'))

/-- A link to a file right inside a folder. -/
structure Inside (lib : PyLib) (folder link : PyStr) : Prop where
  under : lib.lower folder <+: lib.lower link
  noSlash : point '/' ∉ linkFilename folder link
  noParent : ¬ [point '.', point '.'] <:+: linkFilename folder link
  noBackslash : point '\\' ∉ linkFilename folder link

/-- `urljoin(page_url, html.unescape(raw))`, `none` for `ValueError`. -/
def resolve (lib : PyLib) (pageUrl raw : PyStr) : Option PyStr :=
  (lib.unescape raw).bind (lib.urljoin pageUrl)

/-- The loop of `discover_artifact` over the links of the page. -/
def discoverFrom (lib : PyLib) (folder pageUrl : PyStr) :
    List PyStr → Except PyError (Option PyStr)
  | [] => .ok none
  | raw :: rest =>
    match resolve lib pageUrl raw with
    | none => .error .valueError
    | some link =>
      let filename := linkFilename folder link
      if ¬ lib.lower folder <+: lib.lower link then discoverFrom lib folder pageUrl rest
      else if point '/' ∈ filename ∨ [point '.', point '.'] <:+: filename ∨
          point '\\' ∈ filename then
        discoverFrom lib folder pageUrl rest
      else if (artifactFilename.search filename).isSome then .ok (some link)
      else discoverFrom lib folder pageUrl rest

def discoverArtifact (lib : PyLib) (pageHtml folder pageUrl : PyStr) :
    Except PyError (Option PyStr) :=
  discoverFrom lib folder pageUrl (hrefs pageHtml)

/-- What is discovered is a link of the page to a file right inside the folder. -/
theorem discoverFrom_some {lib : PyLib} {folder pageUrl link : PyStr} {raws : List PyStr}
    (h : discoverFrom lib folder pageUrl raws = .ok (some link)) :
    ∃ raw ∈ raws, resolve lib pageUrl raw = some link ∧ Inside lib folder link := by
  induction raws with
  | nil => cases h
  | cons raw rest ih =>
    have later : discoverFrom lib folder pageUrl rest = .ok (some link) →
        ∃ raw' ∈ raw :: rest, resolve lib pageUrl raw' = some link ∧
          Inside lib folder link := by
      intro hrest
      obtain ⟨raw', hraw, hjoin, inside⟩ := ih hrest
      exact ⟨raw', List.mem_cons_of_mem raw hraw, hjoin, inside⟩
    unfold discoverFrom at h
    cases hjoin : resolve lib pageUrl raw with
    | none => simp [hjoin] at h
    | some found =>
      simp only [hjoin] at h
      split at h
      · exact later h
      rename_i under
      split at h
      · exact later h
      rename_i plain
      split at h
      · obtain rfl : found = link := by simpa using h
        simp only [not_or] at plain
        obtain ⟨noSlash, noParent, noBackslash⟩ := plain
        exact ⟨raw, List.mem_cons_self, hjoin,
          ⟨not_not.1 under, noSlash, noParent, noBackslash⟩⟩
      · exact later h

end PaxPivot
