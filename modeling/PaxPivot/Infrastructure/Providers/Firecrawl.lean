import PaxPivot.Application.ProviderFailures
import PaxPivot.Application.Parsers.AmcPageTime
import PaxPivot.Infrastructure.Providers.FirecrawlAnswers

/-!
# The Firecrawl adapter

`FirecrawlSourceProvider` of `infrastructure/providers/firecrawl.py`: one instance
for a run. The outside (Firecrawl, the clock and `uuid4`) is arbitrary and threads
a state of its own; the adapter keeps a page cache, and the model also keeps what
was fetched. A method that raises leaves the state it raised in.
-/

namespace PaxPivot

open PyStr (ofString)

/-- What the adapter calls and does not compute. -/
structure Outside (τ : Type) where
  scrape : ScrapeRequest → τ → HttpAnswer × τ
  clock : τ → Int × τ
  uuid4 : τ → UUID × τ

/-- `ZoneInfo(name)`: a zone, by the instants of its local times,
`ZoneInfoNotFoundError` or another exception. -/
inductive ZoneLookup where
  | found (instant : CivilTime → Int)
  | notFound
  | raised (e : PyError)

structure FirecrawlSourceProvider (τ : Type) where
  lib : PyLib
  zoneInfo : String → ZoneLookup
  outside : Outside τ
  sources : Registry
  switches : List KillSwitch
  timezones : UUID → Option String

/-- One call of `_fetch`. -/
structure Fetch where
  request : ScrapeRequest
  answer : HttpAnswer

structure FirecrawlState (τ : Type) where
  world : τ
  pageCache : PyStr → Option (Result Page)
  fetches : List Fetch

/-- A new instance: nothing cached, nothing fetched. -/
def FirecrawlState.new {τ : Type} (world : τ) : FirecrawlState τ :=
  { world, pageCache := fun _ => none, fetches := [] }

def firecrawlId : Identifier := .lit "firecrawl"

def Source.urlText (s : Source) : PyStr := ofString s.identity.url.str

def unknownSource : ApplicationError :=
  fetchFailure .invalidInput (.lit "source_provider.unknown_source") false

def notAuthorized : ApplicationError :=
  fetchFailure .invalidInput (.lit "source_provider.not_authorized") false

def artifactParentUnreachable : ApplicationError :=
  fetchFailure .unavailable (.lit "source_provider.artifact_parent_unreachable") true

def artifactNotLinked : ApplicationError :=
  fetchFailure .unavailable (.lit "source_provider.artifact_not_linked") true

/-! ## The observation of a page -/

def metadataOnly : Identifier := .lit "metadata_only"

def httpForbidden : Identifier := .lit "http_forbidden"

def contentHashUnavailable : Identifier := .lit "content_hash_unavailable"

/-- The page itself answered well. -/
def Page.ok (status : Int) : Bool := 200 ≤ status && status < 300

/-- State, retrieval and reasons by the page's status; `code` is `http_{status}`. -/
def statusEvidence (status : Int) (code : Identifier) :
    SourceState × RetrievalState × List Identifier :=
  if Page.ok status then (.fresh, .succeeded, [metadataOnly, code])
  else if status = 404 ∨ status = 410 then (.missing, .failed, [code])
  else if status = 401 ∨ status = 403 then (.unreachable, .failed, [httpForbidden, code])
  else (.unreachable, .failed, [code])

/-- The record of a page that answered with `status`; `code` is `http_{status}`. -/
def pageFields (source : Source) (observationId : UUID) (observedAt status : Int)
    (code : Identifier) (digest extraReason : Option Identifier) : ObservationFields :=
  let evidence := statusEvidence status code
  { observationId
    provenance :=
      { source := source.identity
        observedAt
        sourceTime := none
        providerId := firecrawlId
        policyVersionId := source.policy.policyVersionId }
    state := evidence.1
    retrieval := evidence.2.1
    extraction := .notAttempted
    parserVersion := none
    contentHash := if evidence.2.1 = .succeeded then digest else none
    confidenceReasons := evidence.2.2 ++ extraReason.toList }

/-- `_observation`; the contract raises when it refuses a reason or the record. -/
def pageObservation (source : Source) (observationId : UUID) (observedAt status : Int)
    (digest extraReason : Option Identifier) : Except PyError SourceObservation :=
  match Identifier.validate ("http_" ++ toString status) with
  | none => .error .validationError
  | some code =>
    if h : (pageFields source observationId observedAt status code digest
        extraReason).evidenceConsistency = .ok () then .ok ⟨_, h⟩
    else .error .validationError

/-- 64 hexadecimal digits are an identifier. -/
theorem hexdigest_accepted (n : Nat) :
    Identifier.accepts (String.ofList (PyText.toHex 64 n)) = true := by
  have plain : ∀ c ∈ PyText.toHex 64 n, PyText.whiteSpace c = false := by
    have all : "0123456789abcdef".toList.all (fun c => !PyText.whiteSpace c) = true := by decide
    intro c hc
    simpa using List.all_eq_true.1 all c (PyText.mem_toHex hc)
  unfold Identifier.accepts
  rw [String.toList_ofList, PyText.stripChars_of_forall plain]
  simp [PyText.length_toHex]

/-- `hashlib.sha256(…).hexdigest()`. -/
def contentDigest (lib : PyLib) (document : PyStr) : Identifier :=
  ⟨String.ofList (PyText.toHex 64 (lib.sha256 document).val), hexdigest_accepted _⟩

def pageTimeNotFound : Identifier := .lit "page_time_not_found"

def pageTimeZoneUnknown : Identifier := .lit "page_time_zone_unknown"

def pageTimeDateOnly : Identifier := .lit "page_time_date_only"

def pageTimeParsed : Identifier := .lit "page_time_parsed"

def pageTimeLocalClock : Identifier := .lit "page_time_local_clock"

/-- The copy for a page whose stamp gives no time. -/
def stampFailed (o : ObservationFields) (reason : Identifier) : ObservationFields :=
  { o with
    extraction := .failed
    parserVersion := some parserVersion
    confidenceReasons := o.confidenceReasons ++ [reason] }

/-- The copy for a page whose stamp is `sourceTime`. -/
def stampRead (o : ObservationFields) (sourceTime : Int) : ObservationFields :=
  { o with
    provenance := { o.provenance with sourceTime := some sourceTime }
    extraction := .exact
    parserVersion := some parserVersion
    confidenceReasons :=
      o.confidenceReasons.filter (· ≠ metadataOnly) ++ [pageTimeParsed, pageTimeLocalClock] }

/-- The first terminal page of an artifact's terminal that may be retrieved. -/
def parentOf (sources : Registry) (switches : List KillSwitch) (source : Source) : Option Source :=
  sources.sources.find? fun s =>
    s.kind = .terminalPage ∧ s.terminalId = source.terminalId ∧ Authorized s .retrieve switches

namespace FirecrawlSourceProvider

variable {τ : Type} (p : FirecrawlSourceProvider τ)

/-- `ZoneInfo` of the terminal's zone name, `none` without a name or a zone. -/
def terminalZone (source : Source) : Except PyError (Option (CivilTime → Int)) :=
  match source.terminalId.bind p.timezones with
  | none => .ok none
  | some zoneName =>
    if zoneName = "" then .ok none
    else match p.zoneInfo zoneName with
      | .found instant => .ok (some instant)
      | .notFound => .ok none
      | .raised e => .error e

/-- `_with_page_time`: three of its four `model_copy` branches leave the time unknown. -/
def withPageTime (source : Source) (o : ObservationFields) (document : PyStr) :
    Except PyError ObservationFields :=
  match parsePageTime p.lib document with
  | .error e => .error e
  | .ok none => .ok (stampFailed o pageTimeNotFound)
  | .ok (some found) =>
    match p.terminalZone source with
    | .error e => .error e
    | .ok none => .ok (stampFailed o pageTimeZoneUnknown)
    | .ok (some instant) =>
      if !found.hasTime then .ok (stampFailed o pageTimeDateOnly)
      else .ok (stampRead o (instant found.localTime))

/-! ## Fetching -/

/-- `_fetch`. -/
def fetch (url : PyStr) (fmt : Format) (st : FirecrawlState τ) :
    Except PyError (Result Page) × FirecrawlState τ :=
  let request := scrapeRequest url fmt
  let (answer, world) := p.outside.scrape request st.world
  (decodeAnswer fmt answer, { st with world, fetches := st.fetches ++ [⟨request, answer⟩] })

/-- The cached page of a terminal; an answer that raises is not cached. -/
def fetchPage (url : PyStr) (st : FirecrawlState τ) :
    Except PyError (Result Page) × FirecrawlState τ :=
  match st.pageCache url with
  | some page => (.ok page, st)
  | none =>
    match p.fetch url .rawHtml st with
    | (.error e, st') => (.error e, st')
    | (.ok page, st') =>
      (.ok page, { st' with pageCache := Function.update st'.pageCache url (some page) })

/-- The parent of an artifact among the adapter's own sources. -/
def parentPage (source : Source) : Option Source := parentOf p.sources p.switches source

/-- `_fetch_registered` once the page of the artifact's terminal is there. -/
def fetchLinked (source parent : Source) (page : Page) (st : FirecrawlState τ) :
    Except PyError (Result Page) × FirecrawlState τ :=
  match (if Page.ok page.status then page.document.text? else none) with
  | none => (.ok (.error artifactParentUnreachable), st)
  | some html =>
    match discoverArtifact p.lib html source.urlText parent.urlText with
    | .error e => (.error e, st)
    | .ok none => (.ok (.error artifactNotLinked), st)
    | .ok (some link) => p.fetch link .markdown st

/-- `_fetch_registered`. -/
def fetchRegistered (source : Source) (st : FirecrawlState τ) :
    Except PyError (Result Page) × FirecrawlState τ :=
  if ¬ Authorized source .retrieve p.switches then (.ok (.error notAuthorized), st)
  else if source.kind ≠ .scheduleArtifact then p.fetch source.urlText .rawHtml st
  else match p.parentPage source with
    | none => (.ok (.error artifactParentMissing), st)
    | some parent =>
      match p.fetchPage parent.urlText st with
      | (.ok (.ok page), st') => p.fetchLinked source parent page st'
      | answered => answered

/-! ## The port -/

/-- The registered source with exactly this identity. -/
def registered (identity : SourceIdentity) : Option Source :=
  (p.sources.sources.find? fun s => s.sourceId = identity.sourceId).filter (·.identity = identity)

def fetchDocument (identity : SourceIdentity) (st : FirecrawlState τ) :
    Except PyError (Result (Int × Option PyStr)) × FirecrawlState τ :=
  match p.registered identity with
  | none => (.ok (.error unknownSource), st)
  | some source =>
    let (fetched, st') := p.fetchRegistered source st
    (fetched.map fun answer => answer.map fun page => (page.status, page.document.text?), st')

/-- `observe` from a fetched page on; `observationId` is the fresh `uuid4()`. -/
def observePage (source : Source) (observedAt : Int) (observationId : UUID) (page : Page) :
    Except PyError ObservationFields :=
  let hashWanted := source.policy.rawPayload ≠ .denied
  let digest := if hashWanted then page.document.text?.map (contentDigest p.lib) else none
  let extra := if hashWanted ∧ digest = none then some contentHashUnavailable else none
  match pageObservation source observationId observedAt page.status digest extra with
  | .error e => .error e
  | .ok o =>
    match page.document.text? with
    | some document =>
      if source.kind = .terminalPage ∧ Authorized source .parse p.switches ∧
          o.retrieval = .succeeded then
        p.withPageTime source o.toObservationFields document
      else .ok o.toObservationFields
    | none => .ok o.toObservationFields

def observe (identity : SourceIdentity) (st : FirecrawlState τ) :
    Except PyError (Result ObservationFields) × FirecrawlState τ :=
  match p.registered identity with
  | none => (.ok (.error unknownSource), st)
  | some source =>
    let (observedAt, world) := p.outside.clock st.world
    match p.fetchRegistered source { st with world } with
    | (.error e, st') => (.error e, st')
    | (.ok (.error failure), st') => (.ok (.error failure), st')
    | (.ok (.ok page), st') =>
      let (observationId, world') := p.outside.uuid4 st'.world
      ((p.observePage source observedAt observationId page).map .ok, { st' with world := world' })

/-- What the port answers once an exception has ended the run. -/
def ended : ApplicationError := fetchFailure .unavailable (.lit "run_ended") false

/-- The adapter as the pipeline's port. An exception ends the run: from then on the
port answers `ended` and calls nothing. -/
def port : SourceProvider (FirecrawlState τ × Option PyError) where
  providerId := firecrawlId.text
  observe identity state :=
    match state with
    | (st, some e) => (.error ended, st, some e)
    | (st, none) =>
      match p.observe identity st with
      | (.error e, st') => (.error ended, st', some e)
      | (.ok (.error failure), st') => (.error failure, st', none)
      | (.ok (.ok o), st') =>
        -- `model_copy` does not validate; what `observe` returns is consistent all the same.
        if h : o.evidenceConsistency = .ok () then (.ok ⟨o, h⟩, st', none)
        else (.error ended, st', some .validationError)

end FirecrawlSourceProvider

/-! ## Fixture records -/

/-- The library on plain ASCII text without entities, on absolute links and on the
one document that is hashed. -/
def plainLib : PyLib where
  isWord c := (0x30 ≤ c.val ∧ c.val ≤ 0x39) ∨ (0x41 ≤ c.val ∧ c.val ≤ 0x5A) ∨ c.val = 0x5F ∨
    (0x61 ≤ c.val ∧ c.val ≤ 0x7A)
  lower text := text.map fun c => if 0x41 ≤ c.val ∧ c.val ≤ 0x5A then c + 0x20 else c
  unescape text := some text
  urljoin _ link := some link
  sha256 _ := 0x1ab37abf58d32263efcc9294ca93b5b534e102178f922d9e88f4a86391bb4749

/-- Firecrawl is down, and the clock stands still. -/
def silentOutside : Outside Unit where
  scrape _ world := (.unreachable, world)
  clock world := (0, world)
  uuid4 world := (0, world)

/-- A terminal page wired to `adapter`. -/
def terminalPage (adapter : Option Identifier) : Source :=
  { fixtureSource 1 with terminalId := some 1, adapterId := adapter }

/-- The schedule artifact of the same terminal, in a folder of its own. -/
def scheduleArtifact : Source :=
  { fixtureSource 2 with
    identity :=
      { sourceId := 2
        url := { scheme := "https", host := "example.invalid", path := some "/docs/" }
        authority := .lit "synthetic-artifact" }
    kind := .scheduleArtifact
    terminalId := some 1
    adapterId := some firecrawlId }

/-- The registry of a page and its artifact. -/
def pageAndArtifact (adapter : Option Identifier) : Registry :=
  ⟨[terminalPage adapter, scheduleArtifact], by
    show [(1 : UUID), 2].Nodup
    decide⟩

end PaxPivot
