import PaxPivot.Infrastructure.Providers.FetchConfinement

/-!
# The adapter keeps the pipeline's rules

What `observe` returns is built from a validated record and three copies that
nothing validates. `Faithful` is what every one of them satisfies; it implies the
contract's own checks and the pipeline's.
-/

namespace PaxPivot

open PyStr (ofString)

variable {τ : Type} {p : FirecrawlSourceProvider τ}

/-- What an observation says about the page that answered with `status`. -/
structure Faithful (p : FirecrawlSourceProvider τ) (source : Source) (status : Int)
    (o : ObservationFields) : Prop where
  consistent : o.evidenceConsistency = .ok ()
  states : o.state = .fresh ∨ o.state = .missing ∨ o.state = .unreachable
  succeeded : o.retrieval = .succeeded ↔ o.state = .fresh
  answered : o.state = .fresh ↔ 200 ≤ status ∧ status < 300
  stamped : o.provenance.sourceTime ≠ none ↔ o.extraction = .exact
  parsed : o.extraction ∈ interpreted → o.extraction = .exact ∧ Authorized source .parse p.switches
  hashed : o.contentHash ≠ none → (200 ≤ status ∧ status < 300) ∧ source.policy.rawPayload ≠ .denied
  noPayload : o.payloadRef = none
  identity : o.provenance.source = source.identity
  provider : o.provenance.providerId = firecrawlId
  policyVersion : o.provenance.policyVersionId = source.policy.policyVersionId

theorem Page.ok_iff {status : Int} : Page.ok status = true ↔ 200 ≤ status ∧ status < 300 := by
  unfold Page.ok
  rw [Bool.and_eq_true, decide_eq_true_eq, decide_eq_true_eq]

/-- The evidence of a status: three states, of which one is a success. -/
theorem statusEvidence_spec (status : Int) (code : Identifier) :
    ((statusEvidence status code).1 = .fresh ∨ (statusEvidence status code).1 = .missing ∨
      (statusEvidence status code).1 = .unreachable) ∧
    ((statusEvidence status code).2.1 = .succeeded ↔ (statusEvidence status code).1 = .fresh) ∧
    ((statusEvidence status code).1 = .fresh ↔ 200 ≤ status ∧ status < 300) := by
  rw [← Page.ok_iff]
  unfold statusEvidence
  by_cases hok : Page.ok status = true
  · simp [hok]
  · by_cases hmissing : status = 404 ∨ status = 410
    · simp [hok, hmissing]
    · by_cases hforbidden : status = 401 ∨ status = 403
      · simp [hok, hmissing, hforbidden]
      · simp [hok, hmissing, hforbidden]

/-- The record before any copy: nothing is interpreted yet. -/
theorem pageObservation_faithful {source : Source} {observationId : UUID}
    {observedAt status : Int} {digest extra : Option Identifier} {o : SourceObservation}
    (hdigest : digest ≠ none → source.policy.rawPayload ≠ .denied)
    (h : pageObservation source observationId observedAt status digest extra = .ok o) :
    Faithful p source status o.toObservationFields ∧ o.provenance.sourceTime = none := by
  unfold pageObservation at h
  split at h
  · cases h
  · rename_i code _
    by_cases consistent : (pageFields source observationId observedAt status code digest
        extra).evidenceConsistency = .ok ()
    · rw [dif_pos consistent] at h
      cases h
      obtain ⟨states, succeeded, answered⟩ := statusEvidence_spec status code
      refine ⟨⟨consistent, states, succeeded, answered, ?_, ?_, ?_, rfl, rfl, rfl, rfl⟩, rfl⟩
      · simp [pageFields]
      · intro hinterpreted
        exact absurd hinterpreted (by decide : ExtractionState.notAttempted ∉ interpreted)
      · intro (hhash : (if (statusEvidence status code).2.1 = .succeeded then digest else none) ≠ _)
        by_cases hretrieval : (statusEvidence status code).2.1 = .succeeded
        · rw [if_pos hretrieval] at hhash
          exact ⟨answered.1 (succeeded.1 hretrieval), hdigest hhash⟩
        · rw [if_neg hretrieval] at hhash
          exact absurd rfl hhash
    · rw [dif_neg consistent] at h
      cases h

section Copies

variable {source : Source} {status : Int} {o : ObservationFields}

/-- A copy that only gives up the time stays faithful. -/
theorem Faithful.stampFailed (h : Faithful p source status o) (reason : Identifier)
    (untimed : o.provenance.sourceTime = none) :
    Faithful p source status (stampFailed o reason) := by
  obtain ⟨positive, -, -, -, payload, supersedes⟩ :=
    (ObservationFields.evidenceConsistency_ok_iff o).1 h.consistent
  refine ⟨?_, h.states, h.succeeded, h.answered, ?_, ?_, h.hashed, h.noPayload, h.identity,
    h.provider, h.policyVersion⟩
  · apply (ObservationFields.evidenceConsistency_ok_iff _).2
    refine ⟨positive, ?_, ?_, by simp [PaxPivot.stampFailed], payload, supersedes⟩
    · intro habsent
      have habsent : o.state ∈ [SourceState.noDepartures, .noCompatible] := habsent
      rcases h.states with hs | hs | hs
      all_goals
        rw [hs] at habsent
        exact absurd habsent (by decide)
    · intro hinterpreted
      exact absurd hinterpreted (by decide : ExtractionState.failed ∉ interpreted)
  · simp [PaxPivot.stampFailed, untimed]
  · intro hinterpreted
    exact absurd hinterpreted (by decide : ExtractionState.failed ∉ interpreted)

/-- The copy that reads the time needs a success and the right to parse. -/
theorem Faithful.stampRead (h : Faithful p source status o) (sourceTime : Int)
    (succeeded : o.retrieval = .succeeded) (parse : Authorized source .parse p.switches) :
    Faithful p source status (stampRead o sourceTime) := by
  obtain ⟨positive, -, -, -, payload, supersedes⟩ :=
    (ObservationFields.evidenceConsistency_ok_iff o).1 h.consistent
  refine ⟨?_, h.states, h.succeeded, h.answered, ?_, ?_, h.hashed, h.noPayload, h.identity,
    h.provider, h.policyVersion⟩
  · apply (ObservationFields.evidenceConsistency_ok_iff _).2
    refine ⟨positive, ?_, ?_, by simp [PaxPivot.stampRead], payload, supersedes⟩
    · intro _
      exact (by decide : ExtractionState.exact ∈ interpreted)
    · intro _
      exact ⟨by simp [PaxPivot.stampRead], succeeded⟩
  · simp [PaxPivot.stampRead]
  · intro _
    exact ⟨rfl, parse⟩

theorem withPageTime_faithful {document : PyStr} {o' : ObservationFields}
    (h : Faithful p source status o) (untimed : o.provenance.sourceTime = none)
    (succeeded : o.retrieval = .succeeded) (parse : Authorized source .parse p.switches)
    (copied : p.withPageTime source o document = .ok o') : Faithful p source status o' := by
  unfold FirecrawlSourceProvider.withPageTime at copied
  split at copied
  · cases copied
  · cases copied
    exact h.stampFailed _ untimed
  · split at copied
    · cases copied
    · cases copied
      exact h.stampFailed _ untimed
    · split at copied
      · cases copied
        exact h.stampFailed _ untimed
      · cases copied
        exact h.stampRead _ succeeded parse

end Copies

theorem observePage_faithful {source : Source} {observedAt : Int} {observationId : UUID}
    {page : Page} {o : ObservationFields}
    (h : p.observePage source observedAt observationId page = .ok o) :
    Faithful p source page.status o := by
  unfold FirecrawlSourceProvider.observePage at h
  dsimp only at h
  split at h
  · cases h
  · rename_i record hrecord
    have hdigest : (if source.policy.rawPayload ≠ .denied then
        page.document.text?.map (contentDigest p.lib) else none) ≠ none →
        source.policy.rawPayload ≠ .denied := by
      intro hsome hdenied
      rw [if_neg (not_not.2 hdenied)] at hsome
      exact hsome rfl
    obtain ⟨faithful, untimed⟩ := pageObservation_faithful (p := p) hdigest hrecord
    split at h
    · split at h
      · rename_i hparse
        obtain ⟨-, parse, succeeded⟩ := hparse
        exact withPageTime_faithful faithful untimed succeeded parse h
      · cases h
        exact faithful
    · cases h
      exact faithful

/-! ## Through the pipeline -/

/-- What `observe` returns is what it makes of the page it fetched. -/
theorem observe_returned {source : Source} {st : FirecrawlState τ} {o : ObservationFields}
    (registered : source ∈ p.sources.sources)
    (returned : (p.observe source.identity st).1 = .ok (.ok o)) :
    ∃ page, (p.fetchRegistered source { st with world := (p.outside.clock st.world).2 }).1 =
        .ok (.ok page) ∧
      Faithful p source page.status o := by
  have hregistered := registered_eq_some_iff.2 ⟨registered, rfl⟩
  simp only [FirecrawlSourceProvider.observe, hregistered] at returned
  rcases hfetched : p.fetchRegistered source { st with world := (p.outside.clock st.world).2 }
    with ⟨e | failure | page, st'⟩
  · rw [hfetched] at returned
    cases returned
  · rw [hfetched] at returned
    cases returned
  · refine ⟨page, rfl, ?_⟩
    simp only [hfetched] at returned
    cases hpage : p.observePage source (p.outside.clock st.world).1
        (p.outside.uuid4 st'.world).1 page with
    | error e =>
      rw [hpage] at returned
      cases returned
    | ok o' =>
      rw [hpage] at returned
      cases returned
      exact observePage_faithful hpage

/-- A page comes back only for a source the gate lets through. -/
theorem authorized_of_fetched {source : Source} {st : FirecrawlState τ} {page : Page}
    (h : (p.fetchRegistered source st).1 = .ok (.ok page)) :
    Authorized source .retrieve p.switches := by
  by_contra refusal
  unfold FirecrawlSourceProvider.fetchRegistered at h
  rw [if_pos refusal] at h
  cases h

/-- A faithful observation of a source whose URL has no query and no fragment keeps
the pipeline's rules. -/
theorem Faithful.acceptable {source : Source} {status : Int} {o : SourceObservation}
    (h : Faithful p source status o.toObservationFields)
    (noQuery : truthy source.identity.url.query = false)
    (noFragment : truthy source.identity.url.fragment = false) :
    Acceptable source o p.switches := by
  refine ⟨?_, h.policyVersion, ?_, ?_, ?_, ?_, ?_⟩
  · show o.provenance.source.sourceId = _
    rw [h.identity]
    rfl
  · rwa [h.identity]
  · rwa [h.identity]
  · intro hpayload
    exact absurd h.noPayload hpayload
  · intro hinterpreted
    exact (h.parsed hinterpreted).2
  · intro hhash
    exact (h.hashed hhash).2

/-- **The adapter and the pipeline agree.** Whatever comes back from the outside, an
observation that `observe` returns for a source wired to the adapter is faithful to
the page's status, and the pipeline under the same switches accepts it and appends
it to any store. -/
theorem observe_agrees (p : FirecrawlSourceProvider τ) (source : Source) (st : FirecrawlState τ)
    (o : ObservationFields) (registered : source ∈ p.sources.sources)
    (wired : source.adapterId = some firecrawlId)
    (noQuery : truthy source.identity.url.query = false)
    (noFragment : truthy source.identity.url.fragment = false)
    (returned : (p.observe source.identity st).1 = .ok (.ok o)) :
    ∃ page, (p.fetchRegistered source { st with world := (p.outside.clock st.world).2 }).1 =
        .ok (.ok page) ∧
      Faithful p source page.status o ∧
      ∃ consistent, ∀ (ε ρ : Type) (observations : SourceObservationRepository ε ρ) (store : ρ),
        recordObservation source p.port observations p.switches ⟨(st, none), store⟩ =
          match observations.append ⟨o, consistent⟩ store with
          | .error raised => .error raised
          | .ok stored => .ok (.ok ⟨o, consistent⟩,
              ⟨((p.observe source.identity st).2, none), stored⟩) := by
  obtain ⟨page, fetched, faithful⟩ := observe_returned registered returned
  refine ⟨page, fetched, faithful, faithful.consistent, ?_⟩
  intro ε ρ observations store
  have attempt : skipReason source p.port.providerId p.switches = none :=
    skipReason_eq_none_iff.2 ⟨authorized_of_fetched fetched, by rw [wired]; rfl⟩
  have answer : p.port.observe source.identity (st, none) =
      (.ok ⟨o, faithful.consistent⟩, (p.observe source.identity st).2, none) := by
    rcases hobserve : p.observe source.identity st with ⟨result, st'⟩
    rw [hobserve] at returned
    obtain rfl : result = .ok (.ok o) := returned
    simp only [FirecrawlSourceProvider.port, hobserve]
    rw [dif_pos faithful.consistent]
  have judged : judgeAnswer source p.port.providerId p.switches
      (.ok ⟨o, faithful.consistent⟩) = .ok ⟨o, faithful.consistent⟩ := by
    apply judgeAnswer_ok_iff.2
    refine ⟨rfl, ?_, Faithful.acceptable faithful noQuery noFragment⟩
    exact congrArg Identifier.text faithful.provider
  rw [recordObservation_of_attempt attempt]
  simp only [answer, judged]
  cases observations.append ⟨o, faithful.consistent⟩ store <;> rfl

/-- An outside that answers every request with the stamped page. -/
def stampedOutside : Outside Unit where
  scrape _ world := (.response 200 (some (.obj [(ofString "data", .obj
    [(ofString "metadata", .obj [(ofString "statusCode", .int 200)]),
      (ofString "rawHtml",
        .str (ofString "<p>Current as of 11 SEPTEMBER 2026 at 0350</p>"))])])), world)
  clock world := (0, world)
  uuid4 world := (7, world)

/-- An adapter over a wired page of a terminal five hours behind UTC, on the day of
the stamp. -/
def stampedAdapter : FirecrawlSourceProvider Unit where
  lib := plainLib
  zoneInfo _ := .found fun t => 1789102800000000 + 60000000 * (60 * t.hour + t.minute)
  outside := stampedOutside
  sources := pageAndArtifact (some firecrawlId)
  switches := []
  timezones _ := some "Etc/GMT+5"

def stampedRecord : ObservationFields :=
  stampRead (pageFields (terminalPage (some firecrawlId)) 7 0 200 (.lit "http_200")
    (some (contentDigest plainLib (ofString "<p>Current as of 11 SEPTEMBER 2026 at 0350</p>")))
    none)
    1789116600000000

theorem stamped_page_returned :
    (stampedAdapter.observe (terminalPage (some firecrawlId)).identity (.new ())).1 =
      .ok (.ok stampedRecord) := by
  decide +kernel

theorem stamped_page_is_appended :
    stampedRecord.extraction = .exact ∧
    ∃ consistent, recordObservation (terminalPage (some firecrawlId)) stampedAdapter.port
        historyRepository [] ⟨(.new (), none), []⟩ =
      .ok (.ok ⟨stampedRecord, consistent⟩,
        ⟨((stampedAdapter.observe (terminalPage (some firecrawlId)).identity (.new ())).2, none),
          [⟨stampedRecord, consistent⟩]⟩) := by
  obtain ⟨page, -, -, consistent, recorded⟩ := observe_agrees stampedAdapter
    (terminalPage (some firecrawlId)) (.new ()) stampedRecord List.mem_cons_self rfl rfl rfl
    stamped_page_returned
  exact ⟨rfl, consistent, recorded Empty _ historyRepository []⟩

end PaxPivot
