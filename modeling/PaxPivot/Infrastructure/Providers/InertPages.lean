import PaxPivot.Infrastructure.Providers.FetchConfinement

/-!
# Pages nothing is wired to

The runner asks for a source only when `skip_reason` is `None`, which takes the
adapter into account; the provider picks an artifact's parent page by the gate
alone. The two agree as long as every page read for an attempted source is itself
one the runner would attempt.
-/

namespace PaxPivot

open FirecrawlSourceProvider (port parentPage)

/-! ## The provider's state after a run -/

/-- The provider's state when it was asked about `sources` in turn. -/
def observeAll {σ : Type} (provider : SourceProvider σ) (sources : List Source) (state : σ) : σ :=
  sources.foldl (fun state source => (provider.observe source.identity state).2) state

theorem Effects.provider {σ ε ρ : Type} {provider : SourceProvider σ}
    {observations : SourceObservationRepository ε ρ} {switches : List KillSwitch}
    {checks : List Check} {w w' : World σ ρ}
    (sound : ∀ c ∈ checks, c.Sound provider.providerId switches)
    (h : Effects provider observations checks w w') :
    w'.provider = observeAll provider
      (attempted (checks.map (·.source)) provider.providerId switches) w.provider := by
  induction h with
  | nil w => rfl
  | cons head tail ih =>
    rename_i c cs w w₁ w₂
    have later := ih fun c' h' => sound c' (List.mem_cons_of_mem c h')
    rw [List.map_cons, (sound c (by simp)).attempted_cons]
    cases ha : c.answer with
    | none => rw [if_neg (by simp), later, head.notAsked ha]
    | some a =>
      rw [if_pos (by simp), later]
      show _ = observeAll provider _ (provider.observe c.source.identity w.provider).2
      rw [head.asked a ha]

section Firecrawl

variable {τ : Type} {p : FirecrawlSourceProvider τ} {st : FirecrawlState τ}

/-- The page that is read for a source: itself, or the parent of an artifact. -/
def pageFor (sources : Registry) (switches : List KillSwitch) (source : Source) : Option Source :=
  if source.kind = .scheduleArtifact then parentOf sources switches source else some source

/-- The page at `url` was fetched. -/
def PageFetched (st : FirecrawlState τ) (url : PyStr) : Prop :=
  ∃ f ∈ st.fetches, f.request = scrapeRequest url .rawHtml

/-- Every terminal page that was fetched is one the runner would attempt. -/
def InertStayInert (sources : Registry) (switches : List KillSwitch) (st : FirecrawlState τ) :
    Prop :=
  ∀ page ∈ sources.sources, page.kind = .terminalPage → PageFetched st page.urlText →
    skipReason page firecrawlId.text switches = none

/-- Every terminal page with the URL of a page read for an attempted source is one
the runner would attempt. -/
def PagesWired (sources : Registry) (switches : List KillSwitch) : Prop :=
  ∀ source ∈ attempted sources.sources firecrawlId.text switches,
    ∀ read, pageFor sources switches source = some read →
    ∀ page ∈ sources.sources, page.kind = .terminalPage → page.urlText = read.urlText →
      skipReason page firecrawlId.text switches = none

/-! ## What asking about the attempted sources fetches -/

/-- After `asked`, the pages fetched are those read for them. -/
structure PagesRead (p : FirecrawlSourceProvider τ) (asked : List Source)
    (state : FirecrawlState τ × Option PyError) : Prop where
  cached : ∀ url, state.1.pageCache url ≠ none → PageFetched state.1 url
  fetched : ∀ url, PageFetched state.1 url →
    ∃ source ∈ asked, ∃ read, pageFor p.sources p.switches source = some read ∧ read.urlText = url
  complete : state.2 = none →
    ∀ source ∈ asked, ∀ read, pageFor p.sources p.switches source = some read →
      PageFetched state.1 read.urlText

theorem pageFetched_fetch_iff {url url' : PyStr} {fmt : Format} :
    PageFetched (p.fetch url fmt st).2 url' ↔
      PageFetched st url' ∨ (fmt = .rawHtml ∧ url = url') := by
  unfold PageFetched
  show (∃ f ∈ st.fetches ++ [_], _) ↔ _
  simp only [List.mem_append, List.mem_singleton, or_and_right, exists_or, exists_eq_left]
  simp only [scrapeRequest, ScrapeRequest.mk.injEq, List.cons.injEq, and_true]
  rw [and_comm (a := url = url')]

/-- Reading a page fetches it, now or before. -/
theorem fetchPage_pageFetched (url : PyStr)
    (cached : ∀ url, st.pageCache url ≠ none → PageFetched st url) :
    (∀ url', PageFetched (p.fetchPage url st).2 url' ↔ PageFetched st url' ∨ url = url') ∧
    ∀ url', (p.fetchPage url st).2.pageCache url' ≠ none →
      PageFetched (p.fetchPage url st).2 url' := by
  cases hcache : st.pageCache url with
  | some page =>
    rw [fetchPage_cached hcache]
    refine ⟨?_, cached⟩
    intro url'
    constructor
    · exact .inl
    · rintro (h | rfl)
      · exact h
      · exact cached url (by simp [hcache])
  | none =>
    obtain ⟨-, fetches, gained⟩ := fetchPage_missing (p := p) hcache
    have fetched : ∀ url', PageFetched (p.fetchPage url st).2 url' ↔
        PageFetched st url' ∨ url = url' := by
      intro url'
      have same : PageFetched (p.fetchPage url st).2 url' ↔
          PageFetched (p.fetch url .rawHtml st).2 url' := by
        unfold PageFetched
        rw [fetches]
      rw [same, pageFetched_fetch_iff]
      simp
    refine ⟨fetched, ?_⟩
    intro url' hcached
    obtain ⟨answer, hanswer⟩ := Option.ne_none_iff_exists'.1 hcached
    apply (fetched url').2
    rcases gained url' answer hanswer with before | ⟨rfl, -⟩
    · exact .inl (cached url' (by simp [before]))
    · exact .inr rfl

/-- Fetching for a source the gate lets through reads its page and no other. -/
theorem Touched.pageFetched {source : Source} {st' : FirecrawlState τ}
    (h : Touched p source st st') (auth : Authorized source .retrieve p.switches)
    (cached : ∀ url, st.pageCache url ≠ none → PageFetched st url) :
    (∀ url, PageFetched st' url ↔
      PageFetched st url ∨
        ∃ read, pageFor p.sources p.switches source = some read ∧ read.urlText = url) ∧
    ∀ url, st'.pageCache url ≠ none → PageFetched st' url := by
  unfold pageFor
  cases h with
  | refused refusal => exact absurd auth refusal
  | own _ kind =>
    rw [if_neg kind]
    constructor
    · intro url
      rw [pageFetched_fetch_iff]
      simp
    · intro url hcached
      exact pageFetched_fetch_iff.2 (.inl (cached url hcached))
  | orphan _ kind none =>
    have none : parentOf p.sources p.switches source = Option.none := none
    rw [if_pos kind, none]
    exact ⟨by simp, cached⟩
  | unlinked _ kind parent found =>
    have found : parentOf p.sources p.switches source = some parent := found
    rw [if_pos kind, found]
    simpa using fetchPage_pageFetched parent.urlText cached
  | linked _ kind parent found status html link answered wellAnswered discovered =>
    have found : parentOf p.sources p.switches source = some parent := found
    rw [if_pos kind, found]
    obtain ⟨fetched, cached'⟩ := fetchPage_pageFetched (p := p) parent.urlText cached
    constructor
    · intro url
      rw [pageFetched_fetch_iff, fetched]
      simp
    · intro url hcached
      exact pageFetched_fetch_iff.2 (.inl (cached' url hcached))

theorem port_observe_state (identity : SourceIdentity) :
    (p.port.observe identity (st, none)).2.1 = (p.observe identity st).2 := by
  simp only [FirecrawlSourceProvider.port]
  rcases p.observe identity st with ⟨e | failure | o, st'⟩
  · rfl
  · rfl
  · dsimp only
    split <;> rfl

theorem PagesRead.observe {asked : List Source} {state : FirecrawlState τ × Option PyError}
    (h : PagesRead p asked state) {source : Source} (registered : source ∈ p.sources.sources)
    (auth : Authorized source .retrieve p.switches) :
    PagesRead p (asked ++ [source]) (p.port.observe source.identity state).2 := by
  obtain ⟨st, raised⟩ := state
  cases raised with
  | some e =>
    refine ⟨h.cached, ?_, ?_⟩
    · intro url hfetched
      obtain ⟨s, hs, read⟩ := h.fetched url hfetched
      exact ⟨s, List.mem_append_left _ hs, read⟩
    · intro hrunning
      cases hrunning
  | none =>
    obtain ⟨world, world', st', touched, hcall⟩ := observe_touched registered st
    have hstate : (p.port.observe source.identity (st, none)).2.1 = { st' with world := world' } :=
      (port_observe_state source.identity).trans hcall
    obtain ⟨fetched, cached⟩ := touched.pageFetched auth h.cached
    have here : ∀ url, PageFetched (p.port.observe source.identity (st, none)).2.1 url ↔
        PageFetched st url ∨
          ∃ read, pageFor p.sources p.switches source = some read ∧ read.urlText = url := by
      rw [hstate]
      exact fetched
    refine ⟨?_, ?_, ?_⟩
    · rw [hstate]
      exact cached
    · intro url hfetched
      rcases (here url).1 hfetched with hbefore | hread
      · obtain ⟨s, hs, read⟩ := h.fetched url hbefore
        exact ⟨s, List.mem_append_left _ hs, read⟩
      · exact ⟨source, by simp, hread⟩
    · intro _ s hs read hread
      apply (here _).2
      rcases List.mem_append.1 hs with hs | hs
      · exact .inl (h.complete rfl s hs read hread)
      · obtain rfl := List.mem_singleton.1 hs
        exact .inr ⟨read, hread, rfl⟩

theorem PagesRead.observeAll {asked : List Source}
    {state : FirecrawlState τ × Option PyError} (h : PagesRead p asked state)
    (sources : List Source)
    (registered : ∀ s ∈ sources, s ∈ p.sources.sources ∧ Authorized s .retrieve p.switches) :
    PagesRead p (asked ++ sources) (observeAll p.port sources state) := by
  induction sources generalizing asked state with
  | nil => simpa [PaxPivot.observeAll] using h
  | cons source rest ih =>
    obtain ⟨hmem, hauth⟩ := registered source (by simp)
    have := ih (h.observe hmem hauth) fun s hs => registered s (by simp [hs])
    rwa [List.append_assoc] at this

theorem new_pagesRead (world : τ) : PagesRead p [] (.new world, none) := by
  refine ⟨?_, ?_, ?_⟩
  · intro url hcached
    exact absurd rfl hcached
  · rintro url ⟨f, hf, -⟩
    cases hf
  · intro _ s hs
    cases hs

/-- What a run over the adapter's own registry and switches fetched, by whether the
pages it may read are wired. -/
theorem run_pages (p : FirecrawlSourceProvider τ) (world : τ) (now : Int)
    (history : List SourceObservation) :
    ∃ run st raised appended,
      runSourceChecks p.sources.sources historyRepository p.switches p.port now
          ⟨(.new world, none), history⟩ = .ok (run, ⟨(st, raised), history ++ appended⟩) ∧
        (st, raised) = observeAll p.port
          (attempted p.sources.sources firecrawlId.text p.switches) (.new world, none) ∧
        (PagesWired p.sources p.switches → InertStayInert p.sources p.switches st) ∧
        (raised = none → InertStayInert p.sources p.switches st →
          PagesWired p.sources p.switches) := by
  obtain ⟨run, ⟨⟨st, raised⟩, stored⟩, hrun⟩ := runSourceChecks_total p.sources.sources p.switches
    p.port now ⟨(.new world, none), history⟩
  obtain ⟨checks, hsources, -, sound, effects⟩ := runSourceChecks_spec hrun
  have hstate : (st, raised) = observeAll p.port
      (attempted p.sources.sources firecrawlId.text p.switches) (.new world, none) := by
    rw [← hsources]
    exact effects.provider sound
  have hhistory := effects.history
  dsimp only at hhistory
  have pagesRead := (new_pagesRead (p := p) world).observeAll
    (attempted p.sources.sources firecrawlId.text p.switches) (by
      intro s hs
      obtain ⟨hmem, hskip⟩ := List.mem_filter.1 hs
      exact ⟨hmem, (skipReason_eq_none_iff.1 (by simpa using hskip)).1⟩)
  rw [← hstate, List.nil_append] at pagesRead
  refine ⟨run, st, raised, _, by rw [hrun, hhistory], hstate, ?_, ?_⟩
  · intro wired page hpage hkind hfetched
    obtain ⟨source, hsource, read, hread, hurl⟩ := pagesRead.fetched _ hfetched
    exact wired source hsource read hread page hpage hkind hurl.symm
  · intro hrunning inert source hsource read hread page hpage hkind hurl
    apply inert page hpage hkind
    rw [hurl]
    exact pagesRead.complete hrunning source hsource read hread

end Firecrawl

/-! ## An outside that never answers -/

/-- Only failures are cached. -/
def FailuresCached {τ : Type} (st : FirecrawlState τ) : Prop :=
  ∀ url answer, st.pageCache url = some answer → ∃ failure, answer = .error failure

section Silent

variable {p : FirecrawlSourceProvider Unit}

theorem fetch_silent (silent : p.outside = silentOutside) (st : FirecrawlState Unit) (url : PyStr)
    (fmt : Format) :
    (p.fetch url fmt st).1 = .ok (.error firecrawlUnreachable) ∧
      (p.fetch url fmt st).2.pageCache = st.pageCache := by
  unfold FirecrawlSourceProvider.fetch
  rw [silent]
  exact ⟨rfl, rfl⟩

theorem fetchPage_silent (silent : p.outside = silentOutside) {st : FirecrawlState Unit}
    (h : FailuresCached st) (url : PyStr) :
    (∃ failure, (p.fetchPage url st).1 = .ok (.error failure)) ∧
      FailuresCached (p.fetchPage url st).2 := by
  cases hcache : st.pageCache url with
  | some answer =>
    rw [fetchPage_cached hcache]
    obtain ⟨failure, rfl⟩ := h url answer hcache
    exact ⟨⟨failure, rfl⟩, h⟩
  | none =>
    obtain ⟨result, -, gained⟩ := fetchPage_missing (p := p) hcache
    obtain ⟨hresult, -⟩ := fetch_silent silent st url .rawHtml
    rw [hresult] at result gained
    refine ⟨⟨firecrawlUnreachable, result⟩, ?_⟩
    intro url' answer hcached
    rcases gained url' answer hcached with before | ⟨-, hanswer⟩
    · exact h url' answer before
    · cases hanswer
      exact ⟨firecrawlUnreachable, rfl⟩

/-- Nothing is read and nothing raises. -/
theorem fetchRegistered_silent (silent : p.outside = silentOutside) (st : FirecrawlState Unit)
    (h : FailuresCached st) (source : Source) :
    (∃ failure, (p.fetchRegistered source st).1 = .ok (.error failure)) ∧
      FailuresCached (p.fetchRegistered source st).2 := by
  unfold FirecrawlSourceProvider.fetchRegistered
  split
  · exact ⟨⟨notAuthorized, rfl⟩, h⟩
  · split
    · obtain ⟨hresult, hkeeps⟩ := fetch_silent silent st source.urlText .rawHtml
      refine ⟨⟨firecrawlUnreachable, hresult⟩, ?_⟩
      intro url answer hcached
      exact h url answer (hkeeps ▸ hcached)
    · cases p.parentPage source with
      | none => exact ⟨⟨artifactParentMissing, rfl⟩, h⟩
      | some parent =>
        obtain ⟨⟨failure, hresult⟩, hcached⟩ := fetchPage_silent silent h parent.urlText
        dsimp only
        rcases hpage : p.fetchPage parent.urlText st with ⟨result, st'⟩
        rw [hpage] at hresult hcached
        obtain rfl : result = .ok (.error failure) := hresult
        exact ⟨⟨failure, rfl⟩, hcached⟩

theorem port_observe_silent (silent : p.outside = silentOutside) {st : FirecrawlState Unit}
    (h : FailuresCached st) (identity : SourceIdentity) :
    (p.port.observe identity (st, none)).2.2 = none ∧
      FailuresCached (p.port.observe identity (st, none)).2.1 := by
  have answered : ∃ failure st', p.observe identity st = (.ok (.error failure), st') ∧
      FailuresCached st' := by
    unfold FirecrawlSourceProvider.observe
    cases p.registered identity with
    | none => exact ⟨unknownSource, st, rfl, h⟩
    | some source =>
      obtain ⟨⟨failure, hresult⟩, hcached⟩ := fetchRegistered_silent silent
        { st with world := (p.outside.clock st.world).2 } h source
      dsimp only
      rcases hfetched : p.fetchRegistered source { st with world := (p.outside.clock st.world).2 }
        with ⟨result, st'⟩
      rw [hfetched] at hresult hcached
      obtain rfl : result = .ok (.error failure) := hresult
      exact ⟨failure, st', rfl, hcached⟩
  obtain ⟨failure, st', hobserve, hcached⟩ := answered
  simp only [FirecrawlSourceProvider.port, hobserve]
  exact ⟨trivial, hcached⟩

theorem observeAll_silent (silent : p.outside = silentOutside) (st : FirecrawlState Unit)
    (h : FailuresCached st) (sources : List Source) :
    (observeAll p.port sources (st, none)).2 = none := by
  induction sources generalizing st with
  | nil => rfl
  | cons source rest ih =>
    obtain ⟨hrunning, hcached⟩ := port_observe_silent silent h source.identity
    rcases hobserve : p.port.observe source.identity (st, none) with ⟨answer, st', raised⟩
    rw [hobserve] at hrunning hcached
    obtain rfl : raised = none := hrunning
    show (observeAll p.port rest (p.port.observe source.identity (st, none)).2).2 = none
    rw [hobserve]
    exact ih st' hcached

end Silent

/-- **Inert pages stay inert exactly when the pages read are wired.** For a registry
and a switch list, every terminal page that any run fetches is one the runner would
attempt, if and only if every terminal page with the URL of a page read for an
attempted source is: the source itself, or the parent of an artifact. -/
theorem inert_pages_iff (lib : PyLib) (zoneInfo : String → ZoneLookup) (sources : Registry)
    (switches : List KillSwitch) (timezones : UUID → Option String) :
    (∀ (τ : Type) (outside : Outside τ) (world : τ) (now : Int) (history : List SourceObservation),
      ∃ run st raised appended,
        runSourceChecks sources.sources historyRepository switches
            (FirecrawlSourceProvider.port ⟨lib, zoneInfo, outside, sources, switches, timezones⟩)
            now ⟨(.new world, none), history⟩ = .ok (run, ⟨(st, raised), history ++ appended⟩) ∧
          InertStayInert sources switches st) ↔
    PagesWired sources switches := by
  constructor
  · intro hruns
    obtain ⟨run, st, raised, appended, hrun, inert⟩ := hruns Unit silentOutside () 0 []
    obtain ⟨run', st', raised', appended', hrun', hstate, -, hwired⟩ := run_pages
      ⟨lib, zoneInfo, silentOutside, sources, switches, timezones⟩ () 0 []
    rw [hrun] at hrun'
    cases hrun'
    apply hwired _ inert
    have silent := observeAll_silent (p := ⟨lib, zoneInfo, silentOutside, sources, switches,
      timezones⟩) rfl (.new ()) (by intro url answer h; cases h)
      (attempted sources.sources firecrawlId.text switches)
    rw [← hstate] at silent
    exact silent
  · intro wired τ outside world now history
    obtain ⟨run, st, raised, appended, hrun, -, inert, -⟩ := run_pages
      ⟨lib, zoneInfo, outside, sources, switches, timezones⟩ world now history
    exact ⟨run, st, raised, appended, hrun, inert wired⟩

/-- An adapter over a page nothing is wired to and its artifact; Firecrawl is down. -/
def inertAdapter : FirecrawlSourceProvider Unit :=
  ⟨plainLib, fun _ => .notFound, silentOutside, pageAndArtifact none, [], fun _ => none⟩

/-- The page is fetched for the artifact, though the runner would skip it. -/
theorem inert_page_is_fetched :
    ∃ run st, runSourceChecks inertAdapter.sources.sources historyRepository [] inertAdapter.port 0
        ⟨(.new (), none), []⟩ = .ok (run, ⟨(st, none), []⟩) ∧
      terminalPage none ∈ inertAdapter.sources.sources ∧
      (terminalPage none).kind = .terminalPage ∧ (terminalPage none).adapterId = none ∧
      PageFetched st (terminalPage none).urlText ∧
      skipReason (terminalPage none) firecrawlId.text [] = some identityMismatch :=
  ⟨_, _, rfl, List.mem_cons_self, rfl, rfl, ⟨_, List.mem_cons_self, rfl⟩, by decide⟩

end PaxPivot
