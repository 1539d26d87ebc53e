import PaxPivot.Infrastructure.Providers.Firecrawl

/-!
# What the Firecrawl adapter may fetch

Every call of `_fetch_registered` touches the state in one of five ways
(`Touched`). What the adapter may fetch next depends on the answers so far: the
page of a registered source, or a link that such a page gave for an artifact. That
every fetch was permitted when it was made is kept by each way, and so by any
calls in any order.
-/

namespace PaxPivot

open FirecrawlSourceProvider (fetch fetchPage fetchRegistered observe fetchDocument)

variable {τ : Type} {p : FirecrawlSourceProvider τ} {st : FirecrawlState τ}

/-! ## The page of a terminal -/

theorem fetchPage_cached {url : PyStr} {answer : Result Page}
    (hcache : st.pageCache url = some answer) : p.fetchPage url st = (.ok answer, st) := by
  unfold fetchPage
  rw [hcache]

/-- A page that is not cached is fetched, and nothing but its answer is cached. -/
theorem fetchPage_missing {url : PyStr} (hcache : st.pageCache url = none) :
    (p.fetchPage url st).1 = (p.fetch url .rawHtml st).1 ∧
      (p.fetchPage url st).2.fetches = (p.fetch url .rawHtml st).2.fetches ∧
      ∀ url' answer, (p.fetchPage url st).2.pageCache url' = some answer →
        st.pageCache url' = some answer ∨
          url' = url ∧ (p.fetch url .rawHtml st).1 = .ok answer := by
  have keeps : (p.fetch url .rawHtml st).2.pageCache = st.pageCache := rfl
  unfold fetchPage
  rw [hcache]
  rcases hfetch : p.fetch url .rawHtml st with ⟨result, st'⟩
  rw [hfetch] at keeps
  cases result with
  | error e =>
    refine ⟨rfl, rfl, ?_⟩
    intro url' answer (hcached : st'.pageCache url' = some answer)
    exact .inl (keeps ▸ hcached)
  | ok page =>
    refine ⟨rfl, rfl, ?_⟩
    intro url' answer (hcached : Function.update st'.pageCache url (some page) url' = some answer)
    by_cases hurl : url' = url
    · subst hurl
      rw [Function.update_self, Option.some_inj] at hcached
      exact .inr ⟨rfl, congrArg Except.ok hcached⟩
    · rw [Function.update_of_ne hurl] at hcached
      exact .inl (keeps ▸ hcached)

/-! ## One registered source -/

/-- The five ways in which fetching for `source` leaves the state. -/
inductive Touched (p : FirecrawlSourceProvider τ) (source : Source) (st : FirecrawlState τ) :
    FirecrawlState τ → Prop where
  | refused (refusal : ¬ Authorized source .retrieve p.switches) : Touched p source st st
  | own (auth : Authorized source .retrieve p.switches) (kind : source.kind ≠ .scheduleArtifact) :
      Touched p source st (p.fetch source.urlText .rawHtml st).2
  | orphan (auth : Authorized source .retrieve p.switches) (kind : source.kind = .scheduleArtifact)
      (none : p.parentPage source = none) : Touched p source st st
  | unlinked (auth : Authorized source .retrieve p.switches)
      (kind : source.kind = .scheduleArtifact) (parent : Source)
      (found : p.parentPage source = some parent) :
      Touched p source st (p.fetchPage parent.urlText st).2
  | linked (auth : Authorized source .retrieve p.switches)
      (kind : source.kind = .scheduleArtifact) (parent : Source)
      (found : p.parentPage source = some parent) (status : Int) (html link : PyStr)
      (answered : (p.fetchPage parent.urlText st).1 = .ok (.ok ⟨status, .str html⟩))
      (wellAnswered : Page.ok status = true)
      (discovered : discoverArtifact p.lib html source.urlText parent.urlText = .ok (some link)) :
      Touched p source st (p.fetch link .markdown (p.fetchPage parent.urlText st).2).2

/-- **Everything that fetching for a registered source can do.** -/
theorem fetchRegistered_touched (source : Source) (st : FirecrawlState τ) :
    Touched p source st (p.fetchRegistered source st).2 := by
  unfold fetchRegistered
  by_cases auth : Authorized source .retrieve p.switches
  · rw [if_neg (not_not.2 auth)]
    by_cases kind : source.kind = .scheduleArtifact
    · rw [if_neg (not_not.2 kind)]
      cases found : p.parentPage source with
      | none => exact .orphan auth kind found
      | some parent =>
        have unlinked : Touched p source st _ := .unlinked auth kind parent found
        dsimp only
        split
        · rename_i page st' answered
          obtain rfl : (p.fetchPage parent.urlText st).2 = st' := congrArg Prod.snd answered
          unfold FirecrawlSourceProvider.fetchLinked
          split
          · exact unlinked
          · rename_i html htext
            cases discovered : discoverArtifact p.lib html source.urlText parent.urlText with
            | error e => exact unlinked
            | ok link =>
              cases link with
              | none => exact unlinked
              | some link =>
                obtain ⟨status, document⟩ := page
                by_cases wellAnswered : Page.ok status = true
                · rw [if_pos wellAnswered] at htext
                  cases document with
                  | str text =>
                    cases htext
                    exact .linked auth kind parent found status html link
                      (congrArg Prod.fst answered) wellAnswered discovered
                  | _ => cases htext
                · rw [if_neg wellAnswered] at htext
                  cases htext
        · exact unlinked
    · rw [if_pos kind]
      exact .own auth kind
  · rw [if_pos auth]
    exact .refused auth

/-- The parent page of an artifact. -/
theorem parentPage_some {source parent : Source} (h : p.parentPage source = some parent) :
    parent ∈ p.sources.sources ∧ parent.kind = .terminalPage ∧
      parent.terminalId = source.terminalId ∧ Authorized parent .retrieve p.switches := by
  have hmem := List.mem_of_find?_eq_some h
  have hpage := List.find?_some h
  simp only [decide_eq_true_eq] at hpage
  exact ⟨hmem, hpage⟩

theorem registered_eq_some_iff {identity : SourceIdentity} {source : Source} :
    p.registered identity = some source ↔
      source ∈ p.sources.sources ∧ source.identity = identity := by
  unfold FirecrawlSourceProvider.registered
  rw [Option.filter_eq_some_iff, DistinctKeys.find?_eq_some_iff p.sources.distinct,
    decide_eq_true_eq]
  constructor
  · rintro ⟨⟨hmem, -⟩, hidentity⟩
    exact ⟨hmem, hidentity⟩
  · rintro ⟨hmem, rfl⟩
    exact ⟨⟨hmem, rfl⟩, rfl⟩

/-! ## Confinement -/

/-- The earlier fetches of which one answered with `html`, as the page at `url`. -/
def Answered (fetches : List Fetch) (url : PyStr) (page : Page) : Prop :=
  ∃ f ∈ fetches, f.request = scrapeRequest url .rawHtml ∧
    decodeAnswer .rawHtml f.answer = .ok (.ok page)

/-- What may be asked after `before`. -/
inductive Permitted (p : FirecrawlSourceProvider τ) (before : List Fetch) : ScrapeRequest → Prop
    where
  | own (source : Source) (registered : source ∈ p.sources.sources)
      (kind : source.kind ≠ .scheduleArtifact) (auth : Authorized source .retrieve p.switches) :
      Permitted p before (scrapeRequest source.urlText .rawHtml)
  | link (artifact page : Source) (registered : artifact ∈ p.sources.sources)
      (kind : artifact.kind = .scheduleArtifact) (auth : Authorized artifact .retrieve p.switches)
      (pageRegistered : page ∈ p.sources.sources) (pageKind : page.kind = .terminalPage)
      (pageAuth : Authorized page .retrieve p.switches)
      (sameTerminal : page.terminalId = artifact.terminalId) (status : Int) (html raw link : PyStr)
      (answered : Answered before page.urlText ⟨status, .str html⟩)
      (wellAnswered : Page.ok status = true) (onPage : raw ∈ hrefs html)
      (resolved : resolve p.lib page.urlText raw = some link)
      (inside : Inside p.lib artifact.urlText link) :
      Permitted p before (scrapeRequest link .markdown)

/-- Every fetch was permitted when it was made, and what is cached was answered. -/
structure Confined (p : FirecrawlSourceProvider τ) (st : FirecrawlState τ) : Prop where
  permitted : ∀ before f after, st.fetches = before ++ f :: after → Permitted p before f.request
  cached : ∀ url page, st.pageCache url = some (.ok page) → Answered st.fetches url page

theorem Answered.append {fetches : List Fetch} {url : PyStr} {page : Page}
    (h : Answered fetches url page) (f : Fetch) : Answered (fetches ++ [f]) url page := by
  obtain ⟨g, hg, answered⟩ := h
  exact ⟨g, List.mem_append_left _ hg, answered⟩

/-- The clock and `uuid4` change nothing that confinement is about. -/
theorem Confined.world (h : Confined p st) (world : τ) : Confined p { st with world } :=
  ⟨h.permitted, h.cached⟩

theorem fetch_confined {url : PyStr} {fmt : Format} (h : Confined p st)
    (permitted : Permitted p st.fetches (scrapeRequest url fmt)) :
    Confined p (p.fetch url fmt st).2 := by
  constructor
  · intro before f after hsplit
    have hsplit : st.fetches ++ [_] = before ++ f :: after := hsplit
    rcases List.eq_nil_or_concat after with rfl | ⟨after', last, rfl⟩
    · obtain ⟨rfl, hlast⟩ := List.append_inj' hsplit rfl
      cases hlast
      exact permitted
    · rw [List.concat_eq_append, ← List.cons_append, ← List.append_assoc] at hsplit
      obtain ⟨hbefore, -⟩ := List.append_inj' hsplit rfl
      exact h.permitted before f after' hbefore
  · intro url' page hcached
    exact (h.cached url' page hcached).append _

/-- A page that comes back, cached or not, was answered. -/
theorem fetchPage_confined {url : PyStr} (h : Confined p st)
    (permitted : Permitted p st.fetches (scrapeRequest url .rawHtml)) :
    Confined p (p.fetchPage url st).2 ∧
      ∀ page, (p.fetchPage url st).1 = .ok (.ok page) →
        Answered (p.fetchPage url st).2.fetches url page := by
  cases hcache : st.pageCache url with
  | some cached =>
    rw [fetchPage_cached hcache]
    refine ⟨h, ?_⟩
    intro page hpage
    cases hpage
    exact h.cached url page hcache
  | none =>
    obtain ⟨result, fetches, gained⟩ := fetchPage_missing (p := p) hcache
    have confined := fetch_confined h permitted
    have answered : ∀ page, (p.fetch url .rawHtml st).1 = .ok (.ok page) →
        Answered (p.fetchPage url st).2.fetches url page := by
      intro page hpage
      rw [fetches]
      exact ⟨_, List.mem_append_right _ (List.mem_singleton_self _), rfl, hpage⟩
    refine ⟨⟨?_, ?_⟩, ?_⟩
    · rw [fetches]
      exact confined.permitted
    · intro url' page hcached
      rcases gained url' _ hcached with before | ⟨rfl, hpage⟩
      · rw [fetches]
        exact confined.cached url' page before
      · exact answered page hpage
    · rw [result]
      exact answered

theorem Touched.confined {source : Source} {st' : FirecrawlState τ}
    (h : Touched p source st st') (registered : source ∈ p.sources.sources)
    (confined : Confined p st) : Confined p st' := by
  have parentPermitted : ∀ {parent}, p.parentPage source = some parent →
      Permitted p st.fetches (scrapeRequest parent.urlText .rawHtml) := by
    intro parent found
    obtain ⟨hmem, hkind, -, hauth⟩ := parentPage_some found
    exact .own parent hmem (by simp [hkind]) hauth
  cases h with
  | refused refusal => exact confined
  | own auth kind => exact fetch_confined confined (.own source registered kind auth)
  | orphan auth kind none => exact confined
  | unlinked auth kind parent found => exact (fetchPage_confined confined (parentPermitted found)).1
  | linked auth kind parent found status html link answered wellAnswered discovered =>
    obtain ⟨afterPage, hanswered⟩ := fetchPage_confined confined (parentPermitted found)
    obtain ⟨hmem, hkind, hterminal, hauth⟩ := parentPage_some found
    obtain ⟨raw, onPage, resolved, inside⟩ := discoverFrom_some discovered
    apply fetch_confined afterPage
    exact .link source parent registered kind auth hmem hkind hauth hterminal status html raw link
      (hanswered _ answered) wellAnswered onPage resolved inside

/-! ## Any calls in any order -/

/-- A call of a public method. -/
inductive Call where
  | observe (identity : SourceIdentity)
  | fetchDocument (identity : SourceIdentity)

def Call.identity : Call → SourceIdentity
  | observe identity | fetchDocument identity => identity

/-- The state after a call, whatever it answered or raised. -/
def FirecrawlSourceProvider.call (p : FirecrawlSourceProvider τ) (st : FirecrawlState τ) :
    Call → FirecrawlState τ
  | .observe identity => (p.observe identity st).2
  | .fetchDocument identity => (p.fetchDocument identity st).2

def FirecrawlSourceProvider.calls (p : FirecrawlSourceProvider τ) (cs : List Call)
    (st : FirecrawlState τ) : FirecrawlState τ :=
  cs.foldl p.call st

/-- Up to the state of the outside, a call does nothing or fetches for the source it names. -/
theorem call_touched (c : Call) (st : FirecrawlState τ) :
    (p.registered c.identity = none ∧ p.call st c = st) ∨
    ∃ source world world' st', p.registered c.identity = some source ∧
      Touched p source { st with world } st' ∧ p.call st c = { st' with world := world' } := by
  cases hregistered : p.registered c.identity with
  | none =>
    left
    cases c with
    | observe identity =>
      show _ ∧ (p.observe identity st).2 = st
      simp only [Call.identity] at hregistered
      simp [observe, hregistered]
    | fetchDocument identity =>
      show _ ∧ (p.fetchDocument identity st).2 = st
      simp only [Call.identity] at hregistered
      simp [fetchDocument, hregistered]
  | some source =>
    right
    cases c with
    | observe identity =>
      simp only [Call.identity] at hregistered
      have touched := fetchRegistered_touched (p := p) source
        { st with world := (p.outside.clock st.world).2 }
      rcases hfetched : p.fetchRegistered source { st with world := (p.outside.clock st.world).2 }
        with ⟨fetched, st'⟩
      rw [hfetched] at touched
      have hcall : ∃ world', (p.observe identity st).2 = { st' with world := world' } := by
        simp only [observe, hregistered, hfetched]
        rcases fetched with e | failure | page
        · exact ⟨st'.world, rfl⟩
        · exact ⟨st'.world, rfl⟩
        · exact ⟨(p.outside.uuid4 st'.world).2, rfl⟩
      obtain ⟨world', hcall⟩ := hcall
      exact ⟨source, _, world', st', rfl, touched, hcall⟩
    | fetchDocument identity =>
      simp only [Call.identity] at hregistered
      have touched := fetchRegistered_touched (p := p) source st
      refine ⟨source, st.world, (p.fetchRegistered source st).2.world, _, rfl, touched, ?_⟩
      show (p.fetchDocument identity st).2 = _
      simp [fetchDocument, hregistered]

/-- Observing a registered source fetches for it, up to the state of the outside. -/
theorem observe_touched {source : Source} (registered : source ∈ p.sources.sources)
    (st : FirecrawlState τ) :
    ∃ world world' st', Touched p source { st with world } st' ∧
      (p.observe source.identity st).2 = { st' with world := world' } := by
  have hregistered := registered_eq_some_iff.2 ⟨registered, rfl⟩
  rcases call_touched (p := p) (.observe source.identity) st with ⟨hnone, -⟩ |
    ⟨source', world, world', st', hsource, touched, hcall⟩
  · rw [Call.identity, hregistered] at hnone
    cases hnone
  · rw [Call.identity, hregistered] at hsource
    cases hsource
    exact ⟨world, world', st', touched, hcall⟩

theorem call_confined {c : Call} (h : Confined p st) : Confined p (p.call st c) := by
  rcases call_touched (p := p) c st with ⟨-, hcall⟩ | ⟨source, world, world', st', hregistered,
    touched, hcall⟩
  · rwa [hcall]
  · rw [hcall]
    obtain ⟨registered, -⟩ := registered_eq_some_iff.1 hregistered
    exact (touched.confined registered (h.world world)).world world'

theorem calls_confined (cs : List Call) (h : Confined p st) : Confined p (p.calls cs st) := by
  induction cs generalizing st with
  | nil => exact h
  | cons c rest ih => exact ih (call_confined h)

theorem new_confined (world : τ) : Confined p (.new world) := by
  constructor
  · intro before f after hsplit
    exact absurd hsplit (by simp [FirecrawlState.new])
  · intro url page hcached
    cases hcached

/-- **Fetch confinement.** Whatever the outside answers, after any calls with any
identities every fetch was the page of a registered source the gate lets through, or
a link found on such a page for an artifact of its terminal, to a file right inside
the artifact's folder. A call that names no registered identity, or a source the
gate refuses, fetches nothing. -/
theorem fetches_confined (p : FirecrawlSourceProvider τ) (world : τ) (cs : List Call) :
    (∀ before f after, (p.calls cs (.new world)).fetches = before ++ f :: after →
      Permitted p before f.request) ∧
    ∀ c : Call, (∀ source ∈ p.sources.sources, source.identity = c.identity →
        ¬ Authorized source .retrieve p.switches) →
      (p.call (p.calls cs (.new world)) c).fetches = (p.calls cs (.new world)).fetches := by
  refine ⟨(calls_confined cs (new_confined world)).permitted, ?_⟩
  intro c hrefused
  rcases call_touched (p := p) c (p.calls cs (.new world)) with ⟨-, hcall⟩ |
    ⟨source, world', world'', st', hregistered, touched, hcall⟩
  · rw [hcall]
  · rw [hcall]
    obtain ⟨registered, hidentity⟩ := registered_eq_some_iff.1 hregistered
    have refusal := hrefused source registered hidentity
    cases touched with
    | refused _ => rfl
    | own auth _ => exact absurd auth refusal
    | orphan auth _ _ => exact absurd auth refusal
    | unlinked auth _ _ _ => exact absurd auth refusal
    | linked auth _ _ _ _ _ _ _ _ _ => exact absurd auth refusal

end PaxPivot
