import PaxPivot.Application.KillSwitches
import PaxPivot.Infrastructure.Providers.FetchConfinement

/-!
# How often a page is fetched

The cache is filled and consulted for an artifact's parent only; a page observed for
itself is fetched past it. So a page costs one fetch a run exactly as long as no
artifact is read through it.
-/

namespace PaxPivot

open FirecrawlSourceProvider (fetch fetchPage parentPage)

variable {τ : Type} {p : FirecrawlSourceProvider τ} {u : PyStr}

/-- How often Firecrawl was asked for `u`. -/
def asks (st : FirecrawlState τ) (u : PyStr) : Nat :=
  st.fetches.countP fun f => f.request.url = u

theorem asks_fetch (st : FirecrawlState τ) (url : PyStr) (fmt : Format) :
    asks (p.fetch url fmt st).2 u = asks st u + if url = u then 1 else 0 := by
  show List.countP _ (st.fetches ++ [_]) = _
  rw [List.countP_append, List.countP_singleton]
  unfold asks scrapeRequest
  by_cases h : url = u <;> simp [h]

/-- The cached page of `url` is asked for when it is not there yet. -/
theorem asks_fetchPage (st : FirecrawlState τ) (url : PyStr) :
    asks (p.fetchPage url st).2 u =
        asks st u + (if url = u ∧ st.pageCache u = none then 1 else 0) ∧
      ((p.fetchPage url st).2.pageCache u ≠ none → st.pageCache u ≠ none ∨ url = u) := by
  cases hcache : st.pageCache url with
  | some page =>
    rw [fetchPage_cached hcache]
    have : ¬ (url = u ∧ st.pageCache u = none) := by
      rintro ⟨rfl, hnone⟩
      rw [hcache] at hnone
      cases hnone
    rw [if_neg this]
    exact ⟨rfl, .inl⟩
  | none =>
    obtain ⟨-, fetches, gained⟩ := fetchPage_missing (p := p) hcache
    have counted := asks_fetch (p := p) (u := u) st url .rawHtml
    have hcount : (if url = u then 1 else 0) =
        if url = u ∧ st.pageCache u = none then 1 else 0 := by
      by_cases hurl : url = u
      · subst hurl
        simp [hcache]
      · simp [hurl]
    rw [hcount] at counted
    constructor
    · unfold asks at counted ⊢
      rw [fetches]
      exact counted
    · intro hcached
      obtain ⟨answer, hanswer⟩ := Option.ne_none_iff_exists'.1 hcached
      rcases gained u answer hanswer with before | ⟨hurl, -⟩
      · exact .inl (by simp [before])
      · exact .inr hurl.symm

/-- `source` is observed by fetching `u` past the cache. -/
def OwnPage (p : FirecrawlSourceProvider τ) (source : Source) (u : PyStr) : Prop :=
  Authorized source .retrieve p.switches ∧ source.kind ≠ .scheduleArtifact ∧ source.urlText = u

/-- `source` is observed through the cached page at `u`. -/
def ReadThrough (p : FirecrawlSourceProvider τ) (source : Source) (u : PyStr) : Prop :=
  Authorized source .retrieve p.switches ∧ source.kind = .scheduleArtifact ∧
    ∃ parent, p.parentPage source = some parent ∧ parent.urlText = u

/-- What fetching for a source adds to the count of a URL: an own page is one more,
and so is a page that is read through a cache without it. -/
structure Counted (p : FirecrawlSourceProvider τ) (source : Source) (u : PyStr)
    (st st' : FirecrawlState τ) : Prop where
  grows : asks st u ≤ asks st' u
  own : OwnPage p source u → asks st' u = asks st u + 1 ∧ st'.pageCache u = st.pageCache u
  through : st.pageCache u = none → ReadThrough p source u ∨ st'.pageCache u ≠ none →
    asks st u + 1 ≤ asks st' u

/-- Reading the parent of an artifact counts as `Counted` says. -/
theorem fetchPage_counted (st : FirecrawlState τ) {source parent : Source}
    (kind : source.kind = .scheduleArtifact) (found : p.parentPage source = some parent) :
    Counted p source u st (p.fetchPage parent.urlText st).2 := by
  obtain ⟨counted, cached⟩ := asks_fetchPage (p := p) (u := u) st parent.urlText
  refine ⟨?_, ?_, ?_⟩
  · omega
  · rintro ⟨-, hkind, -⟩
    exact absurd kind hkind
  · intro hnone hread
    have hurl : parent.urlText = u := by
      rcases hread with ⟨-, -, parent', found', hurl⟩ | hcached
      · rw [found] at found'
        cases found'
        exact hurl
      · exact (cached hcached).resolve_left (by simp [hnone])
    rw [if_pos ⟨hurl, hnone⟩] at counted
    omega

theorem Touched.counted {source : Source} {st st' : FirecrawlState τ}
    (h : Touched p source st st') (u : PyStr) : Counted p source u st st' := by
  cases h with
  | refused refusal =>
    refine ⟨le_rfl, fun own => absurd own.1 refusal, ?_⟩
    rintro hnone (through | hcached)
    · exact absurd through.1 refusal
    · exact absurd hnone hcached
  | own auth kind =>
    have counted := asks_fetch (p := p) (u := u) st source.urlText .rawHtml
    refine ⟨by omega, ?_, ?_⟩
    · rintro ⟨-, -, hurl⟩
      rw [if_pos hurl] at counted
      exact ⟨counted, rfl⟩
    · rintro hnone (through | hcached)
      · exact absurd through.2.1 kind
      · exact absurd hnone hcached
  | orphan auth kind none =>
    refine ⟨le_rfl, fun own => absurd kind own.2.1, ?_⟩
    rintro hnone (⟨-, -, parent, found, -⟩ | hcached)
    · rw [none] at found
      cases found
    · exact absurd hnone hcached
  | unlinked auth kind parent found => exact fetchPage_counted st kind found
  | linked auth kind parent found status html link answered wellAnswered discovered =>
    have page := fetchPage_counted (u := u) st kind found
    have counted := asks_fetch (p := p) (u := u) (p.fetchPage parent.urlText st).2 link
      .markdown
    refine ⟨?_, fun own => absurd kind own.2.1, ?_⟩
    · have := page.grows
      omega
    · intro hnone hread
      have := page.through hnone hread
      omega

/-! ## Observing each source once -/

/-- The state after the sources were observed in turn. -/
def FirecrawlSourceProvider.observed (p : FirecrawlSourceProvider τ) (order : List Source)
    (st : FirecrawlState τ) : FirecrawlState τ :=
  p.calls (order.map fun s => .observe s.identity) st

/-- Observing a registered source counts as fetching for it does. -/
theorem observe_counted (st : FirecrawlState τ) {source : Source}
    (registered : source ∈ p.sources.sources) (u : PyStr) :
    Counted p source u st (p.observe source.identity st).2 := by
  obtain ⟨world, world', st', touched, hstate⟩ := observe_touched registered st
  rw [hstate]
  have counted := touched.counted u
  exact ⟨counted.grows, counted.own, counted.through⟩

/-- What a page will have cost at the end, counting the observations still to come: one for itself
and, while it is not cached, one for an artifact read through it. -/
theorem Counted.still_to_come {source page artifact : Source} {st st' : FirecrawlState τ}
    (counted : Counted p source u st st') (own : OwnPage p page u)
    (through : ReadThrough p artifact u) {rest : List Source} (hnotin : source ∉ rest) :
    asks st u + (if page ∈ source :: rest then 1 else 0) +
        (if artifact ∈ source :: rest ∧ st.pageCache u = none then 1 else 0) ≤
      asks st' u + (if page ∈ rest then 1 else 0) +
        (if artifact ∈ rest ∧ st'.pageCache u = none then 1 else 0) := by
  have differ : page ≠ artifact := by
    rintro rfl
    exact own.2.1 through.2.1
  by_cases hpage : source = page
  · subst hpage
    obtain ⟨hasks, hcache⟩ := counted.own own
    rw [hasks, hcache]
    simp only [List.mem_cons, true_or, ↓reduceIte, if_neg hnotin, differ.symm, false_or]
    omega
  · have hpage' : page ∈ source :: rest ↔ page ∈ rest := by simp [Ne.symm hpage]
    simp only [hpage']
    have hgrows := counted.grows
    by_cases hnone : st.pageCache u = none
    · by_cases hread : ReadThrough p source u ∨ st'.pageCache u ≠ none
      · -- The page was not there: one more, whether or not another artifact is still to come.
        have := counted.through hnone hread
        split_ifs <;> omega
      · have hartifact : artifact ∈ source :: rest ↔ artifact ∈ rest := by
          have : artifact ≠ source := by
            rintro rfl
            exact hread (.inl through)
          simp [this]
        have hcache : st'.pageCache u = none := by
          by_contra hcached
          exact hread (.inr hcached)
        simp only [hartifact, hnone, hcache]
        omega
    · simp only [hnone, and_false, ↓reduceIte]
      omega

/-- Once an own page and an artifact read through it have been observed, in whatever
order, the page was asked for twice. -/
theorem asks_observed (st : FirecrawlState τ) {page artifact : Source} (own : OwnPage p page u)
    (through : ReadThrough p artifact u) (order : List Source)
    (registered : ∀ s ∈ order, s ∈ p.sources.sources) (distinct : order.Nodup) :
    asks st u + (if page ∈ order then 1 else 0) +
        (if artifact ∈ order ∧ st.pageCache u = none then 1 else 0) ≤
      asks (p.observed order st) u := by
  induction order generalizing st with
  | nil => simp [FirecrawlSourceProvider.observed, FirecrawlSourceProvider.calls]
  | cons source rest ih =>
    obtain ⟨hnotin, hrest⟩ := List.nodup_cons.1 distinct
    have counted := observe_counted st (registered source List.mem_cons_self) u
    have later := ih (p.observe source.identity st).2
      (fun s hs => registered s (List.mem_cons_of_mem source hs)) hrest
    exact (counted.still_to_come own through hnotin).trans later

/-- Observing a source that reads no other page asks for its own page only. -/
theorem asks_observe_le (st : FirecrawlState τ) {source : Source}
    (registered : source ∈ p.sources.sources)
    (unread : source.kind = .scheduleArtifact → Authorized source .retrieve p.switches →
      p.parentPage source = none) :
    asks (p.observe source.identity st).2 u ≤ asks st u +
      if (decide (source.kind ≠ .scheduleArtifact ∧ source.urlText = u)) = true then 1 else 0 := by
  obtain ⟨world, world', st', touched, hstate⟩ := observe_touched registered st
  rw [hstate]
  have never : ∀ {parent}, Authorized source .retrieve p.switches →
      source.kind = .scheduleArtifact → p.parentPage source ≠ some parent := by
    intro parent auth kind found
    rw [unread kind auth] at found
    cases found
  cases touched with
  | refused refusal => exact Nat.le_add_right _ _
  | own auth kind =>
    refine (asks_fetch (p := p) _ source.urlText .rawHtml).le.trans ?_
    simp only [ne_eq, kind, not_false_eq_true, true_and, decide_eq_true_eq]
    exact le_rfl
  | orphan auth kind none => exact Nat.le_add_right _ _
  | unlinked auth kind parent found => exact absurd found (never auth kind)
  | linked auth kind parent found _ _ _ _ _ _ => exact absurd found (never auth kind)

/-- Without artifacts to read, only own pages are asked for. -/
theorem asks_observed_le (st : FirecrawlState τ) (order : List Source)
    (registered : ∀ s ∈ order, s ∈ p.sources.sources)
    (unread : ∀ s ∈ order, s.kind = .scheduleArtifact → Authorized s .retrieve p.switches →
      p.parentPage s = none) :
    asks (p.observed order st) u ≤
      asks st u + order.countP fun s => s.kind ≠ .scheduleArtifact ∧ s.urlText = u := by
  induction order generalizing st with
  | nil => simp [FirecrawlSourceProvider.observed, FirecrawlSourceProvider.calls]
  | cons source rest ih =>
    have later := ih (p.observe source.identity st).2
      (fun s hs => registered s (List.mem_cons_of_mem source hs))
      (fun s hs => unread s (List.mem_cons_of_mem source hs))
    have hcons : p.observed (source :: rest) st =
        p.observed rest (p.observe source.identity st).2 := rfl
    have first := asks_observe_le (u := u) st (registered source List.mem_cons_self)
      (unread source List.mem_cons_self)
    rw [hcons, List.countP_cons]
    omega

/-- Every terminal page is asked for at most once. -/
def PagesFetchedOnce (p : FirecrawlSourceProvider τ) (st : FirecrawlState τ) : Prop :=
  ∀ page ∈ p.sources.sources, page.kind = .terminalPage → asks st page.urlText ≤ 1

/-- **A terminal page costs one fetch exactly when no artifact is read through one.**
Over terminal pages with distinct URLs and schedule artifacts, each observed once in
any order by a new adapter. -/
theorem pages_fetched_once_iff (p : FirecrawlSourceProvider τ) (world : τ)
    (kinds : ∀ s ∈ p.sources.sources, s.kind = .terminalPage ∨ s.kind = .scheduleArtifact)
    (distinct : ((p.sources.sources.filter (·.kind = .terminalPage)).map Source.urlText).Nodup)
    (order : List Source) (once : order.Perm p.sources.sources) :
    PagesFetchedOnce p (p.observed order (.new world)) ↔
      ∀ artifact ∈ p.sources.sources, artifact.kind = .scheduleArtifact →
        Authorized artifact .retrieve p.switches → p.parentPage artifact = none := by
  have nodup : order.Nodup := once.nodup_iff.2 p.sources.distinct.of_map
  constructor
  · intro fetchedOnce artifact hmem hkind hauth
    by_contra hparent
    obtain ⟨page, found⟩ := Option.ne_none_iff_exists'.1 hparent
    obtain ⟨hpage, hpageKind, -, hpageAuth⟩ := parentPage_some found
    have twice := asks_observed (.new world)
      (⟨hpageAuth, by simp [hpageKind], rfl⟩ : OwnPage p page page.urlText)
      (⟨hauth, hkind, page, found, rfl⟩ : ReadThrough p artifact page.urlText)
      order (fun s hs => once.mem_iff.1 hs) nodup
    have atMostOnce := fetchedOnce page hpage hpageKind
    rw [if_pos (once.mem_iff.2 hpage), if_pos ⟨once.mem_iff.2 hmem, rfl⟩] at twice
    omega
  · intro unread page hpage hkind
    have counted := asks_observed_le (u := page.urlText) (.new world) order
      (fun s hs => once.mem_iff.1 hs) (fun s hs => unread s (once.mem_iff.1 hs))
    rw [once.countP_eq] at counted
    have single : p.sources.sources.countP
        (fun s => s.kind ≠ .scheduleArtifact ∧ s.urlText = page.urlText) ≤ 1 := by
      have hcount := List.nodup_iff_count_le_one.1 distinct page.urlText
      rw [List.count, List.countP_map, List.countP_filter] at hcount
      refine le_trans ?_ hcount
      apply List.countP_mono_left
      intro s hs hown
      rcases kinds s hs with hpageKind | hartifact
      · simp only [Bool.decide_and, Bool.and_eq_true, decide_eq_true_eq] at hown
        simp [hpageKind, hown.2]
      · simp [hartifact] at hown
    have fresh : asks (.new world : FirecrawlState τ) page.urlText = 0 := rfl
    omega

/-- An adapter over a wired page and its artifact; Firecrawl is down. -/
def pairAdapter (switches : List KillSwitch) : FirecrawlSourceProvider Unit :=
  ⟨plainLib, fun _ => .notFound, silentOutside, pageAndArtifact (some firecrawlId), switches,
    fun _ => none⟩

theorem pairAdapter_kinds (switches : List KillSwitch) :
    ∀ s ∈ (pairAdapter switches).sources.sources,
      s.kind = .terminalPage ∨ s.kind = .scheduleArtifact := by
  intro s hs
  rcases List.mem_pair.1 hs with rfl | rfl
  · exact .inl rfl
  · exact .inr rfl

/-- The switch that stops the artifact. -/
def artifactSwitch : KillSwitch := fixtureSwitch (.lit "00000000-0000-0000-0000-000000000002")

/-- With the artifact switched off its page costs one fetch. -/
theorem switched_artifact_leaves_one_fetch :
    PagesFetchedOnce (pairAdapter [artifactSwitch])
      ((pairAdapter [artifactSwitch]).observed
        [scheduleArtifact, terminalPage (some firecrawlId)] (.new ())) := by
  refine (pages_fetched_once_iff _ () (pairAdapter_kinds _) (List.nodup_singleton _) _
    (List.Perm.swap _ _ _)).2 ?_
  intro artifact hmem hkind hauth
  rcases List.mem_pair.1 hmem with rfl | rfl
  · cases hkind
  · exact absurd hauth (by decide)

/-- A page and its artifact, both observed: the page is asked for twice, in either order. -/
theorem page_is_fetched_twice :
    asks ((pairAdapter []).observed [terminalPage (some firecrawlId), scheduleArtifact] (.new ()))
        (terminalPage (some firecrawlId)).urlText = 2 ∧
      asks ((pairAdapter []).observed [scheduleArtifact, terminalPage (some firecrawlId)] (.new ()))
        (terminalPage (some firecrawlId)).urlText = 2 :=
  ⟨rfl, rfl⟩

end PaxPivot
