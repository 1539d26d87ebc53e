import Mathlib
import PaxPivot.Infrastructure.Providers.DecodedAnswers

/-!
# From any answers to a result

One call of `observe` reads one answer, or two for an artifact whose terminal page
is not cached. It is to return a `Result` for whatever they hold, and a `Failure`
when one of them is of no use.
-/

namespace PaxPivot

open PyStr (ofString)

variable {τ : Type} (p : FirecrawlSourceProvider τ)

/-! ## What a call is to return -/

/-- The answers between two states. -/
def newAnswers (st st' : FirecrawlState τ) : List HttpAnswer :=
  (st'.fetches.drop st.fetches.length).map (·.answer)

/-- A result whatever the answers, and no observation from an unusable one. -/
structure ReturnsResult (answers : List HttpAnswer)
    (outcome : Except PyError (Result ObservationFields)) : Prop where
  returns : ∃ result, outcome = .ok result
  unusable : ∀ a ∈ answers, ¬ Usable a → ∃ failure, outcome = .ok (.error failure)

/-! ## When it does -/

/-- What the outside answers to a fetch. -/
def FirecrawlSourceProvider.answerTo (url : PyStr) (fmt : Format) (world : τ) : HttpAnswer :=
  (p.outside.scrape (scrapeRequest url fmt) world).1

/-- The last answer of a call, after the `earlier` ones. -/
structure SoundFetch (source : Source) (earlier : List HttpAnswer) (url : PyStr) (fmt : Format)
    (world : τ) : Prop where
  answer : SoundAnswer (p.answerTo url fmt world)
  page : ∀ page, Carries fmt (p.answerTo url fmt world) page →
    SoundPage p source page ∧ ∀ a ∈ earlier ++ [p.answerTo url fmt world], Whole a

/-- The links of a terminal page, and the answer for the artifact found there. -/
def SoundLink (source parent : Source) (earlier : List HttpAnswer) (page : Page) (world : τ) :
    Prop :=
  ∀ html, Page.ok page.status = true → page.document = .str html →
    ResolvesToFirst p.lib source.urlText parent.urlText (hrefs html) ∧
      ∀ link, FirstEligible p.lib source.urlText parent.urlText (hrefs html) link →
        SoundFetch p source earlier link .markdown world

/-- The terminal page of an artifact, from the cache or fetched. -/
structure SoundParent (source parent : Source) (st : FirecrawlState τ) (world : τ) : Prop where
  cached : ∀ page, st.pageCache parent.urlText = some (.ok page) →
    SoundLink p source parent [] page world
  fetched : st.pageCache parent.urlText = none →
    SoundAnswer (p.answerTo parent.urlText .rawHtml world) ∧
      ∀ page, Carries .rawHtml (p.answerTo parent.urlText .rawHtml world) page →
        SoundLink p source parent [p.answerTo parent.urlText .rawHtml world] page
          (p.outside.scrape (scrapeRequest parent.urlText .rawHtml) world).2

/-- The answers of one call of `observe` are sound. -/
structure SoundCall (identity : SourceIdentity) (st : FirecrawlState τ) : Prop where
  page : ∀ source, p.registered identity = some source → Authorized source .retrieve p.switches →
    source.kind ≠ .scheduleArtifact →
      SoundFetch p source [] source.urlText .rawHtml (p.outside.clock st.world).2
  artifact : ∀ source parent, p.registered identity = some source →
    Authorized source .retrieve p.switches → source.kind = .scheduleArtifact →
      p.parentPage source = some parent →
        SoundParent p source parent st (p.outside.clock st.world).2

/-! ## The last step -/

/-- `observe` from what was fetched on. -/
def FirecrawlSourceProvider.recorded (source : Source) (observedAt : Int) (observationId : UUID) :
    Except PyError (Result Page) → Except PyError (Result ObservationFields)
  | .error e => .error e
  | .ok (.error failure) => .ok (.error failure)
  | .ok (.ok page) => (p.observePage source observedAt observationId page).map .ok

variable {p} {source parent : Source} {st : FirecrawlState τ}

theorem observe_recorded {identity : SourceIdentity}
    (registered : p.registered identity = some source) (st : FirecrawlState τ) :
    ∃ observationId,
      (p.observe identity st).1 = p.recorded source (p.outside.clock st.world).1 observationId
        (p.fetchRegistered source { st with world := (p.outside.clock st.world).2 }).1 ∧
      (p.observe identity st).2.fetches =
        (p.fetchRegistered source { st with world := (p.outside.clock st.world).2 }).2.fetches := by
  rcases hclock : p.outside.clock st.world with ⟨observedAt, world⟩
  simp only [FirecrawlSourceProvider.observe, registered, hclock]
  rcases p.fetchRegistered source { st with world } with ⟨e | failure | page, st'⟩
  · exact ⟨(p.outside.uuid4 st'.world).1, rfl, rfl⟩
  · exact ⟨(p.outside.uuid4 st'.world).1, rfl, rfl⟩
  · rcases hid : p.outside.uuid4 st'.world with ⟨observationId, world'⟩
    exact ⟨observationId, by simp [FirecrawlSourceProvider.recorded, hid], rfl⟩

theorem returnsResult_failure (answers : List HttpAnswer) (failure : ApplicationError) :
    ReturnsResult answers (.ok (.error failure)) :=
  ⟨⟨_, rfl⟩, fun _ _ _ => ⟨failure, rfl⟩⟩

theorem not_returnsResult_error (answers : List HttpAnswer) (e : PyError) :
    ¬ ReturnsResult answers (.error e) := by
  rintro ⟨⟨result, h⟩, -⟩
  cases h

theorem returnsResult_ok_iff (answers : List HttpAnswer) (o : ObservationFields) :
    ReturnsResult answers (.ok (.ok o)) ↔ ∀ a ∈ answers, Usable a := by
  constructor
  · intro h a ha
    by_contra unusable
    obtain ⟨failure, hfailure⟩ := h.unusable a ha unusable
    cases hfailure
  · intro usable
    exact ⟨⟨_, rfl⟩, fun a ha unusable => absurd (usable a ha) unusable⟩

/-- The last fetch of a call, and the record made of it. -/
theorem recorded_fetch_iff (source : Source) (st : FirecrawlState τ) (earlier : List HttpAnswer)
    (url : PyStr) (fmt : Format) (observedAt : Int) (observationId : UUID)
    (read : ∀ a ∈ earlier, Usable a ↔ Whole a) :
    ReturnsResult (earlier ++ [p.answerTo url fmt st.world])
        (p.recorded source observedAt observationId (p.fetch url fmt st).1) ↔
      SoundFetch p source earlier url fmt st.world := by
  change ReturnsResult _ (p.recorded source observedAt observationId
    (decodeAnswer fmt (p.answerTo url fmt st.world))) ↔ _
  have decoded := decodeAnswer_decoded fmt (p.answerTo url fmt st.world)
  generalize decodeAnswer fmt (p.answerTo url fmt st.world) = result at decoded ⊢
  cases decoded with
  | raised e unsound =>
    exact iff_of_false (not_returnsResult_error _ e) fun sound => unsound sound.answer
  | failed failure sound none =>
    exact iff_of_true (returnsResult_failure _ failure)
      ⟨sound, fun page carries => absurd carries (none page)⟩
  | page page sound carries =>
    show ReturnsResult _ ((p.observePage source observedAt observationId page).map .ok) ↔ _
    have recorded : (∃ o, p.observePage source observedAt observationId page = .ok o) ↔
        SoundPage p source page := observePage_ok_iff
    have only : SoundFetch p source earlier url fmt st.world ↔
        SoundPage p source page ∧ ∀ a ∈ earlier ++ [p.answerTo url fmt st.world], Whole a := by
      constructor
      · intro h
        exact h.page page carries
      · intro h
        refine ⟨sound, fun page' carries' => ?_⟩
        obtain rfl := carries.unique carries'
        exact h
    rw [only]
    cases hpage : p.observePage source observedAt observationId page with
    | error e =>
      rw [hpage] at recorded
      exact iff_of_false (not_returnsResult_error _ e)
        fun h => by simpa using recorded.2 h.1
    | ok o =>
      have soundPage : SoundPage p source page := recorded.1 ⟨o, hpage⟩
      have last := usable_iff_whole carries ((validate_http _).2 soundPage.short)
      show ReturnsResult _ (.ok (.ok o)) ↔ _
      rw [returnsResult_ok_iff]
      simp only [soundPage, true_and, List.mem_append, List.mem_singleton]
      constructor
      · rintro usable a (ha | rfl)
        · exact (read a ha).1 (usable a (.inl ha))
        · exact last.1 (usable _ (.inr rfl))
      · rintro whole a (ha | rfl)
        · exact (read a ha).2 (whole a (.inl ha))
        · exact last.2 (whole _ (.inr rfl))

/-! ## The terminal page of an artifact -/

theorem newAnswers_eq {st' : FirecrawlState τ} {fetches : List Fetch}
    (h : st'.fetches = st.fetches ++ fetches) : newAnswers st st' = fetches.map (·.answer) := by
  simp [newAnswers, h]

/-- A status of success is short enough to name. -/
theorem usable_iff_whole_of_ok {fmt : Format} {answer : HttpAnswer} {page : Page}
    (carries : Carries fmt answer page) (ok : Page.ok page.status = true) :
    Usable answer ↔ Whole answer := by
  apply usable_iff_whole carries
  rw [validate_http]
  obtain ⟨low, high⟩ := Page.ok_iff.1 ok
  obtain ⟨n, hn⟩ := Int.eq_ofNat_of_zero_le (by omega : 0 ≤ page.status)
  rw [hn]
  show n.repr.length ≤ 123
  rw [← String.length_toList, Nat.toList_repr]
  have short : (Nat.toDigits 10 n).length ≤ 3 :=
    (Nat.length_toDigits_le_iff (by decide) (by decide)).2 (by omega)
  omega

/-- What follows the terminal page: a link, and the answer it leads to. -/
theorem recorded_fetchLinked (p : FirecrawlSourceProvider τ) (source parent : Source)
    (st : FirecrawlState τ) (earlier : List HttpAnswer) (page : Page) (observedAt : Int)
    (observationId : UUID) (read : Page.ok page.status = true → ∀ a ∈ earlier, Usable a ↔ Whole a) :
    ∃ fetches, (p.fetchLinked source parent page st).2.fetches = st.fetches ++ fetches ∧
      (ReturnsResult (earlier ++ fetches.map (·.answer))
          (p.recorded source observedAt observationId (p.fetchLinked source parent page st).1) ↔
        SoundLink p source parent earlier page st.world) := by
  by_cases wellAnswered : ∃ html, Page.ok page.status = true ∧ page.document = .str html
  · obtain ⟨html, ok, hdocument⟩ := wellAnswered
    have only : SoundLink p source parent earlier page st.world ↔
        ResolvesToFirst p.lib source.urlText parent.urlText (hrefs html) ∧
          ∀ link, FirstEligible p.lib source.urlText parent.urlText (hrefs html) link →
            SoundFetch p source earlier link .markdown st.world := by
      constructor
      · intro h
        exact h html ok hdocument
      · intro h html' _ hdocument'
        obtain rfl : html = html' := by simpa [hdocument] using hdocument'
        exact h
    rw [only]
    unfold FirecrawlSourceProvider.fetchLinked
    simp only [ok, hdocument, Json.text?, ↓reduceIte]
    cases discovered : discoverArtifact p.lib html source.urlText parent.urlText with
    | error e =>
      refine ⟨[], by simp, iff_of_false (not_returnsResult_error _ e) fun h => ?_⟩
      obtain ⟨found, hfound⟩ := ((discoverArtifact_answersFirst_iff ..).2 h.1).returns
      rw [discovered] at hfound
      cases hfound
    | ok found =>
      have resolves := resolvesToFirst_of_ok discovered
      have answers := (discoverArtifact_answersFirst_iff ..).2 resolves
      cases found with
      | none =>
        refine ⟨[], by simp, iff_of_true (returnsResult_failure _ _) ⟨resolves, ?_⟩⟩
        rintro link ⟨before, raw, after, split, -, eligible⟩
        exact absurd eligible (answers.none_iff.1 discovered raw (by simp [split]) link)
      | some link =>
        refine ⟨[⟨scrapeRequest link .markdown, p.answerTo link .markdown st.world⟩], rfl, ?_⟩
        refine (recorded_fetch_iff source st earlier link .markdown observedAt observationId
          (read ok)).trans ?_
        simp only [resolves, true_and]
        constructor
        · intro h link' first
          have hlink := (answers.some_iff link').2 first
          rw [discovered] at hlink
          obtain rfl : link = link' := by simpa using hlink
          exact h
        · intro h
          exact h link ((answers.some_iff link).1 discovered)
  · have failed : p.fetchLinked source parent page st =
        (.ok (.error artifactParentUnreachable), st) := by
      unfold FirecrawlSourceProvider.fetchLinked
      have none : (if Page.ok page.status then page.document.text? else none) = none := by
        by_cases ok : Page.ok page.status = true
        · rw [if_pos ok]
          cases hdocument : page.document with
          | str html => exact absurd ⟨html, ok, hdocument⟩ wellAnswered
          | _ => rfl
        · rw [if_neg ok]
      rw [none]
    rw [failed]
    refine ⟨[], by simp, iff_of_true (returnsResult_failure _ _) ?_⟩
    intro html ok hdocument
    exact absurd ⟨html, ok, hdocument⟩ wellAnswered

/-- The artifact's terminal page, from the cache or fetched, and what follows it. -/
theorem recorded_fetchRegistered_artifact (st : FirecrawlState τ) (observedAt : Int)
    (observationId : UUID) (auth : Authorized source .retrieve p.switches)
    (kind : source.kind = .scheduleArtifact) (found : p.parentPage source = some parent) :
    ∃ fetches, (p.fetchRegistered source st).2.fetches = st.fetches ++ fetches ∧
      (ReturnsResult (fetches.map (·.answer))
          (p.recorded source observedAt observationId (p.fetchRegistered source st).1) ↔
        SoundParent p source parent st st.world) := by
  unfold FirecrawlSourceProvider.fetchRegistered
  simp only [auth, not_true_eq_false, ↓reduceIte, kind, ne_eq, found]
  cases hcache : st.pageCache parent.urlText with
  | some answer =>
    rw [fetchPage_cached hcache]
    cases answer with
    | error failure =>
      refine ⟨[], by simp, iff_of_true (returnsResult_failure _ failure) ⟨?_, ?_⟩⟩
      · simp [hcache]
      · simp [hcache]
    | ok page =>
      obtain ⟨fetches, hfetches, h⟩ := recorded_fetchLinked p source parent st [] page observedAt
        observationId (by simp)
      refine ⟨fetches, hfetches, h.trans ⟨fun link => ⟨?_, by simp [hcache]⟩, ?_⟩⟩
      · intro page' hpage'
        obtain rfl : page = page' := by simpa [hcache] using hpage'
        exact link
      · intro sound
        exact sound.cached page hcache
  | none =>
    have decoded := decodeAnswer_decoded .rawHtml (p.answerTo parent.urlText .rawHtml st.world)
    have fetched : p.fetch parent.urlText .rawHtml st =
        (decodeAnswer .rawHtml (p.answerTo parent.urlText .rawHtml st.world),
          { st with
            world := (p.outside.scrape (scrapeRequest parent.urlText .rawHtml) st.world).2
            fetches := st.fetches ++ [⟨scrapeRequest parent.urlText .rawHtml,
              p.answerTo parent.urlText .rawHtml st.world⟩] }) := rfl
    unfold FirecrawlSourceProvider.fetchPage
    rw [hcache, fetched]
    generalize decodeAnswer .rawHtml (p.answerTo parent.urlText .rawHtml st.world) = result
      at decoded ⊢
    cases decoded with
    | raised e unsound =>
      refine ⟨_, rfl, iff_of_false (not_returnsResult_error _ e) fun sound => ?_⟩
      exact unsound (sound.fetched hcache).1
    | failed failure sound none =>
      refine ⟨_, rfl, iff_of_true (returnsResult_failure _ failure) ⟨by simp [hcache], fun _ => ?_⟩⟩
      exact ⟨sound, fun page carries => absurd carries (none page)⟩
    | page page sound carries =>
      obtain ⟨fetches, hfetches, h⟩ := recorded_fetchLinked p source parent
        { st with
          world := (p.outside.scrape (scrapeRequest parent.urlText .rawHtml) st.world).2
          fetches := st.fetches ++ [⟨scrapeRequest parent.urlText .rawHtml,
            p.answerTo parent.urlText .rawHtml st.world⟩]
          pageCache := Function.update st.pageCache parent.urlText (some (.ok page)) }
        [p.answerTo parent.urlText .rawHtml st.world] page observedAt observationId
        (fun ok a ha => by
          rw [List.mem_singleton.1 ha]
          exact usable_iff_whole_of_ok carries ok)
      refine ⟨⟨scrapeRequest parent.urlText .rawHtml,
        p.answerTo parent.urlText .rawHtml st.world⟩ :: fetches, ?_, ?_⟩
      · refine hfetches.trans ?_
        simp
      · refine h.trans ⟨fun link => ⟨by simp [hcache], fun _ => ⟨sound, ?_⟩⟩, ?_⟩
        · intro page' carries'
          obtain rfl := carries.unique carries'
          exact link
        · intro sound
          exact (sound.fetched hcache).2 page carries

/-- **A call of `observe` returns a result for its answers, and a failure for an
unusable one, exactly when the answers are sound.** -/
theorem observe_returnsResult_iff (p : FirecrawlSourceProvider τ) (identity : SourceIdentity)
    (st : FirecrawlState τ) :
    ReturnsResult (newAnswers st (p.observe identity st).2) (p.observe identity st).1 ↔
      SoundCall p identity st := by
  cases registered : p.registered identity with
  | none =>
    simp only [FirecrawlSourceProvider.observe, registered]
    exact iff_of_true (returnsResult_failure _ _) ⟨by simp [registered], by simp [registered]⟩
  | some source =>
    obtain ⟨observationId, houtcome, hfetches⟩ := observe_recorded registered st
    have only : SoundCall p identity st ↔
        (Authorized source .retrieve p.switches → source.kind ≠ .scheduleArtifact →
          SoundFetch p source [] source.urlText .rawHtml (p.outside.clock st.world).2) ∧
        (∀ parent, Authorized source .retrieve p.switches → source.kind = .scheduleArtifact →
          p.parentPage source = some parent →
            SoundParent p source parent st (p.outside.clock st.world).2) := by
      constructor
      · intro h
        exact ⟨h.page source registered, fun parent => h.artifact source parent registered⟩
      · rintro ⟨page, artifact⟩
        refine ⟨?_, ?_⟩
        · intro source' registered'
          obtain rfl : source = source' := by simpa [registered] using registered'
          exact page
        · intro source' parent registered'
          obtain rfl : source = source' := by simpa [registered] using registered'
          exact artifact parent
    rw [only, houtcome]
    by_cases auth : Authorized source .retrieve p.switches
    · by_cases kind : source.kind = .scheduleArtifact
      · cases found : p.parentPage source with
        | none =>
          simp only [FirecrawlSourceProvider.fetchRegistered, auth, kind, found,
            not_true_eq_false, ↓reduceIte, ne_eq]
          refine iff_of_true (returnsResult_failure _ _) ⟨by simp, by simp⟩
        | some parent =>
          obtain ⟨fetches, hnew, h⟩ := recorded_fetchRegistered_artifact
            { st with world := (p.outside.clock st.world).2 } (p.outside.clock st.world).1
            observationId auth kind found
          have new : (p.observe identity st).2.fetches = st.fetches ++ fetches :=
            hfetches.trans hnew
          rw [newAnswers_eq new, h]
          constructor
          · intro sound
            refine ⟨fun _ page => absurd kind page, fun parent' _ _ found' => ?_⟩
            obtain rfl : parent = parent' := by simpa using found'
            exact ⟨sound.cached, sound.fetched⟩
          · rintro ⟨-, artifact⟩
            have sound := artifact parent auth kind rfl
            exact ⟨sound.cached, sound.fetched⟩
      · have own : p.fetchRegistered source { st with world := (p.outside.clock st.world).2 } =
            p.fetch source.urlText .rawHtml { st with world := (p.outside.clock st.world).2 } := by
          simp only [FirecrawlSourceProvider.fetchRegistered, auth, kind, not_true_eq_false,
            ↓reduceIte, ne_eq, not_false_eq_true]
        rw [own] at hfetches ⊢
        have new : (p.observe identity st).2.fetches = st.fetches ++
            [⟨scrapeRequest source.urlText .rawHtml,
              p.answerTo source.urlText .rawHtml (p.outside.clock st.world).2⟩] := hfetches
        rw [newAnswers_eq new]
        refine (recorded_fetch_iff source { st with world := (p.outside.clock st.world).2 } []
          source.urlText .rawHtml _ observationId (by simp)).trans ?_
        constructor
        · intro sound
          exact ⟨fun _ _ => sound, fun parent _ artifact => absurd artifact kind⟩
        · rintro ⟨page, -⟩
          exact page auth kind
    · have refused : p.fetchRegistered source { st with world := (p.outside.clock st.world).2 } =
          (.ok (.error notAuthorized), { st with world := (p.outside.clock st.world).2 }) :=
        if_pos auth
      rw [refused]
      exact iff_of_true (returnsResult_failure _ _)
        ⟨fun allowed => absurd allowed auth, fun _ allowed => absurd allowed auth⟩

/-! ## An infinite status -/

/-- An outside whose answers state an infinite status, as JSON lets them. -/
def infiniteOutside : Outside Unit :=
  { stampedOutside with
    scrape := fun _ world => (.response 200 (some (.obj [(ofString "data", .obj
      [(ofString "metadata", .obj [(ofString "statusCode", .float .infinite)])])])), world) }

/-- Nothing catches the overflow, and the call returns nothing. -/
theorem infinite_status_raises :
    ¬ ReturnsResult
      (newAnswers (.new ()) (({ stampedAdapter with outside := infiniteOutside }).observe
        (terminalPage (some firecrawlId)).identity (.new ())).2)
      (({ stampedAdapter with outside := infiniteOutside }).observe
        (terminalPage (some firecrawlId)).identity (.new ())).1 := by
  have raised : (({ stampedAdapter with outside := infiniteOutside }).observe
      (terminalPage (some firecrawlId)).identity (.new ())).1 = .error .overflowError := by
    decide +kernel
  rw [raised]
  exact not_returnsResult_error _ _

end PaxPivot
