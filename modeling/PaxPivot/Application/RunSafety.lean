import PaxPivot.Library.DistinctKeys
import PaxPivot.Application.SourceChecks

/-!
# Safety of a whole run

A run over an arbitrary provider and a repository whose append always succeeds.
The provider is observed through `SourceProvider.logged`, which answers as the
provider does and keeps what it was asked.
-/

namespace PaxPivot

variable {σ : Type} {provider : SourceProvider σ} {switches : List KillSwitch}

abbrev ProviderLog := List (SourceIdentity × Result SourceObservation)

/-- The provider, keeping every question with its answer. -/
def SourceProvider.logged (p : SourceProvider σ) : SourceProvider (σ × ProviderLog) where
  providerId := p.providerId
  observe identity state :=
    ((p.observe identity state.1).1,
      (p.observe identity state.1).2, state.2 ++ [(identity, (p.observe identity state.1).1)])

/-- What a finished run guarantees about `run`, the questions in `log` and the
rows it `appended`, whatever the provider answered. -/
structure SafeRun (registry : Registry) (switches : List KillSwitch) (providerId : String)
    (run : SourceCheckRun) (log : ProviderLog) (appended : List SourceObservation) : Prop where
  oneOutcomeEach : run.outcomes.map (·.sourceId) = registry.sources.map (·.sourceId)
  askedOnce : ∀ source ∈ registry.sources, ∀ outcome ∈ run.outcomes,
    outcome.sourceId = source.sourceId →
      log.countP (fun entry => decide (entry.1.sourceId = source.sourceId)) =
        if outcome.outcome = .skipped then 0 else 1
  askedRegistered : ∀ entry ∈ log, ∃ source ∈ registry.sources, source.identity = entry.1
  appendsRecorded : List.Forall₂ (fun outcome o => outcome.sourceId = o.sourceId ∧
      outcome.state = some o.state ∧
      ∃ entry ∈ log, entry.1.sourceId = outcome.sourceId ∧ entry.2 = .ok o) run.recorded appended
  appendsAcceptable : ∀ o ∈ appended, ∃ source ∈ registry.sources,
    Authorized source .retrieve switches ∧ source.adapterId.map (·.text) = some providerId ∧
      o.provenance.providerId.text = providerId ∧ Acceptable source o switches

/-! ## The log changes nothing -/

section Erase

variable {ε ρ : Type} {observations : SourceObservationRepository ε ρ}

/-- The world without the log. -/
def World.unlogged (w : World (σ × ProviderLog) ρ) : World σ ρ := ⟨w.provider.1, w.observations⟩

theorem checkSource_logged (source : Source) (w : World (σ × ProviderLog) ρ) :
    checkSource provider observations switches source w.unlogged =
      (checkSource provider.logged observations switches source w).map
        fun done => (done.1, done.2.unlogged) := by
  unfold checkSource
  cases hskip : skipReason source provider.providerId switches with
  | some reason =>
    have hlogged : skipReason source provider.logged.providerId switches = some reason := hskip
    rw [hlogged]
    rfl
  | none =>
    have hlogged : skipReason source provider.logged.providerId switches = none := hskip
    simp only [hlogged, recordObservation_of_attempt hskip, recordObservation_of_attempt hlogged]
    simp only [SourceProvider.logged, World.unlogged]
    cases judgeAnswer source provider.providerId switches
        (provider.observe source.identity w.provider.1).1 with
    | error e => rfl
    | ok o =>
      dsimp only
      cases observations.append o w.observations <;> rfl

theorem checkAll_logged (sources : List Source) (w : World (σ × ProviderLog) ρ) :
    checkAll provider observations switches sources w.unlogged =
      (checkAll provider.logged observations switches sources w).map
        fun done => (done.1, done.2.unlogged) := by
  induction sources generalizing w with
  | nil => rfl
  | cons source rest ih =>
    simp only [checkAll, checkSource_logged]
    cases checkSource provider.logged observations switches source w with
    | error raised => rfl
    | ok first =>
      simp only [Except.map, ih]
      cases checkAll provider.logged observations switches rest first.2 <;> rfl

/-- A run with the logged provider is the run with the provider, log aside. -/
theorem runSourceChecks_logged (sources : List Source) (now : Int)
    (w : World (σ × ProviderLog) ρ) :
    runSourceChecks sources observations switches provider now w.unlogged =
      (runSourceChecks sources observations switches provider.logged now w).map
        fun done => (done.1, done.2.unlogged) := by
  simp only [runSourceChecks, checkAll_logged]
  cases checkAll provider.logged observations switches sources w <;> rfl

end Erase

/-! ## What the checks of a run leave behind -/

/-- The question a check put to the provider, with its answer. -/
def Check.entry (c : Check) : Option (SourceIdentity × Result SourceObservation) :=
  c.answer.map fun a => (c.source.identity, a)

theorem Check.entry_asks (c : Check) (id : UUID) :
    (c.entry.map fun entry => decide (entry.1.sourceId = id)).getD false =
      (c.answer.isSome && decide (c.source.sourceId = id)) := by
  unfold Check.entry Source.sourceId
  cases c.answer <;> simp

theorem Effects.history {cs : List Check} {w w' : World σ (List SourceObservation)}
    (h : Effects provider historyRepository cs w w') :
    w'.observations = w.observations ++ cs.filterMap (·.appended) := by
  induction h with
  | nil w => simp
  | cons head tail ih =>
    rename_i c cs w w₁ w₂
    rw [ih]
    cases ha : c.appended with
    | none => simp [head.keeps ha, ha]
    | some o =>
      have := head.appends o ha
      simp only [historyRepository, Except.ok.injEq] at this
      simp [← this, ha]

theorem Effects.log {ε ρ : Type} {observations : SourceObservationRepository ε ρ}
    {cs : List Check} {w w' : World (σ × ProviderLog) ρ}
    (h : Effects provider.logged observations cs w w') :
    w'.provider.2 = w.provider.2 ++ cs.filterMap Check.entry := by
  induction h with
  | nil w => simp
  | cons head tail ih =>
    rename_i c cs w w₁ w₂
    rw [ih]
    cases ha : c.answer with
    | none => simp [head.notAsked ha, Check.entry, ha]
    | some a =>
      have := head.asked a ha
      simp only [SourceProvider.logged, Prod.mk.injEq] at this
      simp [← this.2, Check.entry, ha, this.1]

theorem Check.Sound.sourceId {c : Check} {providerId : String}
    (h : c.Sound providerId switches) : c.outcome.sourceId = c.source.sourceId := by
  cases h <;> rfl

/-- A check asks the provider exactly when it does not skip. -/
theorem Check.Sound.asked_iff {c : Check} {providerId : String}
    (h : c.Sound providerId switches) :
    c.answer.isSome = decide (c.outcome.outcome ≠ .skipped) := by
  cases h with
  | skipped source reason skip => rfl
  | refused source answer e attempt judged =>
    simp only [refusalOutcome]
    split <;> rfl
  | recorded source o attempt judged => rfl

theorem Check.Sound.recorded_iff {c : Check} {providerId : String}
    (h : c.Sound providerId switches) :
    decide (c.outcome.outcome = .recorded) = c.appended.isSome := by
  cases h with
  | skipped source reason skip => rfl
  | refused source answer e attempt judged =>
    simp only [refusalOutcome]
    split <;> rfl
  | recorded source o attempt judged => rfl

/-- What a check stored was judged acceptable for its own source. -/
theorem Check.Sound.appended {c : Check} {providerId : String}
    (h : c.Sound providerId switches) {o : SourceObservation} (ho : c.appended = some o) :
    c.answer = some (.ok o) ∧ c.outcome.state = some o.state ∧
      Authorized c.source .retrieve switches ∧
      c.source.adapterId.map (·.text) = some providerId ∧
      o.provenance.providerId.text = providerId ∧ Acceptable c.source o switches := by
  cases h with
  | skipped source reason skip => cases ho
  | refused source answer e attempt judged => cases ho
  | recorded source o' attempt judged =>
    cases ho
    obtain ⟨hauth, hadapter⟩ := skipReason_eq_none_iff.1 attempt
    obtain ⟨-, hprovider, hacceptable⟩ := judgeAnswer_ok_iff.1 judged
    exact ⟨rfl, rfl, hauth, hadapter, hprovider, hacceptable⟩

/-- The recorded outcomes and the appended rows come from the same checks, in order. -/
theorem recorded_forall₂ {providerId : String} {checks : List Check}
    (sound : ∀ c ∈ checks, c.Sound providerId switches) :
    List.Forall₂ (fun outcome o => ∃ c ∈ checks, c.outcome = outcome ∧ c.appended = some o)
      ((checks.map (·.outcome)).filter (·.outcome = .recorded))
      (checks.filterMap (·.appended)) := by
  induction checks with
  | nil => simp
  | cons c cs ih =>
    have hc := (sound c (by simp)).recorded_iff
    have later := (ih fun c' h' => sound c' (by simp [h'])).imp
      fun outcome o ⟨c', h', he, ha⟩ => (⟨c', List.mem_cons_of_mem c h', he, ha⟩ :
        ∃ c' ∈ c :: cs, c'.outcome = outcome ∧ c'.appended = some o)
    cases ha : c.appended with
    | none =>
      rw [ha] at hc
      simpa [List.filterMap_cons, ha, hc] using later
    | some o =>
      rw [ha] at hc
      simp only [List.map_cons, List.filter_cons, hc, Option.isSome_some, ↓reduceIte,
        List.filterMap_cons, ha]
      exact .cons ⟨c, by simp, rfl, ha⟩ later

section Outcomes

variable {registry : Registry} {checks : List Check} {providerId : String}

/-- The checks of a registry are of different sources. -/
theorem checks_distinct (hsources : checks.map (·.source) = registry.sources) :
    (checks.map fun c => c.source.sourceId).Nodup := by
  have := registry.distinct
  rwa [← hsources, List.map_map] at this

/-- One outcome for each source, in the registry's order. -/
theorem outcomes_sourceId (hsources : checks.map (·.source) = registry.sources)
    (sound : ∀ c ∈ checks, c.Sound providerId switches) :
    (checks.map (·.outcome)).map (·.sourceId) = registry.sources.map (·.sourceId) := by
  rw [← hsources, List.map_map, List.map_map]
  exact List.map_congr_left fun c hc => (sound c hc).sourceId

/-- The outcome of a source is the outcome of its check. -/
theorem outcome_eq (hsources : checks.map (·.source) = registry.sources)
    (sound : ∀ c ∈ checks, c.Sound providerId switches) {c : Check} (hc : c ∈ checks)
    {outcome : SourceCheckOutcome} (houtcome : outcome ∈ checks.map (·.outcome))
    (hid : outcome.sourceId = c.source.sourceId) : outcome = c.outcome := by
  obtain ⟨c', hc', rfl⟩ := List.mem_map.1 houtcome
  rw [(sound c' hc').sourceId] at hid
  rw [DistinctKeys.eq_of_key_eq (checks_distinct hsources) hc' hc hid]

end Outcomes

/-- Over a repository that refuses nothing a run always finishes. -/
theorem runSourceChecks_total (sources : List Source) (switches : List KillSwitch)
    (provider : SourceProvider σ) (now : Int) (w : World σ (List SourceObservation)) :
    ∃ run w',
      runSourceChecks sources historyRepository switches provider now w = .ok (run, w') := by
  cases h : runSourceChecks sources historyRepository switches provider now w with
  | error raised => exact raised.elim
  | ok done => exact ⟨done.1, done.2, rfl⟩

/-- **Pipeline safety.** Whatever the provider answers, a run finishes, keeps the
old history as a prefix and is a `SafeRun`; the questions are those the same run
leaves in the provider's log. -/
theorem runSourceChecks_safe (registry : Registry) (switches : List KillSwitch)
    (provider : SourceProvider σ) (state : σ) (history : List SourceObservation) (now : Int) :
    ∃ run state' log appended,
      runSourceChecks registry.sources historyRepository switches provider now ⟨state, history⟩ =
          .ok (run, ⟨state', history ++ appended⟩) ∧
        runSourceChecks registry.sources historyRepository switches provider.logged now
            ⟨(state, []), history⟩ = .ok (run, ⟨(state', log), history ++ appended⟩) ∧
        SafeRun registry switches provider.providerId run log appended := by
  obtain ⟨run, ⟨⟨state', log⟩, history'⟩, hrun⟩ :=
    runSourceChecks_total registry.sources switches provider.logged now ⟨(state, []), history⟩
  obtain ⟨checks, hsources, houtcomes, sound, effects⟩ := runSourceChecks_spec hrun
  have hhistory := effects.history
  have hlog := effects.log
  simp only [List.nil_append] at hhistory hlog
  have distinct := checks_distinct hsources
  rw [hhistory] at hrun
  have herased : runSourceChecks registry.sources historyRepository switches provider now
      ⟨state, history⟩ = .ok (run, ⟨state', history ++ checks.filterMap (·.appended)⟩) := by
    refine (runSourceChecks_logged registry.sources now ⟨(state, []), history⟩).trans ?_
    rw [hrun]
    rfl
  refine ⟨run, state', log, checks.filterMap (·.appended), herased, hrun, ?_, ?_, ?_, ?_, ?_⟩
  · rw [houtcomes]
    exact outcomes_sourceId hsources sound
  · intro source hsource outcome houtcome hid
    rw [houtcomes, List.mem_map] at houtcome
    obtain ⟨c, hc, rfl⟩ := houtcome
    rw [(sound c hc).sourceId] at hid
    rw [hlog, List.countP_filterMap, ← hid]
    simp only [Check.entry_asks]
    rw [DistinctKeys.countP_key distinct hc fun c => c.answer.isSome, (sound c hc).asked_iff]
    simp
  · intro entry hentry
    rw [hlog, List.mem_filterMap] at hentry
    obtain ⟨c, hc, he⟩ := hentry
    obtain ⟨a, -, rfl⟩ := Option.map_eq_some_iff.1 he
    exact ⟨c.source, hsources ▸ List.mem_map_of_mem hc, rfl⟩
  · rw [SourceCheckRun.recorded, houtcomes]
    apply (recorded_forall₂ sound).imp
    rintro outcome o ⟨c, hc, rfl, ho⟩
    obtain ⟨hanswer, hstate, -, -, -, hacceptable⟩ := (sound c hc).appended ho
    refine ⟨(sound c hc).sourceId.trans hacceptable.identity.symm, hstate,
      (c.source.identity, .ok o), ?_, (sound c hc).sourceId.symm, rfl⟩
    rw [hlog, List.mem_filterMap]
    exact ⟨c, hc, by simp [Check.entry, hanswer]⟩
  · intro o ho
    obtain ⟨c, hc, hco⟩ := List.mem_filterMap.1 ho
    exact ⟨c.source, hsources ▸ List.mem_map_of_mem hc, ((sound c hc).appended hco).2.2⟩

end PaxPivot
