import PaxPivot.Application.SourceReliability

/-!
# What the source-health gate decides

The verdict of `reliability` in the terms of the definitions it implements, and
what a PASS does and does not say about when the checks were made.
-/

namespace PaxPivot

/-- Fewer than 90 percent of the expected checks read the source. -/
def TooFewReads (r : SourceReliability) : Prop :=
  0 < r.expected ∧ (r.successful : ℚ) < 90 / 100 * r.expected

/-- A stretch of the measurement beyond policy without a successful read. -/
def SilentTooLong (observations : List SourceObservation) (begin now : Int) : Prop :=
  ∃ x y, begin ≤ x ∧ y ≤ now ∧ stopGap < y - x ∧
    ∀ o ∈ observations, o.retrieval = .succeeded → ¬ (x < o.observedAt ∧ o.observedAt < y)

/-- What a source that need not stop has to meet to pass. -/
structure Passes (reads : List SourceObservation) (r : SourceReliability) : Prop where
  notClipped : r.clipped = false
  expected : 0 < r.expected
  completed : 95 / 100 * (r.expected : ℚ) ≤ r.successful
  read : reads ≠ []
  hashed : ∀ o ∈ reads, o.contentHash ≠ none
  detected : 95 / 100 * ((hashChanges reads).length : ℚ) ≤ seenInTime reads

section Gate

variable {observations : List SourceObservation} {cadence : ℕ+} {start now : Int}

/-- A source with a cadence and a history is measured. -/
theorem reliability_measured (observed : observations ≠ []) (cadence : ℕ+) (start now : Int) :
    reliability observations (some cadence) start now =
      let begin := measuredFrom observations start now
      let reads := successfulReads observations start now
      let expected := expectedChecks cadence begin now
      let gaps := readGaps begin reads now
      let p95 := NearestRank.percentile (95 / 100) (detectionGaps reads)
      let hashed := !reads.isEmpty && reads.all hasHash
      { start := begin
        clipped := isClipped observations start now
        expected
        recorded := (insideWindow observations start now).length
        successful := reads.length
        completion := completionOf reads.length expected
        longestGap := gaps.max?
        gapsOverWindow := gaps.countP (· > freshnessWindow)
        hashed
        changes := (detectionGaps reads).length
        detectionP95 := p95
        verdict := gateVerdict (isClipped observations start now) hashed
          (completionOf reads.length expected) gaps.max? p95 } := by
  unfold reliability
  cases h : timeOrdered observations with
  | nil => exact absurd h (timeOrdered_ne_nil observed)
  | cons first rest => rfl

/-- **STOP**: too few reads, or a stretch beyond policy without one. -/
theorem stop_iff (observed : observations ≠ []) (ordered : start ≤ now) :
    (reliability observations (some cadence) start now).verdict = .stop ↔
      TooFewReads (reliability observations (some cadence) start now) ∨
        SilentTooLong observations (reliability observations (some cadence) start now).start
          now := by
  rw [reliability_measured observed]
  dsimp only
  rw [gateVerdict_stop_iff,
    completion_lt_iff (expectedChecks_nonneg (start_le_measuredFrom observations ordered).2),
    longest_gt_iff,
    gap_beyond_policy_iff observations ordered]
  rfl

/-- **PASS**: no reason to stop, and every pass condition. -/
theorem pass_iff (observed : observations ≠ []) (ordered : start ≤ now) :
    (reliability observations (some cadence) start now).verdict = .pass ↔
      ¬ (reliability observations (some cadence) start now).verdict = .stop ∧
        Passes (successfulReads observations start now)
          (reliability observations (some cadence) start now) := by
  have hhashed : (!(successfulReads observations start now).isEmpty &&
      (successfulReads observations start now).all hasHash) = true ↔
        successfulReads observations start now ≠ [] ∧
          ∀ o ∈ successfulReads observations start now, o.contentHash ≠ none := by
    rw [Bool.and_eq_true, Bool.not_eq_true', ← Bool.not_eq_true, List.isEmpty_iff, List.all_eq_true]
    exact and_congr_right fun _ => forall₂_congr fun o _ => hasHash_iff
  rw [reliability_measured observed]
  dsimp only
  rw [gateVerdict_pass_iff, hhashed, detection_in_time_iff,
    completion_ge_iff (expectedChecks_nonneg (start_le_measuredFrom observations ordered).2)]
  refine and_congr_right fun _ => ⟨?_, ?_⟩
  · rintro ⟨hclipped, ⟨hexpected, hcompleted⟩, ⟨hread, hhash⟩, hdetected⟩
    exact ⟨hclipped, hexpected, hcompleted, hread, hhash, hdetected⟩
  · rintro ⟨hclipped, hexpected, hcompleted, hread, hhash, hdetected⟩
    exact ⟨hclipped, ⟨hexpected, hcompleted⟩, ⟨hread, hhash⟩, hdetected⟩

/-- Sorting and filtering keep every successful read of the window. -/
theorem length_successfulReads (observations : List SourceObservation) (start now : Int) :
    (successfulReads observations start now).length = observations.countP fun o =>
      start ≤ o.observedAt ∧ o.observedAt ≤ now ∧ o.retrieval = .succeeded := by
  unfold successfulReads insideWindow timeOrdered
  rw [List.filter_filter, ← List.countP_eq_length_filter, (List.perm_insertionSort _ _).countP_eq]
  apply List.countP_congr
  intro o _
  simp only [Bool.and_eq_true, decide_eq_true_eq]
  tauto

/-- **The gate computes what it defines.** -/
theorem reliability_gate (observations : List SourceObservation) (cadence : ℕ+) (start now : Int)
    (observed : observations ≠ []) (ordered : start ≤ now) :
    let r := reliability observations (some cadence) start now
    let reads := successfulReads observations start now
    (r.clipped = true ↔
      (∃ o ∈ observations, start ≤ o.observedAt ∧ o.observedAt ≤ now) ∧
        ∀ o ∈ observations, start ≤ o.observedAt) ∧
    (r.clipped = true → IsLeast {t | ∃ o ∈ observations,
      (start ≤ o.observedAt ∧ o.observedAt ≤ now) ∧ o.observedAt = t} r.start) ∧
    (r.clipped = false → r.start = start) ∧
    r.expected = ⌊((now - r.start : Int) : ℚ) / (minutes (cadence : ℕ) : Int)⌋ ∧
    r.successful = (observations.countP fun o =>
      start ≤ o.observedAt ∧ o.observedAt ≤ now ∧ o.retrieval = .succeeded) ∧
    (r.verdict = .stop ↔ TooFewReads r ∨ SilentTooLong observations r.start now) ∧
    (r.verdict = .pass ↔
      ¬ (TooFewReads r ∨ SilentTooLong observations r.start now) ∧ Passes reads r) ∧
    (r.verdict = .watch ↔ r.verdict ≠ .stop ∧ r.verdict ≠ .pass) ∧
    r.longestGap = (readGaps r.start reads now).max? ∧
    (∀ g ∈ readGaps r.start reads now, 0 ≤ g) ∧
    (readGaps r.start reads now).sum = now - r.start ∧
    (detectionGaps reads ≠ [] →
      0 ≤ NearestRank.index (95 / 100) (detectionGaps reads).length ∧
        ∃ h : (NearestRank.index (95 / 100) (detectionGaps reads).length).toNat <
            (detectionGaps reads).length,
          r.detectionP95 = some (detectionGaps reads)[(NearestRank.index (95 / 100)
            (detectionGaps reads).length).toNat]) := by
  intro r reads
  have measured := reliability_measured observed cadence start now
  have hstart : r.start = measuredFrom observations start now := by simp only [r, measured]
  have hclipped : r.clipped = isClipped observations start now := by simp only [r, measured]
  refine ⟨?_, fun h => ?_, fun h => ?_, ?_, ?_, stop_iff observed ordered, ?_, ?_, ?_, ?_,
    ?_, fun h => ⟨?_, ?_⟩⟩
  · rw [hclipped]
    exact isClipped_iff
  · rw [hstart]
    exact measuredFrom_of_clipped (hclipped.symm.trans h)
  · rw [hstart]
    exact measuredFrom_of_not_clipped (hclipped.symm.trans h)
  · rw [hstart, ← expectedChecks_eq_floor (start_le_measuredFrom observations ordered).2]
    simp only [r, measured]
  · rw [← length_successfulReads]
    simp only [r, measured]
  · rw [← stop_iff observed ordered]
    exact pass_iff observed ordered
  · simp only [r, measured]
    exact gateVerdict_watch_iff
  · simp only [r, measured, reads]
  · rw [hstart]
    exact Gaps.gaps_nonneg (reads_ordered ordered)
  · exact Gaps.sum_gaps _ _ _
  · exact (NearestRank.index_bounds (by norm_num) (by norm_num) (List.length_pos_of_ne_nil h)).1
  · simp only [r, measured]
    exact NearestRank.percentile_eq_getElem (by norm_num) (by norm_num) h

/-- Reads of a page that changes, and a check that failed, in a window that began before them. -/
def changedHistory : List SourceObservation :=
  [fixtureObservation (fixtureSource 1) 10 0,
    { fixtureObservation (fixtureSource 1) 11 (minutes 360) with
      retrieval := .failed, state := .unreachable, consistent := rfl },
    { fixtureObservation (fixtureSource 1) 12 (minutes 400) with
      contentHash := some (.lit "hash-1"), consistent := rfl },
    { fixtureObservation (fixtureSource 1) 13 (minutes 720) with
      contentHash := some (.lit "hash-1"), consistent := rfl }]

/-- The gate watches it: enough reads and no silence, but the window is clipped. -/
theorem changed_source_watched :
    let r := reliability changedHistory (some 360) (minutes (-720)) (minutes 720)
    r.verdict = .watch ∧ r.start = 0 ∧ r.expected = 2 ∧ r.successful = 3 ∧
      r.longestGap = some (minutes 400) ∧ r.detectionP95 = some (minutes 400) := by
  intro r
  obtain ⟨clipped, first, -, expected, successful, stop, pass, watch, longest, -, -, detected⟩ :=
    reliability_gate changedHistory 360 (minutes (-720)) (minutes 720) (by simp [changedHistory])
      (by decide)
  have isClipped : r.clipped = true := clipped.2 ⟨by decide, by decide⟩
  have later : ∀ o ∈ changedHistory, 0 ≤ o.observedAt := by decide
  have start : r.start = 0 := by
    refine (first isClipped).unique ⟨⟨_, List.mem_cons_self, by decide, rfl⟩, ?_⟩
    rintro t ⟨o, ho, -, rfl⟩
    exact later o ho
  have two : r.expected = 2 := by
    rw [expected, start]
    decide +kernel
  have three : r.successful = 3 := successful.trans (by decide)
  have silent : stopGap = 66600000000 := by decide
  refine ⟨watch.2 ⟨fun stopped => ?_, fun passed => ?_⟩, start, two, three, ?_, ?_⟩
  · rcases stop.1 stopped with few | ⟨x, y, begins, ends, long, -⟩
    · have percent := few.2
      rw [two, three] at percent
      norm_num at percent
    · rw [start] at begins
      have bound : minutes 720 = 43200000000 := by decide
      omega
  · rw [(pass.1 passed).2.notClipped] at isClipped
    cases isClipped
  · rw [longest, start]
    decide +kernel
  · obtain ⟨-, within, p95⟩ := detected (by decide +kernel)
    rw [p95, ← List.getElem?_eq_getElem within]
    decide +kernel

/-! ## What a PASS says about the schedule -/

/-- Half of the cadence. -/
def halfCadence (cadence : ℕ+) : Int := (cadence : ℕ) * (30 * 1000000)

/-- Reads that count as different checks of a schedule: pairwise at least half a
cadence apart. -/
def ApartBy (d : Int) (reads : List SourceObservation) : Prop :=
  reads.Pairwise fun a b => d ≤ b.observedAt - a.observedAt ∨ d ≤ a.observedAt - b.observedAt

/-- Reads that are sorted and leave no gap beyond policy contain reads half a
cadence apart that reach through the window. -/
theorem exists_apart {reads : List SourceObservation} {d : Int} (hd : 0 ≤ d)
    (hgaps : ∀ g ∈ readGaps start reads now, g ≤ stopGap) :
    ∃ picked : List SourceObservation, picked.Sublist reads ∧ ApartBy d picked ∧
      now - start ≤ picked.length * (d + stopGap) + stopGap := by
  have hsub := Gaps.spaced_sublist d start (reads.map (·.observedAt))
  obtain ⟨picked, hpicked, htimes⟩ := List.sublist_map_iff.1 hsub
  refine ⟨picked, hpicked, ?_, ?_⟩
  · have hapart := Gaps.spaced_apart hd start (reads.map (·.observedAt))
    rw [htimes, List.pairwise_map] at hapart
    exact hapart.imp .inl
  · have hbound := Gaps.window_le_spaced hd hgaps start le_rfl
    rw [htimes, List.length_map, nsmul_eq_mul] at hbound
    omega

/-- **What a PASS says.** At least 95 percent of the expected checks, counted as
rows, read the source inside the window; no stretch of the window beyond policy
went without one; and of those half a cadence apart there are enough that each,
with half a cadence and the longest gap allowed, covers the window. -/
theorem pass_covers_window (observations : List SourceObservation) (cadence : ℕ+)
    (start now : Int) (observed : observations ≠ []) (ordered : start ≤ now)
    (pass : (reliability observations (some cadence) start now).verdict = .pass) :
    95 / 100 * ((reliability observations (some cadence) start now).expected : ℚ) ≤
        (successfulReads observations start now).length ∧
      ¬ SilentTooLong observations start now ∧
      ∃ picked : List SourceObservation,
        picked.Sublist (successfulReads observations start now) ∧
          ApartBy (halfCadence cadence) picked ∧
          now - start ≤ picked.length * (halfCadence cadence + stopGap) + stopGap := by
  have measured := reliability_measured observed cadence start now
  obtain ⟨hnotStop, passes⟩ := (pass_iff observed ordered).1 pass
  have hclipped : isClipped observations start now = false := by
    have := passes.notClipped
    rwa [measured] at this
  have hstart : (reliability observations (some cadence) start now).start = start := by
    rw [measured]
    exact measuredFrom_of_not_clipped hclipped
  rw [stop_iff observed ordered, not_or, hstart] at hnotStop
  refine ⟨?_, hnotStop.2, exists_apart (by unfold halfCadence; positivity) fun g hg => ?_⟩
  · have := passes.completed
    rw [measured] at this ⊢
    exact this
  · by_contra hlong
    apply hnotStop.2
    have := (gap_beyond_policy_iff observations ordered).1
    rw [measuredFrom_of_not_clipped hclipped] at this
    exact this ⟨g, hg, by omega⟩

/-- A read before the window, then two reads within a microsecond. -/
def burstHistory : List SourceObservation :=
  [fixtureObservation (fixtureSource 1) 10 (minutes (-60)),
    fixtureObservation (fixtureSource 1) 11 (minutes 360),
    fixtureObservation (fixtureSource 1) 12 (minutes 360 + 1)]

theorem burst_covers_window :
    ∃ picked : List SourceObservation,
      picked.Sublist (successfulReads burstHistory 0 (minutes 720)) ∧
        ApartBy (halfCadence 360) picked ∧
        minutes 720 - 0 ≤ picked.length * (halfCadence 360 + stopGap) + stopGap :=
  (pass_covers_window burstHistory 360 0 (minutes 720) (by simp [burstHistory]) (by decide)
    (by decide +kernel)).2.2

/-- A burst passes, and no two reads of it are half a cadence apart. -/
theorem burst_passes :
    (reliability burstHistory (some 360) 0 (minutes 720)).verdict = .pass ∧
      (reliability burstHistory (some 360) 0 (minutes 720)).expected = 2 ∧
      ¬ ∃ picked : List SourceObservation,
        (∀ o ∈ picked, o ∈ burstHistory ∧ (0 ≤ o.observedAt ∧ o.observedAt ≤ minutes 720) ∧
          o.retrieval = .succeeded) ∧
        ApartBy (halfCadence 360) picked ∧
        95 / 100 * ((reliability burstHistory (some 360) 0 (minutes 720)).expected : ℚ) ≤
          picked.length := by
  have hexpected : (reliability burstHistory (some 360) 0 (minutes 720)).expected = 2 := by
    decide +kernel
  refine ⟨by decide +kernel, hexpected, ?_⟩
  rintro ⟨picked, hreads, hapart, hmany⟩
  have htime : ∀ o ∈ picked, o.observedAt = minutes 360 ∨ o.observedAt = minutes 360 + 1 := by
    intro o ho
    obtain ⟨hmem, hwindow, -⟩ := hreads o ho
    simp only [burstHistory, List.mem_cons, List.not_mem_nil, or_false] at hmem
    rcases hmem with rfl | rfl | rfl
    · exact absurd hwindow.1 (by decide)
    · exact .inl rfl
    · exact .inr rfl
  rw [hexpected] at hmany
  match picked, hapart, htime, hmany with
  | [], _, _, hmany => exact absurd hmany (by norm_num)
  | [o], _, _, hmany => exact absurd hmany (by norm_num)
  | a :: b :: rest, hapart, htime, _ =>
    have hdistance := (List.pairwise_cons.1 hapart).1 b List.mem_cons_self
    have ha := htime a List.mem_cons_self
    have hb := htime b (.tail _ List.mem_cons_self)
    have hhalf : halfCadence 360 = 10800000000 := by decide
    omega

end Gate

end PaxPivot
