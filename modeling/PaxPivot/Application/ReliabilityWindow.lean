import PaxPivot.Application.ReliabilityGate
import PaxPivot.Library.Slots
import PaxPivot.Library.StableSort

/-!
# What the measured window depends on

The whole history decides whether a source was observed at all and whether its
window is clipped; the rest of the report looks at the window only. From this:
what observations outside the window change, and that reads in every slot of the
cadence never stop a source.
-/

namespace PaxPivot

theorem timeOrdered_filter (p : SourceObservation → Bool) (observations : List SourceObservation) :
    (timeOrdered observations).filter p = timeOrdered (observations.filter p) :=
  StableSort.filter_insertionSort p observations

section Window

variable {observations kept : List SourceObservation} {start now : Int}

/-- Histories with the same rows in the window, in the same order. -/
def SameWindow (start now : Int) (observations kept : List SourceObservation) : Prop :=
  (observations.filter fun o => start ≤ o.observedAt && o.observedAt ≤ now) =
    kept.filter fun o => start ≤ o.observedAt && o.observedAt ≤ now

theorem insideWindow_congr (same : SameWindow start now observations kept) :
    insideWindow observations start now = insideWindow kept start now := by
  unfold insideWindow
  rw [timeOrdered_filter, timeOrdered_filter, same]

/-- **The report depends on the rows of the window, on whether it is clipped, and, with
a cadence, on whether there is a history.** -/
theorem reliability_congr {cadence : Option ℕ+} (same : SameWindow start now observations kept)
    (clipped : isClipped observations start now = isClipped kept start now)
    (observed : cadence ≠ none → (observations = [] ↔ kept = [])) :
    reliability observations cadence start now = reliability kept cadence start now := by
  have inside := insideWindow_congr same
  have begin : measuredFrom observations start now = measuredFrom kept start now := by
    unfold measuredFrom
    rw [clipped, inside]
  have reads : successfulReads observations start now = successfulReads kept start now := by
    unfold successfulReads
    rw [inside]
  cases cadence with
  | none =>
    unfold reliability
    dsimp only
    rw [clipped, inside, begin, reads]
  | some cadence =>
    by_cases hkept : kept = []
    · rw [(observed (by simp)).2 hkept, hkept]
    · have hobserved : observations ≠ [] := fun h => hkept ((observed (by simp)).1 h)
      rw [reliability_measured hobserved, reliability_measured hkept, clipped, inside, begin, reads]

end Window

/-! ## Observations after the report -/

/-- The observations made by the time of the report. -/
def observedBy (now : Int) (observations : List SourceObservation) : List SourceObservation :=
  observations.filter fun o => o.observedAt ≤ now

/-- What is observed after the report plays no part in it; a source observed only then
reads as one that was never observed. -/
structure FutureIgnored (observations : List SourceObservation) (cadence : Option ℕ+)
    (start now : Int) : Prop where
  same : reliability observations cadence start now =
    reliability (observedBy now observations) cadence start now
  unseen : (∀ o ∈ observations, now < o.observedAt) →
    (reliability observations cadence start now).verdict = .unknown

section Future

variable {observations : List SourceObservation} {start now : Int}

theorem observedBy_sameWindow :
    SameWindow start now observations (observedBy now observations) := by
  unfold SameWindow observedBy
  rw [List.filter_filter]
  apply List.filter_congr
  intro o _
  by_cases h : o.observedAt ≤ now <;> simp [h]

/-- Only what was observed by now can clip the window. -/
theorem isClipped_observedBy :
    isClipped observations start now = isClipped (observedBy now observations) start now := by
  rw [Bool.eq_iff_iff, isClipped_iff, isClipped_iff]
  simp only [observedBy, List.mem_filter, decide_eq_true_eq]
  constructor
  · rintro ⟨⟨o, ho, hwindow⟩, all⟩
    exact ⟨⟨o, ⟨ho, hwindow.2⟩, hwindow⟩, fun q hq => all q hq.1⟩
  · rintro ⟨⟨o, ⟨ho, -⟩, hwindow⟩, all⟩
    refine ⟨⟨o, ho, hwindow⟩, fun q hq => ?_⟩
    by_cases h : q.observedAt ≤ now
    · exact all q ⟨hq, h⟩
    · omega

theorem gateVerdict_ne_unknown {clipped hashed : Bool} {completion : Option ℚ}
    {longest p95 : Option Int} : gateVerdict clipped hashed completion longest p95 ≠ .unknown := by
  unfold gateVerdict
  dsimp only
  split
  · decide
  · split <;> decide

theorem reliability_unmeasured {cadence : Option ℕ+} (h : cadence = none ∨ observations = []) :
    (reliability observations cadence start now).verdict = .unknown := by
  rcases h with rfl | rfl
  · rfl
  · cases cadence <;> rfl

end Future

/-- **What is observed after the report plays no part in it unless a source with a
cadence was observed only then.** -/
theorem futureIgnored_iff (observations : List SourceObservation) (cadence : Option ℕ+)
    (start now : Int) :
    FutureIgnored observations cadence start now ↔
      cadence = none ∨ observations = [] ∨ ∃ o ∈ observations, o.observedAt ≤ now := by
  constructor
  · intro ignored
    by_contra h
    simp only [not_or, not_exists, not_and, not_le] at h
    obtain ⟨hcadence, hobserved, later⟩ := h
    obtain ⟨cadence, rfl⟩ := Option.ne_none_iff_exists'.1 hcadence
    have unknown := ignored.unseen later
    rw [reliability_measured hobserved] at unknown
    exact gateVerdict_ne_unknown unknown
  · intro h
    refine ⟨reliability_congr observedBy_sameWindow isClipped_observedBy fun hcadence => ?_, ?_⟩
    · rcases h with rfl | rfl | ⟨o, ho, hnow⟩
      · exact absurd rfl hcadence
      · simp [observedBy]
      · have seen : o ∈ observedBy now observations := List.mem_filter.2 ⟨ho, by simpa using hnow⟩
        exact iff_of_false (List.ne_nil_of_mem ho) (List.ne_nil_of_mem seen)
    · intro later
      rcases h with h | h | ⟨o, ho, hnow⟩
      · exact reliability_unmeasured (.inl h)
      · exact reliability_unmeasured (.inr h)
      · exact absurd hnow (not_le.2 (later o ho))

/-- A source first read a minute after a day's report is stopped by it. -/
theorem late_read_stops :
    (reliability [fixtureObservation (fixtureSource 1) 10 (minutes 1441)] (some 360) 0
        (minutes 1440)).verdict = .stop ∧
      ¬ FutureIgnored [fixtureObservation (fixtureSource 1) 10 (minutes 1441)] (some 360) 0
        (minutes 1440) := by
  have stopped : (reliability [fixtureObservation (fixtureSource 1) 10 (minutes 1441)] (some 360) 0
      (minutes 1440)).verdict = .stop := by decide +kernel
  refine ⟨stopped, fun ignored => ?_⟩
  have unknown := ignored.unseen (by
    intro o ho
    obtain rfl := List.mem_singleton.1 ho
    decide)
  rw [stopped] at unknown
  cases unknown

/-! ## Reads in every slot -/

/-- `[begin + k c, begin + (k + 1) c)` holds a successful read for every `k` that
makes it end by `now`. -/
def SlotsRead (observations : List SourceObservation) (cadence : ℕ+) (begin now : Int) : Prop :=
  ∀ k : ℕ, (k + 1) * minutes (cadence : ℕ) ≤ now - begin →
    ∃ o ∈ observations, o.retrieval = .succeeded ∧
      begin + k * minutes (cadence : ℕ) ≤ o.observedAt ∧
      o.observedAt < begin + (k + 1) * minutes (cadence : ℕ)

section Slots

variable {observations : List SourceObservation} {cadence : ℕ+} {start now : Int}

theorem minutes_cadence_pos (cadence : ℕ+) : 0 < minutes (cadence : ℕ) := by
  have := cadence.pos
  unfold minutes
  omega

/-- The reads of the slots are reads of the window. -/
theorem SlotsRead.filled
    (slots : SlotsRead observations cadence (measuredFrom observations start now) now)
    (ordered : start ≤ now) :
    Slots.Filled (measuredFrom observations start now) (minutes (cadence : ℕ)) now
      ((successfulReads observations start now).map (·.observedAt)) := by
  intro k hk
  obtain ⟨o, ho, succeeded, low, high⟩ := slots k hk
  have width := minutes_cadence_pos cadence
  have edge := (start_le_measuredFrom observations ordered).1
  have past : 0 ≤ (k : Int) * minutes (cadence : ℕ) := by positivity
  refine ⟨o.observedAt, List.mem_map.2 ⟨o, mem_successfulReads.2 ⟨ho, ?_, succeeded⟩, rfl⟩,
    low, high⟩
  omega

/-- Every expected check read the source. -/
theorem SlotsRead.expected_le
    (slots : SlotsRead observations cadence (measuredFrom observations start now) now)
    (ordered : start ≤ now) :
    expectedChecks cadence (measuredFrom observations start now) now ≤
      (successfulReads observations start now).length := by
  have edge := (start_le_measuredFrom observations ordered).2
  have enough := (slots.filled ordered).le_length (minutes_cadence_pos cadence)
  unfold expectedChecks
  rw [Int.tdiv_eq_ediv_of_nonneg (by omega)]
  simpa using enough

theorem completionOf_of_enough {n : Nat} {expected : Int} (positive : 0 < expected)
    (enough : expected ≤ n) : completionOf n expected = some 100 := by
  have hpos : (0 : ℚ) < expected := by exact_mod_cast positive
  have hle : (expected : ℚ) ≤ n := by exact_mod_cast enough
  unfold completionOf
  rw [if_pos (by omega), min_eq_left]
  rw [le_div_iff₀ hpos]
  linarith

/-- No stretch beyond policy passes without a read. -/
theorem SlotsRead.not_silent (short : minutes (cadence : ℕ) ≤ minutes 555)
    (slots : SlotsRead observations cadence (measuredFrom observations start now) now) :
    ¬ SilentTooLong observations (measuredFrom observations start now) now := by
  rintro ⟨x, y, hx, hy, long, silent⟩
  -- Policy allows just two slots of the longest cadence.
  have allowed : stopGap = 2 * minutes 555 := by decide
  have filled : Slots.Filled (measuredFrom observations start now) (minutes (cadence : ℕ)) now
      ((observations.filter fun o => o.retrieval = .succeeded).map (·.observedAt)) := by
    intro k hk
    obtain ⟨o, ho, succeeded, low, high⟩ := slots k hk
    exact ⟨o.observedAt, List.mem_map.2 ⟨o, List.mem_filter.2 ⟨ho, by simpa using succeeded⟩, rfl⟩,
      low, high⟩
  obtain ⟨t, ht, hlow, hhigh⟩ :=
    filled.exists_between (minutes_cadence_pos cadence) hx hy (by omega)
  obtain ⟨o, ho, rfl⟩ := List.mem_map.1 ht
  obtain ⟨hmem, succeeded⟩ := List.mem_filter.1 ho
  exact silent o hmem (by simpa using succeeded) ⟨hlow, hhigh⟩

end Slots

/-- **No false alarm.** Where every complete slot of the cadence holds a successful
read, a source with a cadence of at most 9 h 15 min is not stopped, and every expected
check counts as made. -/
theorem slots_never_stop (observations : List SourceObservation) (cadence : ℕ+) (start now : Int)
    (observed : observations ≠ []) (ordered : start ≤ now)
    (short : minutes (cadence : ℕ) ≤ minutes 555)
    (slots : SlotsRead observations cadence
      (reliability observations (some cadence) start now).start now) :
    (reliability observations (some cadence) start now).verdict ≠ .stop ∧
      (0 < (reliability observations (some cadence) start now).expected →
        (reliability observations (some cadence) start now).completion = some 100) := by
  have measured := reliability_measured observed cadence start now
  have begin : (reliability observations (some cadence) start now).start =
      measuredFrom observations start now := by rw [measured]
  rw [begin] at slots
  have enough := slots.expected_le ordered
  constructor
  · intro stop
    rcases (stop_iff observed ordered).1 stop with ⟨positive, few⟩ | silent
    · rw [measured] at positive few
      simp only at positive few
      have enough : ((expectedChecks cadence (measuredFrom observations start now) now : Int) : ℚ) ≤
          (successfulReads observations start now).length := by exact_mod_cast enough
      have positive : (0 : ℚ) <
          (expectedChecks cadence (measuredFrom observations start now) now : Int) := by
        exact_mod_cast positive
      linarith
    · rw [begin] at silent
      exact slots.not_silent short silent
  · rw [measured]
    exact fun positive => completionOf_of_enough positive enough

/-- A read at the start of one slot and at the end of the next. -/
def adverseHistory : List SourceObservation :=
  [fixtureObservation (fixtureSource 1) 10 0,
    fixtureObservation (fixtureSource 1) 11 (minutes 1110 - 1)]

theorem adverse_reads_never_stop :
    (reliability adverseHistory (some 555) 0 (minutes 1110)).verdict ≠ .stop ∧
      (0 < (reliability adverseHistory (some 555) 0 (minutes 1110)).expected →
        (reliability adverseHistory (some 555) 0 (minutes 1110)).completion = some 100) := by
  refine slots_never_stop adverseHistory 555 0 (minutes 1110) (by simp [adverseHistory])
    (by decide) (by decide) ?_
  have begin : (reliability adverseHistory (some 555) 0 (minutes 1110)).start = 0 := by
    decide +kernel
  have width : minutes ((555 : ℕ+) : ℕ) = 33300000000 := by decide
  have window : minutes 1110 = 66600000000 := by decide
  rw [begin]
  intro k hk
  rw [width, window] at hk
  rw [width]
  obtain rfl | rfl : k = 0 ∨ k = 1 := by omega
  · exact ⟨_, List.mem_cons_self, rfl, by decide, by decide⟩
  · exact ⟨_, List.mem_cons_of_mem _ List.mem_cons_self, rfl, by decide, by decide⟩

end PaxPivot
