import PaxPivot.Application.ReadServices
import PaxPivot.Library.Gaps
import PaxPivot.Library.NearestRank

/-!
# The source-health gate

`reliability` of `application/source_reliability.py`, in exact arithmetic: one
source's observations measured over a window, and the verdict on them.
-/

namespace PaxPivot

inductive Verdict where
  | pass | watch | stop | unknown
  deriving DecidableEq

structure SourceReliability where
  start : Int
  clipped : Bool
  expected : Int
  recorded : Nat
  successful : Nat
  completion : Option ℚ
  longestGap : Option Int
  gapsOverWindow : Nat
  hashed : Bool
  changes : Nat
  detectionP95 : Option Int
  verdict : Verdict
  deriving DecidableEq

/-- `timedelta(minutes=n)`. -/
def minutes (n : Int) : Int := n * (60 * 1000000)

def passCompletion : ℚ := 95

def stopCompletion : ℚ := 90

/-- `FRESHNESS_WINDOW + timedelta(hours=12)`. -/
def stopGap : Int := freshnessWindow + minutes (12 * 60)

/-! ## The parts of a measurement -/

/-- `sorted(observations, key=observed_at)`; the sort is stable. -/
def timeOrdered (observations : List SourceObservation) : List SourceObservation :=
  observations.insertionSort fun a b => a.observedAt ≤ b.observedAt

/-- `inside`: the observations in `[start, now]`, in time order. -/
def insideWindow (observations : List SourceObservation) (start now : Int) :
    List SourceObservation :=
  (timeOrdered observations).filter fun o => start ≤ o.observedAt && o.observedAt ≤ now

/-- `clipped`: the source was first observed inside the window. -/
def isClipped (observations : List SourceObservation) (start now : Int) : Bool :=
  !(insideWindow observations start now).isEmpty &&
    (timeOrdered observations).head?.any fun o => start ≤ o.observedAt

/-- `begin`: `inside[0].observed_at if clipped else start`. -/
def measuredFrom (observations : List SourceObservation) (start now : Int) : Int :=
  if isClipped observations start now then
    (insideWindow observations start now).head?.elim start (·.observedAt)
  else start

/-- `reads`: the successful observations in the window. -/
def successfulReads (observations : List SourceObservation) (start now : Int) :
    List SourceObservation :=
  (insideWindow observations start now).filter fun o => o.retrieval = .succeeded

/-- Truthiness of `content_hash`. -/
def hasHash (o : SourceObservation) : Bool := truthy (o.contentHash.map (·.text))

/-- `int((now - begin) / timedelta(minutes=cadence))`. The quotient is exact here and a float there;
both have the same integer part for windows shorter than `2 ^ 53` microseconds, 285 years. -/
def expectedChecks (cadence : ℕ+) (begin now : Int) : Int :=
  (now - begin).tdiv (minutes (cadence : ℕ))

/-- Percent of the expected checks that read the source. -/
def completionOf (successful : Nat) (expected : Int) : Option ℚ :=
  if expected ≠ 0 then some (min 100 (100 * successful / expected)) else none

/-- The gaps between successful reads, window edges included. -/
def readGaps (begin : Int) (reads : List SourceObservation) (now : Int) : List Int :=
  Gaps.gaps begin (reads.map (·.observedAt)) now

/-- Consecutive successful reads with two different hashes. -/
def hashChanges (reads : List SourceObservation) :
    List (SourceObservation × SourceObservation) :=
  (Gaps.pairwise reads).filter fun p =>
    hasHash p.1 && hasHash p.2 && p.1.contentHash ≠ p.2.contentHash

/-- `latencies`: the gap before each change was seen, in increasing order. -/
def detectionGaps (reads : List SourceObservation) : List Int :=
  ((hashChanges reads).map fun p => p.2.observedAt - p.1.observedAt).insertionSort (· ≤ ·)

/-- The verdict on the measures of a source with a cadence and a history. -/
def gateVerdict (clipped hashed : Bool) (completion : Option ℚ) (longest p95 : Option Int) :
    Verdict :=
  -- Full hash coverage is a precondition: a quick change in a few hashed reads cannot pass.
  let detectionOk := hashed && p95.all (· ≤ freshnessWindow)
  if completion.any (· < stopCompletion) || longest.any (· > stopGap) then .stop
  else if !clipped && completion.any (· ≥ passCompletion) && detectionOk then .pass
  else .watch

def reliability (observations : List SourceObservation) (cadenceMinutes : Option ℕ+)
    (start now : Int) : SourceReliability :=
  let history := timeOrdered observations
  let inside := insideWindow observations start now
  let clipped := isClipped observations start now
  let begin := measuredFrom observations start now
  let reads := successfulReads observations start now
  let hashed := !reads.isEmpty && reads.all hasHash
  match cadenceMinutes, history with
  | some cadence, _ :: _ =>
    let expected := expectedChecks cadence begin now
    let completion := completionOf reads.length expected
    let gaps := readGaps begin reads now
    let latencies := detectionGaps reads
    let p95 := NearestRank.percentile (95 / 100) latencies
    let longest := gaps.max?
    { start := begin
      clipped
      expected
      recorded := inside.length
      successful := reads.length
      completion
      longestGap := longest
      gapsOverWindow := gaps.countP (· > freshnessWindow)
      hashed
      changes := latencies.length
      detectionP95 := p95
      verdict := gateVerdict clipped hashed completion longest p95 }
  | _, _ =>
    { start := begin
      clipped
      expected := 0
      recorded := inside.length
      successful := reads.length
      completion := none
      longestGap := none
      gapsOverWindow := 0
      hashed
      changes := 0
      detectionP95 := none
      verdict := .unknown }

/-! ## The window -/

section Window

variable {observations : List SourceObservation} {start now : Int} {o : SourceObservation}

theorem mem_timeOrdered : o ∈ timeOrdered observations ↔ o ∈ observations :=
  List.mem_insertionSort _

instance observedAtTotal : Std.Total fun a b : SourceObservation => a.observedAt ≤ b.observedAt :=
  ⟨fun _ _ => le_total _ _⟩

instance observedAtTrans : IsTrans SourceObservation fun a b => a.observedAt ≤ b.observedAt :=
  ⟨fun _ _ _ => le_trans⟩

theorem timeOrdered_sorted (observations : List SourceObservation) :
    (timeOrdered observations).Pairwise fun a b => a.observedAt ≤ b.observedAt :=
  List.pairwise_insertionSort _ _

theorem timeOrdered_ne_nil (h : observations ≠ []) : timeOrdered observations ≠ [] := by
  intro hnil
  obtain ⟨o, ho⟩ := List.exists_mem_of_ne_nil _ h
  have := mem_timeOrdered.2 ho
  rw [hnil] at this
  cases this

theorem mem_insideWindow :
    o ∈ insideWindow observations start now ↔
      o ∈ observations ∧ start ≤ o.observedAt ∧ o.observedAt ≤ now := by
  unfold insideWindow
  rw [List.mem_filter, mem_timeOrdered]
  simp

theorem mem_successfulReads :
    o ∈ successfulReads observations start now ↔
      o ∈ observations ∧ (start ≤ o.observedAt ∧ o.observedAt ≤ now) ∧
        o.retrieval = .succeeded := by
  unfold successfulReads
  rw [List.mem_filter, mem_insideWindow, decide_eq_true_eq, and_assoc]

theorem insideWindow_sorted (observations : List SourceObservation) (start now : Int) :
    (insideWindow observations start now).Pairwise fun a b => a.observedAt ≤ b.observedAt :=
  (timeOrdered_sorted observations).filter _

theorem isClipped_iff :
    isClipped observations start now = true ↔
      (∃ o ∈ observations, start ≤ o.observedAt ∧ o.observedAt ≤ now) ∧
        ∀ o ∈ observations, start ≤ o.observedAt := by
  have hinside : (!(insideWindow observations start now).isEmpty) = true ↔
      ∃ o ∈ observations, start ≤ o.observedAt ∧ o.observedAt ≤ now := by
    rw [Bool.not_eq_true', List.isEmpty_eq_false_iff_exists_mem]
    simp only [mem_insideWindow]
  unfold isClipped
  rw [Bool.and_eq_true, hinside, and_congr_right_iff]
  rintro ⟨o, ho, -⟩
  have hsorted := timeOrdered_sorted observations
  have hmem : ∀ q, q ∈ timeOrdered observations ↔ q ∈ observations := fun q => mem_timeOrdered
  cases hhistory : timeOrdered observations with
  | nil =>
    rw [← hmem, hhistory] at ho
    cases ho
  | cons first rest =>
    rw [hhistory] at hsorted hmem
    simp only [List.head?_cons, Option.any_some, decide_eq_true_eq]
    constructor
    · intro hfirst q hq
      rcases List.mem_cons.1 ((hmem q).2 hq) with rfl | hq
      · exact hfirst
      · exact hfirst.trans ((List.pairwise_cons.1 hsorted).1 q hq)
    · intro hall
      exact hall first ((hmem first).1 List.mem_cons_self)

/-- What the measurement starts from. -/
theorem measuredFrom_of_clipped (h : isClipped observations start now = true) :
    IsLeast {t | ∃ o ∈ observations, (start ≤ o.observedAt ∧ o.observedAt ≤ now) ∧
      o.observedAt = t} (measuredFrom observations start now) := by
  obtain ⟨⟨o, ho, hwindow⟩, -⟩ := isClipped_iff.1 h
  have hsorted := insideWindow_sorted observations start now
  have hmem : ∀ q, q ∈ insideWindow observations start now ↔
      q ∈ observations ∧ start ≤ q.observedAt ∧ q.observedAt ≤ now := fun q => mem_insideWindow
  unfold measuredFrom
  rw [if_pos h]
  cases hinside : insideWindow observations start now with
  | nil =>
    have := (hmem o).2 ⟨ho, hwindow⟩
    rw [hinside] at this
    cases this
  | cons first rest =>
    rw [hinside] at hsorted hmem
    refine ⟨⟨first, ?_⟩, ?_⟩
    · have := (hmem first).1 List.mem_cons_self
      exact ⟨this.1, this.2, rfl⟩
    · rintro t ⟨q, hq, hqwindow, rfl⟩
      rcases List.mem_cons.1 ((hmem q).2 ⟨hq, hqwindow⟩) with rfl | hrest
      · exact le_rfl
      · exact (List.pairwise_cons.1 hsorted).1 q hrest

theorem measuredFrom_of_not_clipped (h : isClipped observations start now = false) :
    measuredFrom observations start now = start := by
  unfold measuredFrom
  rw [if_neg (by simp [h])]

theorem start_le_measuredFrom (observations : List SourceObservation) (ordered : start ≤ now) :
    start ≤ measuredFrom observations start now ∧ measuredFrom observations start now ≤ now := by
  cases h : isClipped observations start now with
  | true =>
    obtain ⟨⟨o, -, hwindow, hat⟩, -⟩ := measuredFrom_of_clipped h
    omega
  | false =>
    rw [measuredFrom_of_not_clipped h]
    omega

/-- The successful reads lie between the edges of the measurement, in time order. -/
theorem reads_ordered (ordered : start ≤ now) :
    Gaps.Ordered (measuredFrom observations start now)
      ((successfulReads observations start now).map (·.observedAt)) now := by
  have hsorted : ((successfulReads observations start now).map (·.observedAt)).Pairwise
      (· ≤ ·) := List.pairwise_map.2 ((insideWindow_sorted observations start now).filter _)
  have hread : ∀ t ∈ (successfulReads observations start now).map (·.observedAt),
      measuredFrom observations start now ≤ t ∧ t ≤ now := by
    intro t ht
    obtain ⟨o, ho, rfl⟩ := List.mem_map.1 ht
    obtain ⟨hmem, hwindow, -⟩ := mem_successfulReads.1 ho
    refine ⟨?_, hwindow.2⟩
    cases h : isClipped observations start now with
    | true => exact (measuredFrom_of_clipped h).2 ⟨o, hmem, hwindow, rfl⟩
    | false =>
      rw [measuredFrom_of_not_clipped h]
      exact hwindow.1
  unfold Gaps.Ordered
  rw [List.cons_append, List.pairwise_cons, List.pairwise_append]
  refine ⟨fun t ht => ?_, hsorted, List.pairwise_singleton _ _, fun t ht t' ht' => ?_⟩
  · rcases List.mem_append.1 ht with ht | ht
    · exact (hread t ht).1
    · rw [List.mem_singleton.1 ht]
      exact (start_le_measuredFrom observations ordered).2
  · rw [List.mem_singleton.1 ht']
    exact (hread t ht).2

end Window

/-! ## The measures -/

section Measures

variable {observations : List SourceObservation} {start now : Int} {o : SourceObservation}
  {cadence : ℕ+} {begin : Int} {reads : List SourceObservation} {expected : Int}

theorem hasHash_iff : hasHash o = true ↔ o.contentHash ≠ none := by
  unfold hasHash truthy
  cases h : o.contentHash with
  | none => simp
  | some hash => simp [hash.text_ne_empty]

theorem expectedChecks_eq_floor (h : begin ≤ now) :
    expectedChecks cadence begin now =
      ⌊((now - begin : Int) : ℚ) / (minutes (cadence : ℕ) : Int)⌋ := by
  have hnonneg : 0 ≤ now - begin := by omega
  have hminutes : minutes (cadence : ℕ) = ((cadence : ℕ) * (60 * 1000000) : ℕ) := by
    unfold minutes
    push_cast
    rfl
  unfold expectedChecks
  rw [Int.tdiv_eq_ediv_of_nonneg hnonneg, hminutes, Int.cast_natCast,
    Rat.floor_intCast_div_natCast]

theorem expectedChecks_nonneg (h : begin ≤ now) : 0 ≤ expectedChecks cadence begin now := by
  have hminutes : 0 ≤ minutes (cadence : ℕ) := by
    unfold minutes
    positivity
  exact Int.tdiv_nonneg (by omega) hminutes

/-- The cap at 100 percent plays no part in a comparison below 100. -/
theorem completion_lt_iff {n : Nat} (h : 0 ≤ expected) :
    (completionOf n expected).any (· < stopCompletion) = true ↔
      0 < expected ∧ (n : ℚ) < 90 / 100 * expected := by
  unfold completionOf stopCompletion
  by_cases hzero : expected = 0
  · simp [hzero]
  · have hpos : 0 < expected := by omega
    have hcast : (0 : ℚ) < expected := by exact_mod_cast hpos
    rw [if_pos hzero, Option.any_some, decide_eq_true_eq, min_lt_iff, div_lt_iff₀ hcast]
    constructor
    · rintro (h | h)
      · exact absurd h (by norm_num)
      · exact ⟨hpos, by linarith⟩
    · intro h
      exact .inr (by linarith)

theorem completion_ge_iff {n : Nat} (h : 0 ≤ expected) :
    (completionOf n expected).any (· ≥ passCompletion) = true ↔
      0 < expected ∧ 95 / 100 * expected ≤ (n : ℚ) := by
  unfold completionOf passCompletion
  by_cases hzero : expected = 0
  · simp [hzero]
  · have hpos : 0 < expected := by omega
    have hcast : (0 : ℚ) < expected := by exact_mod_cast hpos
    rw [if_pos hzero, Option.any_some, decide_eq_true_eq, ge_iff_le, le_min_iff,
      le_div_iff₀ hcast]
    constructor
    · intro h
      exact ⟨hpos, by linarith⟩
    · intro h
      exact ⟨by norm_num, by linarith⟩

/-- The longest gap exceeds a bound exactly when some gap does. -/
theorem longest_gt_iff (gaps : List Int) (d : Int) :
    gaps.max?.any (· > d) = true ↔ ∃ g ∈ gaps, d < g := by
  cases hmax : gaps.max? with
  | none =>
    rw [List.max?_eq_none_iff.1 hmax]
    simp
  | some longest =>
    obtain ⟨hmem, hle⟩ := List.max?_eq_some_iff.1 hmax
    rw [Option.any_some, decide_eq_true_eq]
    constructor
    · intro h
      exact ⟨longest, hmem, h⟩
    · rintro ⟨g, hg, hd⟩
      have := hle g hg
      omega

/-- **A gap beyond policy is a stretch without a successful read.** -/
theorem gap_beyond_policy_iff (observations : List SourceObservation) (ordered : start ≤ now) :
    (∃ g ∈ readGaps (measuredFrom observations start now)
        (successfulReads observations start now) now, stopGap < g) ↔
      ∃ x y, measuredFrom observations start now ≤ x ∧ y ≤ now ∧ stopGap < y - x ∧
        ∀ o ∈ observations, o.retrieval = .succeeded →
          ¬ (x < o.observedAt ∧ o.observedAt < y) := by
  unfold readGaps
  rw [Gaps.exists_gap_iff (reads_ordered ordered)]
  apply exists_congr
  intro x
  apply exists_congr
  intro y
  refine and_congr_right fun hx => and_congr_right fun hy => and_congr_right fun _ => ?_
  constructor
  · intro hempty o ho hsucceeded hbetween
    have hstart := (start_le_measuredFrom observations ordered).1
    refine hempty o.observedAt (List.mem_map.2 ⟨o, mem_successfulReads.2 ⟨ho, ?_, hsucceeded⟩, rfl⟩)
      hbetween
    omega
  · intro hempty t ht
    obtain ⟨o, ho, rfl⟩ := List.mem_map.1 ht
    obtain ⟨hmem, -, hsucceeded⟩ := mem_successfulReads.1 ho
    exact hempty o hmem hsucceeded

/-- The changes that were seen within the freshness window. -/
def seenInTime (reads : List SourceObservation) : Nat :=
  (hashChanges reads).countP fun p => p.2.observedAt - p.1.observedAt ≤ freshnessWindow

theorem length_detectionGaps : (detectionGaps reads).length = (hashChanges reads).length := by
  unfold detectionGaps
  rw [List.length_insertionSort, List.length_map]

theorem detectionGaps_sorted : (detectionGaps reads).Pairwise (· ≤ ·) := by
  unfold detectionGaps
  exact List.pairwise_insertionSort _ _

/-- **Detection is in time when 95 percent of the changes were seen in time.** -/
theorem detection_in_time_iff :
    (NearestRank.percentile (95 / 100) (detectionGaps reads)).all (· ≤ freshnessWindow) = true ↔
      95 / 100 * ((hashChanges reads).length : ℚ) ≤ seenInTime reads := by
  have hcount : (detectionGaps reads).countP (· ≤ freshnessWindow) = seenInTime reads := by
    unfold detectionGaps seenInTime
    rw [(List.perm_insertionSort _ _).countP_eq, List.countP_map]
    rfl
  rw [← length_detectionGaps, ← hcount,
    ← NearestRank.percentile_le_iff detectionGaps_sorted (by norm_num) (by norm_num)]
  cases NearestRank.percentile (95 / 100) (detectionGaps reads) <;> simp

end Measures

/-! ## The verdict -/

section Verdicts

variable {clipped hashed : Bool} {completion : Option ℚ} {longest p95 : Option Int}

theorem gateVerdict_stop_iff :
    gateVerdict clipped hashed completion longest p95 = .stop ↔
      completion.any (· < stopCompletion) = true ∨ longest.any (· > stopGap) = true := by
  rw [← Bool.or_eq_true]
  unfold gateVerdict
  dsimp only
  split
  · simp_all
  · split <;> simp_all

theorem gateVerdict_pass_iff :
    gateVerdict clipped hashed completion longest p95 = .pass ↔
      ¬ gateVerdict clipped hashed completion longest p95 = .stop ∧ clipped = false ∧
        completion.any (· ≥ passCompletion) = true ∧ hashed = true ∧
        p95.all (· ≤ freshnessWindow) = true := by
  rw [gateVerdict_stop_iff, ← Bool.or_eq_true]
  unfold gateVerdict
  dsimp only
  split
  · simp_all
  · split <;> simp_all

theorem gateVerdict_watch_iff :
    gateVerdict clipped hashed completion longest p95 = .watch ↔
      gateVerdict clipped hashed completion longest p95 ≠ .stop ∧
        gateVerdict clipped hashed completion longest p95 ≠ .pass := by
  unfold gateVerdict
  dsimp only
  split
  · simp
  · split <;> simp

end Verdicts

end PaxPivot
