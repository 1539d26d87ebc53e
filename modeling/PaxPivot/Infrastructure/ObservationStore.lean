import Mathlib
import PaxPivot.Domain.Source
import PaxPivot.Library.RowNumber
import PaxPivot.Library.Statements
import PaxPivot.Library.Supersession

/-!
# The observation table

`source_observations` of `infrastructure/database.py` and the queries of
`SqlSourceObservationRepository`. An insert is checked against the rows already
there; the current observation of a source is the greatest of its rows that no
row supersedes.
-/

namespace PaxPivot

/-- A row: the observation, and the server's `now()` when it was inserted. -/
structure ObservationRow where
  observation : SourceObservation
  recordedAt : Int
  deriving DecidableEq

namespace ObservationRow

def observationId (r : ObservationRow) : UUID := r.observation.observationId

def sourceId (r : ObservationRow) : UUID := r.observation.sourceId

def supersedes (r : ObservationRow) : Option UUID := r.observation.supersedesObservationId

/-- `ORDER BY observed_at, recorded_at, observation_id`. -/
def order (r : ObservationRow) : Int ×ₗ Int ×ₗ UUID :=
  toLex (r.observation.observedAt, toLex (r.recordedAt, r.observationId))

theorem observationId_of_order {a b : ObservationRow} (h : a.order = b.order) :
    a.observationId = b.observationId := by
  have pairs := congrArg ofLex h
  exact congrArg (fun p => (ofLex p.2).2) pairs

end ObservationRow

open ObservationRow (observationId sourceId supersedes order)

/-! ## Inserting -/

/-- The constraints of the table that look at other rows of it. -/
inductive ObservationConstraint where
  | primaryKey | supersedesSameSource
  deriving DecidableEq

/-- `INSERT INTO source_observations`, one row a statement. -/
def insertObservation (rows : List ObservationRow) (row : ObservationRow) :
    Except ObservationConstraint (List ObservationRow) :=
  if rows.any fun r => r.observationId = row.observationId then .error .primaryKey
  else if row.supersedes.any fun i =>
      !rows.any fun r => r.observationId = i && r.sourceId = row.sourceId then
    .error .supersedesSameSource
  else .ok (rows ++ [row])

/-- Inserts one after another, each of them accepted. -/
def insertAll (rows appended : List ObservationRow) :
    Except ObservationConstraint (List ObservationRow) :=
  appended.foldlM insertObservation rows

/-- A table that accepted inserts fill. -/
abbrev Stored : List ObservationRow → Prop :=
  Supersession.Reachable observationId sourceId supersedes

section Insert

variable {rows rows' appended : List ObservationRow} {row : ObservationRow}

theorem insertObservation_ok_iff :
    insertObservation rows row = .ok rows' ↔
      Supersession.Accepts observationId sourceId supersedes rows row ∧ rows' = rows ++ [row] := by
  unfold insertObservation
  constructor
  · intro h
    split at h
    · cases h
    rename_i fresh
    split at h
    · cases h
    rename_i named
    refine ⟨⟨fun r hr => ?_, fun i hi => ?_⟩, by cases h; rfl⟩
    · simp only [List.any_eq_true, decide_eq_true_eq, not_exists, not_and] at fresh
      exact fresh r hr
    · rw [Option.mem_def] at hi
      simpa [hi] using named
  · rintro ⟨accepted, rfl⟩
    rw [if_neg, if_neg]
    · cases hs : row.supersedes with
      | none => simp
      | some i => simpa using accepted.reference i hs
    · simpa using accepted.fresh

/-- A run of accepted inserts continues any earlier state. -/
theorem insertAll_later {start : List ObservationRow}
    (before : Supersession.Later observationId sourceId supersedes start rows)
    (h : insertAll rows appended = .ok rows') :
    Supersession.Later observationId sourceId supersedes start rows' := by
  unfold insertAll at h
  apply Statements.keeps _ before h
  intro rows row mid before hins
  obtain ⟨accepted, rfl⟩ := insertObservation_ok_iff.1 hins
  exact .append before accepted

theorem insertAll_stored (h : insertAll [] appended = .ok rows) : Stored rows :=
  Supersession.Reachable.empty.later (insertAll_later .refl h)

/-- Every reachable table is what a run of accepted inserts left. -/
theorem Stored.inserts (h : Stored rows) : insertAll [] rows = .ok rows := by
  induction h with
  | empty => rfl
  | append before accepted ih =>
    unfold insertAll at ih ⊢
    rw [List.foldlM_append, ih]
    have step := insertObservation_ok_iff.2 ⟨accepted, rfl⟩
    simp only [bind, Except.bind, List.foldlM_cons, step, List.foldlM_nil, pure, Except.pure]

end Insert

/-! ## Currentness -/

/-- The rows that the query behind `latest_per_source` returns. -/
def latestRows (rows : List ObservationRow) : List ObservationRow :=
  RowNumber.firsts sourceId order (Supersession.leaves observationId supersedes rows)

/-- `latest_per_source`: the dictionary built from those rows, a later row
replacing an earlier one of the same source. -/
def latestPerSource (rows : List ObservationRow) (source : UUID) : Option SourceObservation :=
  ((latestRows rows).filter fun r => r.sourceId = source).getLast?.map (·.observation)

/-- What the current row of a source is: stored, superseded by no row, and the
greatest such row of the source. -/
structure Current (rows : List ObservationRow) (row : ObservationRow) : Prop where
  stored : row ∈ rows
  unsuperseded : ∀ q ∈ rows, q.supersedes ≠ some row.observationId
  greatest : ∀ q ∈ rows, q.sourceId = row.sourceId →
    (∀ p ∈ rows, p.supersedes ≠ some q.observationId) → q.order ≤ row.order

section Current

variable {rows rows' appended : List ObservationRow} {row : ObservationRow}

theorem mem_latestRows_iff : row ∈ latestRows rows ↔ Current rows row := by
  unfold latestRows
  rw [RowNumber.mem_firsts_iff, Supersession.mem_leaves_iff]
  constructor
  · rintro ⟨⟨stored, unsuperseded⟩, greatest⟩
    refine ⟨stored, unsuperseded, fun q hq hsource hq' => ?_⟩
    exact greatest q (Supersession.mem_leaves_iff.2 ⟨hq, hq'⟩) hsource
  · rintro ⟨stored, unsuperseded, greatest⟩
    refine ⟨⟨stored, unsuperseded⟩, fun q hq hsource => ?_⟩
    obtain ⟨hq, hq'⟩ := Supersession.mem_leaves_iff.1 hq
    exact greatest q hq hsource hq'

/-- The query answers one row a source. -/
theorem latestRows_distinct (stored : Stored rows) : ((latestRows rows).map sourceId).Nodup := by
  have nodup : rows.Nodup := stored.distinct.of_map
  have ranked : ∀ a ∈ Supersession.leaves observationId supersedes rows,
      ∀ b ∈ Supersession.leaves observationId supersedes rows, a.order = b.order → a = b := by
    intro a ha b hb h
    rw [Supersession.mem_leaves_iff] at ha hb
    apply DistinctKeys.eq_of_key_eq stored.distinct ha.1 hb.1
    exact ObservationRow.observationId_of_order h
  exact RowNumber.firsts_distinct (nodup.filter _) ranked

/-- Looking a source up finds its current row and nothing else. -/
theorem latestPerSource_eq_some_iff (stored : Stored rows) {source : UUID}
    {o : SourceObservation} :
    latestPerSource rows source = some o ↔
      ∃ row, Current rows row ∧ row.sourceId = source ∧ row.observation = o := by
  have distinct := latestRows_distinct stored
  unfold latestPerSource
  constructor
  · intro h
    obtain ⟨row, hlast, rfl⟩ := Option.map_eq_some_iff.1 h
    have hmem := List.mem_filter.1 (List.mem_of_getLast? hlast)
    exact ⟨row, mem_latestRows_iff.1 hmem.1, by simpa using hmem.2, rfl⟩
  · rintro ⟨row, current, rfl, rfl⟩
    rw [DistinctKeys.filter_key distinct (mem_latestRows_iff.2 current)]
    rfl

theorem latestPerSource_eq_none_iff (stored : Stored rows) {source : UUID} :
    latestPerSource rows source = none ↔ ∀ row ∈ rows, row.sourceId ≠ source := by
  constructor
  · rintro h row hrow rfl
    obtain ⟨l, hl, hsource⟩ := stored.exists_leaf hrow
    obtain ⟨f, hf, hfsource⟩ : ∃ f ∈ latestRows rows, f.sourceId = l.sourceId :=
      RowNumber.exists_first hl
    have found := (latestPerSource_eq_some_iff stored).2
      ⟨f, mem_latestRows_iff.1 hf, hfsource.trans hsource, rfl⟩
    rw [h] at found
    cases found
  · intro h
    rw [Option.eq_none_iff_forall_ne_some]
    intro o ho
    obtain ⟨row, current, hsource, -⟩ := (latestPerSource_eq_some_iff stored).1 ho
    exact h row current.stored hsource

/-- An insert leaves the current observation of every other source as it was. -/
theorem latestPerSource_insert (stored : Stored rows)
    (h : insertObservation rows row = .ok rows') {source : UUID} (hne : source ≠ row.sourceId) :
    latestPerSource rows' source = latestPerSource rows source := by
  obtain ⟨accepted, rfl⟩ := insertObservation_ok_iff.1 h
  unfold latestPerSource latestRows
  rw [RowNumber.firsts_filter_part, RowNumber.firsts_filter_part,
    stored.leaves_append accepted hne]

/-- Once superseded, an observation is current in no later state. -/
theorem latestPerSource_superseded (stored : Stored rows)
    (later : Supersession.Later observationId sourceId supersedes rows rows') {q : ObservationRow}
    (hq : q ∈ rows) (href : q.supersedes = some row.observationId) (source : UUID) :
    latestPerSource rows' source ≠ some row.observation := by
  intro hcurrent
  obtain ⟨c, current, -, hobservation⟩ :=
    (latestPerSource_eq_some_iff (stored.later later)).1 hcurrent
  have hid : c.observationId = row.observationId := congrArg (·.observationId) hobservation
  apply later.not_mem_leaves hq (href.trans (congrArg some hid.symm))
  exact Supersession.mem_leaves_iff.2 ⟨current.stored, current.unsuperseded⟩

/-- **Supersession decides currentness over every history.** -/
theorem latestPerSource_current (stored : insertAll [] appended = .ok rows) :
    ((latestRows rows).map sourceId).Nodup ∧
    (∀ source, (∃ o, latestPerSource rows source = some o) ↔
      ∃ row ∈ rows, row.sourceId = source) ∧
    (∀ source o, latestPerSource rows source = some o →
      ∃ row, Current rows row ∧ row.sourceId = source ∧ row.observation = o) ∧
    (∀ row ∈ rows, (∃ q ∈ rows, q.supersedes = some row.observationId) →
      ∀ later rows', insertAll rows later = .ok rows' →
        ∀ source, latestPerSource rows' source ≠ some row.observation) ∧
    ∀ row rows', insertObservation rows row = .ok rows' →
      ∀ source ≠ row.sourceId, latestPerSource rows' source = latestPerSource rows source := by
  have reached := insertAll_stored stored
  refine ⟨latestRows_distinct reached, fun source => ?_, fun source o => ?_, ?_, ?_⟩
  · rw [← Option.ne_none_iff_exists', ne_eq, latestPerSource_eq_none_iff reached]
    push Not
    rfl
  · exact (latestPerSource_eq_some_iff reached).1
  · rintro row - ⟨q, hq, href⟩ later rows' hlater source
    exact latestPerSource_superseded reached (insertAll_later .refl hlater) hq href source
  · intro row rows' hinsert source hne
    exact latestPerSource_insert reached hinsert hne

/-- A read of source 1, a correction of it that carries an earlier time, and a
read of source 2. -/
def backdatedCorrection : List ObservationRow :=
  let read := fixtureObservation (fixtureSource 1) 10 600
  [⟨read, 0⟩,
    ⟨{ fixtureObservation (fixtureSource 1) 11 300 with
        supersedesObservationId := some 10, consistent := rfl }, 0⟩,
    ⟨fixtureObservation (fixtureSource 2) 12 100, 0⟩]

theorem backdatedCorrection_current :
    (∃ o, latestPerSource backdatedCorrection 1 = some o) ∧
    ∀ later rows, insertAll backdatedCorrection later = .ok rows →
      latestPerSource rows 1 ≠ some (fixtureObservation (fixtureSource 1) 10 600) := by
  have stored : insertAll [] backdatedCorrection = .ok backdatedCorrection := rfl
  obtain ⟨-, observed, -, superseded, -⟩ := latestPerSource_current stored
  refine ⟨(observed 1).2 ⟨_, List.mem_cons_self, rfl⟩, fun later rows hlater => ?_⟩
  exact superseded _ List.mem_cons_self ⟨_, .tail _ List.mem_cons_self, rfl⟩ later rows hlater 1

example : latestPerSource backdatedCorrection 1 =
    (backdatedCorrection[1]?).map (·.observation) := by decide

end Current

end PaxPivot
