import PaxPivot.Application.KillSwitches
import PaxPivot.Infrastructure.Repositories
import PaxPivot.Library.Trace

/-!
# A run of source checks beside an operator

`check_sources` in `tooling.py`, step by step: its transaction reads the registry
and the switches in one snapshot, then each source is decided, the provider is
called, its answer is validated and stored. Between any two steps an operator may
commit a switch. The run goes on with the switches of its snapshot.
-/

namespace PaxPivot

universe u

/-- `SqlKillSwitchRepository.engage`, committed. -/
def Database.engage (db : Database) (k : KillSwitch) : Database :=
  { db with switches := db.switches ++ [k] }

/-- Where a run is. From `deciding` on it carries the switches it read, and the
sources still to come. -/
inductive CheckPhase (ε : Type u) where
  | ready
  | deciding (switches : List KillSwitch) (pending : List Source)
  | calling (switches : List KillSwitch) (source : Source) (pending : List Source)
  | validating (switches : List KillSwitch) (source : Source)
      (answer : Result SourceObservation) (pending : List Source)
  | finished
  | raised (e : ε)

structure CheckSources (σ ε ρ : Type u) where
  db : Database
  phase : CheckPhase ε
  world : World σ ρ
  outcomes : List SourceCheckOutcome

inductive CheckMove where
  | commit (k : KillSwitch)
  | advance

inductive CheckEvent where
  | committed (k : KillSwitch)
  | called (source : Source)
  | appended (source : Source) (o : SourceObservation)
  deriving DecidableEq

section Machine

variable {σ ε ρ : Type u} (provider : SourceProvider σ)
  (observations : SourceObservationRepository ε ρ)

/-- The next step of the run. -/
def CheckSources.advance (m : CheckSources σ ε ρ) : CheckSources σ ε ρ × Option CheckEvent :=
  match m.phase with
  | .ready => ({ m with phase := .deciding m.db.listEngaged m.db.listSources }, none)
  | .deciding _ [] => ({ m with phase := .finished }, none)
  | .deciding switches (source :: pending) =>
    match skipReason source provider.providerId switches with
    | some reason =>
      ({ m with
          phase := .deciding switches pending
          outcomes := m.outcomes ++ [skippedOutcome source reason] }, none)
    | none => ({ m with phase := .calling switches source pending }, some (.called source))
  | .calling switches source pending =>
    let (answer, state) := provider.observe source.identity m.world.provider
    ({ m with
        phase := .validating switches source answer pending
        world := { m.world with provider := state } }, none)
  | .validating switches source answer pending =>
    match judgeAnswer source provider.providerId switches answer with
    | .error e =>
      ({ m with
          phase := .deciding switches pending
          outcomes := m.outcomes ++ [refusalOutcome source e] }, none)
    | .ok o =>
      match observations.append o m.world.observations with
      | .error raised => ({ m with phase := .raised raised }, none)
      | .ok stored =>
        ({ m with
            phase := .deciding switches pending
            world := { m.world with observations := stored }
            outcomes := m.outcomes ++ [recordedOutcome source o] }, some (.appended source o))
  | .finished => (m, none)
  | .raised _ => (m, none)

def CheckSources.step (m : CheckSources σ ε ρ) :
    CheckMove → CheckSources σ ε ρ × Option CheckEvent
  | .commit k => ({ m with db := m.db.engage k }, some (.committed k))
  | .advance => m.advance provider observations

/-- A run that has not begun its transaction. -/
def CheckSources.start (db : Database) (w : World σ ρ) : CheckSources σ ε ρ :=
  { db, phase := .ready, world := w, outcomes := [] }

abbrev CheckSources.run (m : CheckSources σ ε ρ) (moves : List CheckMove) :
    CheckSources σ ε ρ × List CheckEvent :=
  Trace.run (CheckSources.step provider observations) m moves

/-! ## A run answers its snapshot -/

/-- The outcomes already there, before those of the rest of the run. -/
def afterOutcomes (outcomes : List SourceCheckOutcome) :
    Except ε (List SourceCheckOutcome × World σ ρ) →
      Except ε (List SourceCheckOutcome × World σ ρ)
  | .error raised => .error raised
  | .ok (later, w) => .ok (outcomes ++ later, w)

/-- What the loop of `run_source_checks` still makes of an answer and the sources after it. -/
def settle (switches : List KillSwitch) (source : Source) (answer : Result SourceObservation)
    (pending : List Source) (w : World σ ρ) (outcomes : List SourceCheckOutcome) :
    Except ε (List SourceCheckOutcome × World σ ρ) :=
  match judgeAnswer source provider.providerId switches answer with
  | .error e =>
    afterOutcomes (outcomes ++ [refusalOutcome source e])
      (checkAll provider observations switches pending w)
  | .ok o =>
    match observations.append o w.observations with
    | .error raised => .error raised
    | .ok stored =>
      afterOutcomes (outcomes ++ [recordedOutcome source o])
        (checkAll provider observations switches pending { w with observations := stored })

/-- What the run will have answered when it ends. -/
def CheckSources.completion (m : CheckSources σ ε ρ) :
    Except ε (List SourceCheckOutcome × World σ ρ) :=
  match m.phase with
  | .ready =>
    afterOutcomes m.outcomes
      (checkAll provider observations m.db.listEngaged m.db.listSources m.world)
  | .deciding switches pending =>
    afterOutcomes m.outcomes (checkAll provider observations switches pending m.world)
  | .calling switches source pending =>
    let (answer, state) := provider.observe source.identity m.world.provider
    settle provider observations switches source answer pending
      { m.world with provider := state } m.outcomes
  | .validating switches source answer pending =>
    settle provider observations switches source answer pending m.world m.outcomes
  | .finished => .ok (m.outcomes, m.world)
  | .raised e => .error e

variable {provider observations} {m : CheckSources σ ε ρ}

theorem afterOutcomes_cons {outcomes : List SourceCheckOutcome} {outcome : SourceCheckOutcome}
    {result : Except ε (List SourceCheckOutcome × World σ ρ)} :
    afterOutcomes outcomes
        (match result with
          | .error raised => .error raised
          | .ok (later, w) => .ok (outcome :: later, w)) =
      afterOutcomes (outcomes ++ [outcome]) result := by
  cases result with
  | error raised => rfl
  | ok done => simp [afterOutcomes]

/-- A source that is not skipped is asked, and its answer settled. -/
theorem checkAll_attempt {switches : List KillSwitch} {source : Source} {pending : List Source}
    {w : World σ ρ} {outcomes : List SourceCheckOutcome}
    (attempt : skipReason source provider.providerId switches = none) :
    afterOutcomes outcomes (checkAll provider observations switches (source :: pending) w) =
      settle provider observations switches source
        (provider.observe source.identity w.provider).1 pending
        { w with provider := (provider.observe source.identity w.provider).2 } outcomes := by
  unfold checkAll checkSource settle
  rw [attempt]
  simp only [recordObservation_of_attempt attempt]
  cases judgeAnswer source provider.providerId switches
      (provider.observe source.identity w.provider).1 with
  | error e => exact afterOutcomes_cons
  | ok o =>
    dsimp only
    cases observations.append o w.observations with
    | error raised => rfl
    | ok stored => exact afterOutcomes_cons

/-- No step of the run changes what it will have answered. -/
theorem completion_advance :
    (m.advance provider observations).1.completion provider observations =
      m.completion provider observations := by
  obtain ⟨db, phase, w, outcomes⟩ := m
  cases phase with
  | ready => rfl
  | deciding switches pending =>
    cases pending with
    | nil => simp [CheckSources.advance, CheckSources.completion, checkAll, afterOutcomes]
    | cons source pending =>
      cases hskip : skipReason source provider.providerId switches with
      | none =>
        simp only [CheckSources.advance, CheckSources.completion, hskip,
          checkAll_attempt hskip]
      | some reason =>
        simp only [CheckSources.advance, CheckSources.completion, hskip, checkAll, checkSource]
        cases checkAll provider observations switches pending w with
        | error raised => rfl
        | ok done => simp [afterOutcomes]
  | calling switches source pending => rfl
  | validating switches source answer pending =>
    simp only [CheckSources.advance, CheckSources.completion, settle]
    cases judgeAnswer source provider.providerId switches answer with
    | error e => rfl
    | ok o => cases happend : observations.append o w.observations <;> simp [happend]
  | finished => rfl
  | raised e => rfl

/-- Once the snapshot is taken, nothing changes what the run will have answered. -/
theorem completion_step (begun : m.phase ≠ .ready) (move : CheckMove) :
    (m.step provider observations move).1.phase ≠ .ready ∧
      (m.step provider observations move).1.completion provider observations =
        m.completion provider observations := by
  cases move with
  | commit k =>
    refine ⟨begun, ?_⟩
    obtain ⟨db, phase, w, outcomes⟩ := m
    cases phase with
    | ready => exact absurd rfl begun
    | deciding switches pending => rfl
    | calling switches source pending => rfl
    | validating switches source answer pending => rfl
    | finished => rfl
    | raised e => rfl
  | advance =>
    refine ⟨?_, completion_advance⟩
    simp only [CheckSources.step, CheckSources.advance]
    repeat' split
    all_goals simp_all

/-- **A run answers the snapshot it began with.** Whatever the operator commits
after the first step, a finished run is `run_source_checks` on the registry and
the switches of that step. -/
theorem run_answers_snapshot {db : Database} {w : World σ ρ} {moves : List CheckMove} {now : Int}
    (finished : ((CheckSources.start db w).run provider observations
      (.advance :: moves)).1.phase = .finished) :
    runSourceChecks db.listSources observations db.listEngaged provider now w =
      .ok (⟨now, ((CheckSources.start db w).run provider observations
          (.advance :: moves)).1.outcomes⟩,
        ((CheckSources.start db w).run provider observations (.advance :: moves)).1.world) := by
  set last := ((CheckSources.start db w).run provider observations (.advance :: moves)).1 with hlast
  have begun : last.phase ≠ .ready ∧ last.completion provider observations =
      (CheckSources.start db w).completion provider observations :=
    Trace.run_invariant
      (fun m : CheckSources σ ε ρ => m.phase ≠ .ready ∧ m.completion provider observations =
        (CheckSources.start db w).completion provider observations)
      (fun m move h => ⟨(completion_step h.1 move).1, (completion_step h.1 move).2.trans h.2⟩)
      (s := ((CheckSources.start db w).step provider observations .advance).1)
      ⟨by simp [CheckSources.step, CheckSources.advance, CheckSources.start], completion_advance⟩
  have answers := begun.2
  simp only [CheckSources.completion, finished, CheckSources.start] at answers
  unfold runSourceChecks
  cases hall : checkAll provider observations db.listEngaged db.listSources w with
  | error raised => simp [hall, afterOutcomes] at answers
  | ok done =>
    simp only [hall, afterOutcomes, List.nil_append, Except.ok.injEq, Prod.mk.injEq] at answers
    rw [answers.1, answers.2]

/-! ## What a committed switch stops -/

/-- The steps that `k` forbids: a call it covers, and an append whose retrieval,
interpretation or payload it covers. -/
def CheckEvent.Forbidden (k : KillSwitch) : CheckEvent → Prop
  | .committed _ => False
  | .called source => k.covers source .retrieve = true
  | .appended source o =>
    k.covers source .retrieve = true ∨
      o.extraction ∈ interpreted ∧ k.covers source .parse = true ∨
      o.payloadRef ≠ none ∧ k.covers source .storeRaw = true

/-- `k` forbids nothing that `switches` authorize for `source`. -/
structure Untouched (k : KillSwitch) (switches : List KillSwitch) (source : Source) : Prop where
  retrieve : k.covers source .retrieve = false
  parse : Authorized source .parse switches → k.covers source .parse = false
  storeRaw : Authorized source .storeRaw switches → k.covers source .storeRaw = false

/-- Committing `k` in this phase comes before the snapshot, after the run, or
concerns nothing that the snapshot lets the rest of the run do. -/
def Harmless (providerId : String) (k : KillSwitch) : CheckPhase ε → Prop
  | .ready => True
  | .deciding switches pending =>
    ∀ s ∈ pending, skipReason s providerId switches = none → Untouched k switches s
  | .calling switches source pending =>
    Untouched k switches source ∧
      ∀ s ∈ pending, skipReason s providerId switches = none → Untouched k switches s
  | .validating switches source answer pending =>
    (∀ o, judgeAnswer source providerId switches answer = .ok o →
        ¬ (CheckEvent.appended source o).Forbidden k) ∧
      ∀ s ∈ pending, skipReason s providerId switches = none → Untouched k switches s
  | .finished => True
  | .raised _ => True

/-- The invariant of a switch once it is committed harmlessly. -/
structure Guarded (providerId : String) (k : KillSwitch) (m : CheckSources σ ε ρ) : Prop where
  committed : k ∈ m.db.switches
  harmless : Harmless providerId k m.phase

/-- A switch of the snapshot forbids nothing that the snapshot authorizes. -/
theorem untouched_of_mem {k : KillSwitch} {switches : List KillSwitch} {source : Source}
    (hk : k ∈ switches) (retrieve : Authorized source .retrieve switches) :
    Untouched k switches source :=
  ⟨(authorized_iff.1 retrieve).1 k hk, fun h => (authorized_iff.1 h).1 k hk,
    fun h => (authorized_iff.1 h).1 k hk⟩

/-- A released switch covers nothing. -/
theorem untouched_of_released {k : KillSwitch} {switches : List KillSwitch} {source : Source}
    (h : k.engaged = false) : Untouched k switches source := by
  have covers : ∀ mode, k.covers source mode = false := fun mode => by simp [KillSwitch.covers, h]
  exact ⟨covers _, fun _ => covers _, fun _ => covers _⟩

/-- What validation accepts of an untouched source is not forbidden. -/
theorem Untouched.not_forbidden {k : KillSwitch} {switches : List KillSwitch} {source : Source}
    {answer : Result SourceObservation} {o : SourceObservation} {providerId : String}
    (h : Untouched k switches source)
    (judged : judgeAnswer source providerId switches answer = .ok o) :
    ¬ (CheckEvent.appended source o).Forbidden k := by
  obtain ⟨-, -, acceptable⟩ := judgeAnswer_ok_iff.1 judged
  rintro (hcall | ⟨hread, hparse⟩ | ⟨hpayload, hstore⟩)
  · rw [h.retrieve] at hcall
    cases hcall
  · rw [h.parse (acceptable.interpretation hread)] at hparse
    cases hparse
  · rw [h.storeRaw (acceptable.payload hpayload)] at hstore
    cases hstore

/-- **Step lemma.** A step keeps a harmless switch harmless and does nothing that
it forbids. -/
theorem Guarded.advance {k : KillSwitch} (h : Guarded provider.providerId k m) :
    Guarded provider.providerId k (m.advance provider observations).1 ∧
      ∀ e ∈ (m.advance provider observations).2, ¬ e.Forbidden k := by
  obtain ⟨committed, harmless⟩ := h
  obtain ⟨db, phase, w, outcomes⟩ := m
  cases phase with
  | ready =>
    refine ⟨⟨committed, fun s _ attempt => ?_⟩, by simp [CheckSources.advance]⟩
    cases engaged : k.engaged with
    | true =>
      exact untouched_of_mem (Database.mem_listEngaged.2 ⟨committed, engaged⟩)
        (skipReason_eq_none_iff.1 attempt).1
    | false => exact untouched_of_released engaged
  | deciding switches pending =>
    cases pending with
    | nil => exact ⟨⟨committed, trivial⟩, by simp [CheckSources.advance]⟩
    | cons source pending =>
      have later : ∀ s ∈ pending, skipReason s provider.providerId switches = none →
          Untouched k switches s := fun s hs => harmless s (List.mem_cons_of_mem _ hs)
      simp only [CheckSources.advance]
      cases hskip : skipReason source provider.providerId switches with
      | some reason => exact ⟨⟨committed, later⟩, by simp⟩
      | none =>
        have untouched := harmless source List.mem_cons_self hskip
        refine ⟨⟨committed, untouched, later⟩, ?_⟩
        rintro e he
        obtain rfl := Option.some.inj he
        simp [CheckEvent.Forbidden, untouched.retrieve]
  | calling switches source pending =>
    refine ⟨⟨committed, fun o judged => ?_, harmless.2⟩, by simp [CheckSources.advance]⟩
    exact harmless.1.not_forbidden judged
  | validating switches source answer pending =>
    simp only [CheckSources.advance]
    cases hjudge : judgeAnswer source provider.providerId switches answer with
    | error e => exact ⟨⟨committed, harmless.2⟩, by simp⟩
    | ok o =>
      dsimp only
      cases observations.append o w.observations with
      | error raised => exact ⟨⟨committed, trivial⟩, by simp⟩
      | ok stored =>
        refine ⟨⟨committed, harmless.2⟩, ?_⟩
        rintro e he
        obtain rfl := Option.some.inj he
        exact harmless.1 o hjudge
  | finished => exact ⟨⟨committed, trivial⟩, by simp [CheckSources.advance]⟩
  | raised e => exact ⟨⟨committed, trivial⟩, by simp [CheckSources.advance]⟩

theorem Guarded.step {k : KillSwitch} (h : Guarded provider.providerId k m) (move : CheckMove) :
    Guarded provider.providerId k (m.step provider observations move).1 ∧
      ∀ e ∈ (m.step provider observations move).2, ¬ e.Forbidden k := by
  cases move with
  | commit k' =>
    refine ⟨⟨List.mem_append_left _ h.committed, h.harmless⟩, ?_⟩
    rintro e he
    obtain rfl := Option.some.inj he
    exact id
  | advance => exact h.advance

/-- Only a commit is recorded as one. -/
theorem step_committed {k : KillSwitch} {move : CheckMove}
    (h : CheckEvent.committed k ∈ (m.step provider observations move).2) : move = .commit k := by
  cases move with
  | commit k' =>
    obtain rfl : k' = k := by simpa [CheckSources.step] using h
    rfl
  | advance =>
    simp only [CheckSources.step, CheckSources.advance] at h
    repeat' split at h
    all_goals simp at h

/-- **A switch committed harmlessly is respected from then on.** In every run beside
an operator whose commits are harmless where they are made, no event after a
commit is one that the committed switch forbids. -/
theorem committed_switch_respected (provider : SourceProvider σ)
    (observations : SourceObservationRepository ε ρ) (db : Database) (w : World σ ρ)
    (moves : List CheckMove)
    (harmless : ∀ before k after, moves = before ++ .commit k :: after →
      Harmless provider.providerId k
        ((CheckSources.start db w).run provider observations before).1.phase) :
    ((CheckSources.start db w).run provider observations moves).2.Pairwise
      fun earlier later => ∀ k, earlier = .committed k → ¬ later.Forbidden k := by
  refine Trace.run_pairwise _
    (fun m move => ∀ k, move = .commit k → Harmless provider.providerId k m.phase)
    (fun m move e good hemit ms later hlater k hcommitted => ?_)
    fun before move after hmoves k hmove => harmless before k after (by rw [hmoves, hmove])
  subst hcommitted
  obtain rfl := step_committed hemit
  have guarded : Guarded provider.providerId k
      (m.step provider observations (.commit k)).1 :=
    ⟨List.mem_append_right _ (List.mem_singleton_self k), good k rfl⟩
  exact Trace.run_events (Guarded provider.providerId k) (fun e => ¬ e.Forbidden k)
    (fun m move h => h.step move) guarded hlater

end Machine

/-- A provider that reads the first fixture source. -/
def readingProvider : SourceProvider Unit where
  providerId := "synthetic-adapter"
  observe _ state := (.ok (fixtureObservation (fixtureSource 1) 2 0), state)

def fixtureRun (moves : List CheckMove) :
    CheckSources Unit Empty (List SourceObservation) × List CheckEvent :=
  (CheckSources.start (fixtureDatabase (fixtureSource 1) []) ⟨(), []⟩).run readingProvider
    historyRepository moves

/-- A switch of source 10, committed in the middle of a run over source 1. -/
theorem other_switch_respected :
    (fixtureRun [.advance, .commit (fixtureSwitch (.lit "00000000-0000-0000-0000-00000000000a")),
        .advance, .advance, .advance]).2.Pairwise
      fun earlier later => ∀ k, earlier = .committed k → ¬ later.Forbidden k := by
  refine committed_switch_respected readingProvider historyRepository _ _ _ ?_
  intro before k after hmoves
  rcases before with _ | ⟨_, _ | ⟨_, _ | ⟨_, _ | ⟨_, _ | ⟨_, before⟩⟩⟩⟩⟩ <;> simp at hmoves
  obtain ⟨rfl, rfl, -⟩ := hmoves
  intro s hs _
  obtain rfl : s = fixtureSource 1 := List.mem_singleton.1 hs
  exact ⟨by decide, fun _ => by decide, fun _ => by decide⟩

/-- A switch of the source itself, committed after the snapshot: the run then calls
the provider for the source and stores the answer. -/
theorem engaged_mid_run_is_bypassed :
    (fixtureRun [.advance, .commit (fixtureSwitch (.lit "00000000-0000-0000-0000-000000000001")),
        .advance, .advance, .advance]).2 =
      [.committed (fixtureSwitch (.lit "00000000-0000-0000-0000-000000000001")),
        .called (fixtureSource 1),
        .appended (fixtureSource 1) (fixtureObservation (fixtureSource 1) 2 0)] ∧
    (fixtureSwitch (.lit "00000000-0000-0000-0000-000000000001")).engaged = true ∧
    (CheckEvent.called (fixtureSource 1)).Forbidden
      (fixtureSwitch (.lit "00000000-0000-0000-0000-000000000001")) ∧
    (CheckEvent.appended (fixtureSource 1) (fixtureObservation (fixtureSource 1) 2 0)).Forbidden
      (fixtureSwitch (.lit "00000000-0000-0000-0000-000000000001")) := by
  have covers : (fixtureSwitch (.lit "00000000-0000-0000-0000-000000000001")).covers
      (fixtureSource 1) .retrieve = true := by decide
  exact ⟨by decide, rfl, covers, .inl covers⟩

end PaxPivot
