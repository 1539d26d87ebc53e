import PaxPivot.ApiRuns
import PaxPivot.Application.RunSafety

/-!
# The whole system

The server and the runs of `check_sources` over one database, with operators beside them. A run
reads one snapshot of the registry and the switches, goes through its sources, and commits what it
recorded at its end, against what is committed by then. Nobody edits or removes an observation:
the table's triggers refuse it.
-/

namespace PaxPivot

/-! ## The machine -/

/-- An open transaction of `check_sources`: what it read, and the database's `now()` in it. -/
structure CheckTransaction where
  snapshot : Database
  recordedAt : Int

structure System where
  server : Server
  checks : List CheckTransaction

inductive SystemMove (σ : Type) where
  /-- A move of the API, or of another writer: registry, switches, terminals or facts. -/
  | api (move : ApiMove)
  | beginChecks (recordedAt : Int)
  /-- The `n`th open run goes through its sources; `world` is what its provider meets. -/
  | finishChecks (n : Nat) (world : σ) (now : Int)
  /-- The `n`th open run dies. -/
  | loseChecks (n : Nat)

inductive SystemEvent where
  | api (event : ApiEvent)
  | checked (t : CheckTransaction) (run : SourceCheckRun) (rows : List ObservationRow)

/-- The foreign key of `rows` to `sources`. -/
def Database.refers (db : Database) (rows : List ObservationRow) : Bool :=
  rows.all fun r => (db.getSource r.sourceId).isSome

/-- A writer that leaves the observations alone. -/
def Server.operate (s : Server) (edit : Database) : Server :=
  let database := { edit with
    observations := s.database.observations
    observationsStored := s.database.observationsStored }
  if database.refers s.database.observations then s.write database else s

/-- The inserts of a run at its commit, or `none` when one of them is refused. -/
def Server.commitChecks (s : Server) (rows : List ObservationRow) : Option Server :=
  if s.database.refers rows then
    match h : insertAll s.database.observations rows with
    | .error _ => none
    | .ok stored =>
      some { s with database := { s.database with
        observations := stored
        observationsStored := s.database.observationsStored.later (insertAll_later .refl h) } }
  else none

section Machine

variable {σ : Type} (env : ApiEnv) (provider : Database → SourceProvider σ)

/-- `check_sources` in its transaction: the run, and the rows it recorded. -/
def CheckTransaction.run (t : CheckTransaction) (world : σ) (now : Int) :
    Except StoreRefusal (SourceCheckRun × List ObservationRow) :=
  (runSourceChecks t.snapshot.listSources (sqlObservations t.snapshot.registry t.recordedAt)
    t.snapshot.listEngaged (provider t.snapshot) now ⟨world, t.snapshot.observations⟩).map
      fun done => (done.1, done.2.observations.drop t.snapshot.observations.length)

/-- A run that raises, or whose commit is refused, is rolled back. -/
def System.finishChecks (m : System) (n : Nat) (world : σ) (now : Int) :
    System × Option SystemEvent :=
  match m.checks[n]? with
  | none => (m, none)
  | some t =>
    let m := { m with checks := m.checks.eraseIdx n }
    match t.run provider world now with
    | .error _ => (m, none)
    | .ok (run, rows) =>
      match m.server.commitChecks rows with
      | none => (m, none)
      | some server => ({ m with server }, some (.checked t run rows))

def System.serve (m : System) : ApiMove → System × Option SystemEvent
  | .write edit => ({ m with server := m.server.operate edit }, none)
  | move =>
    let (server, event) := m.server.step env move
    ({ m with server }, event.map .api)

def System.step (m : System) : SystemMove σ → System × Option SystemEvent
  | .api move => m.serve env move
  | .beginChecks recordedAt =>
    ({ m with checks := m.checks ++ [⟨m.server.database, recordedAt⟩] }, none)
  | .finishChecks n world now => m.finishChecks provider n world now
  | .loseChecks n => ({ m with checks := m.checks.eraseIdx n }, none)

/-- A registry of which nothing was observed yet, and no trips. -/
def System.start (registered : Database) : System where
  server := Server.start { registered with observations := [], observationsStored := .empty }
  checks := []

abbrev System.run (m : System) (moves : List (SystemMove σ)) : System × List SystemEvent :=
  Trace.run (System.step env provider) m moves

end Machine

/-! ## What a run of checks leaves -/

section Checks

variable {σ : Type} {provider : Database → SourceProvider σ}

/-- The rows that the checks of a run appended. -/
def appendedRows (recordedAt : Int) (checks : List Check) : List ObservationRow :=
  (checks.filterMap (·.appended)).map fun o => ⟨o, recordedAt⟩

theorem Effects.rows {provider : SourceProvider σ} {registry : Registry} {recordedAt : Int}
    {checks : List Check} {w w' : World σ (List ObservationRow)}
    (h : Effects provider (sqlObservations registry recordedAt) checks w w') :
    w'.observations = w.observations ++ appendedRows recordedAt checks := by
  induction h with
  | nil w => simp [appendedRows]
  | cons head tail ih =>
    rename_i c checks w w₁ w₂
    rw [ih]
    unfold appendedRows
    cases ha : c.appended with
    | none => rw [head.keeps ha, List.filterMap_cons_none ha]
    | some o =>
      obtain ⟨-, rows⟩ := appendObservation_ok_iff.1 (head.appends o ha)
      rw [rows, List.filterMap_cons_some ha, List.map_cons, List.append_assoc,
        List.singleton_append]

/-- What a committed run did: a sound check for each source of its snapshot, and the rows of those
that recorded. -/
structure CheckTransaction.Ran (provider : Database → SourceProvider σ) (t : CheckTransaction)
    (run : SourceCheckRun) (rows : List ObservationRow) (checks : List Check) : Prop where
  sources : checks.map (·.source) = t.snapshot.listSources
  outcomes : run.outcomes = checks.map (·.outcome)
  sound : ∀ c ∈ checks, c.Sound (provider t.snapshot).providerId t.snapshot.listEngaged
  rows : rows = appendedRows t.recordedAt checks

theorem CheckTransaction.run_ran {t : CheckTransaction} {world : σ} {now : Int}
    {run : SourceCheckRun} {rows : List ObservationRow}
    (h : t.run provider world now = .ok (run, rows)) :
    ∃ checks, t.Ran provider run rows checks := by
  unfold CheckTransaction.run at h
  cases hrun : runSourceChecks t.snapshot.listSources
      (sqlObservations t.snapshot.registry t.recordedAt) t.snapshot.listEngaged
      (provider t.snapshot) now ⟨world, t.snapshot.observations⟩ with
  | error raised =>
    rw [hrun] at h
    cases h
  | ok done =>
    obtain ⟨run', w'⟩ := done
    rw [hrun] at h
    obtain ⟨rfl, rfl⟩ := Prod.mk.inj (Except.ok.inj h)
    obtain ⟨checks, sources, outcomes, sound, effects⟩ := runSourceChecks_spec hrun
    refine ⟨checks, sources, outcomes, sound, ?_⟩
    rw [effects.rows, List.drop_left]

end Checks

/-! ## One step -/

section Step

variable {σ : Type} {env : ApiEnv} {provider : Database → SourceProvider σ} {m : System}

/-- Inserts that are accepted add their rows. -/
theorem insertAll_rows {rows appended stored : List ObservationRow}
    (h : insertAll rows appended = .ok stored) : stored = rows ++ appended := by
  induction appended generalizing rows with
  | nil =>
    cases h
    exact (List.append_nil _).symm
  | cons row appended ih =>
    obtain ⟨rows', first, rest⟩ := Statements.cons_ok_iff.1 h
    obtain ⟨-, rfl⟩ := insertObservation_ok_iff.1 first
    rw [ih rest, List.append_assoc, List.singleton_append]

/-- **Everything a commit of a run can do**: be refused, or add its rows and nothing else. -/
theorem commitChecks_some {s server : Server} {rows : List ObservationRow}
    (h : s.commitChecks rows = some server) :
    server.database.observations = s.database.observations ++ rows ∧
      server = { s with database := server.database } ∧
      server.database.getTerminal = s.database.getTerminal := by
  unfold Server.commitChecks at h
  split at h
  case isFalse => cases h
  case isTrue =>
    split at h
    case h_1 => cases h
    case h_2 stored inserted =>
      obtain rfl := Option.some.inj h
      exact ⟨insertAll_rows inserted, rfl, rfl⟩

/-- Only another writer changes the database. -/
theorem step_database (s : Server) {move : ApiMove} (h : ∀ database, move ≠ .write database) :
    (s.step env move).1.database = s.database := by
  cases move with
  | call authorization call tripId now =>
    show (s.call env authorization call tripId now).1.database = _
    rcases call_cases authorization call tripId now with ⟨answer, h, -⟩ | ⟨checked, h⟩ <;> rw [h]
  | insert n =>
    show (s.insert n).1.database = _
    rcases insert_cases s n with h | ⟨answer, h, -⟩ | ⟨trip, origin, -, -, -, h⟩ <;> rw [h]
  | fail n =>
    show (s.fail n).1.database = _
    rcases fail_cases s n with h | h <;> rw [h]
  | commit n =>
    show (s.commit n).1.database = _
    rcases commit_cases s n with h | ⟨row, rest, -, h⟩ <;> rw [h]
  | rollback n =>
    show (s.rollback n).1.database = _
    rcases rollback_cases s n with h | ⟨row, rest, -, h⟩ <;> rw [h]
  | write database => exact absurd rfl (h database)

theorem operate_observations (s : Server) (edit : Database) :
    (s.operate edit).database.observations = s.database.observations := by
  unfold Server.operate
  dsimp only
  split
  case isTrue =>
    rcases write_cases s _ with h | ⟨-, h⟩
    · rw [h]
    · rw [h]
  case isFalse => rfl

/-- **Everything a move of the API can do**: change the server, but for its observations. -/
theorem serve_cases (env : ApiEnv) (m : System) (move : ApiMove) :
    ∃ server event, m.serve env move = ({ m with server }, Option.map .api event) ∧
      server.database.observations = m.server.database.observations := by
  unfold System.serve
  split
  case h_1 edit => exact ⟨_, none, rfl, operate_observations m.server edit⟩
  case h_2 move other =>
    exact ⟨_, _, rfl, congrArg (·.observations) (step_database m.server other)⟩

/-- **Everything the end of a run can do**: nothing, or commit the rows of a run that went
through. -/
theorem finishChecks_cases (provider : Database → SourceProvider σ) (m : System) (n : Nat)
    (world : σ) (now : Int) :
    (∃ checks, checks ⊆ m.checks ∧
      m.finishChecks provider n world now = ({ m with checks }, none)) ∨
    ∃ t run rows server, t ∈ m.checks ∧ (∃ checks, t.Ran provider run rows checks) ∧
      m.server.commitChecks rows = some server ∧
      m.finishChecks provider n world now =
        (⟨server, m.checks.eraseIdx n⟩, some (.checked t run rows)) := by
  have fewer : m.checks.eraseIdx n ⊆ m.checks := (List.eraseIdx_sublist _ _).subset
  unfold System.finishChecks
  split
  case h_1 => exact .inl ⟨m.checks, List.Subset.refl _, rfl⟩
  case h_2 t open_ =>
    dsimp only
    split
    case h_1 => exact .inl ⟨_, fewer, rfl⟩
    case h_2 run rows finished =>
      split
      case h_1 => exact .inl ⟨_, fewer, rfl⟩
      case h_2 server committed =>
        exact .inr ⟨t, run, rows, server, List.mem_of_getElem? open_,
          CheckTransaction.run_ran finished, committed, rfl⟩

/-- The rows that an event says were recorded. -/
def SystemEvent.rows : SystemEvent → List ObservationRow
  | .checked _ _ rows => rows
  | .api _ => []

/-- A step adds to the observations what its event says, and nothing else. -/
theorem step_observations (m : System) (move : SystemMove σ) :
    (m.step env provider move).1.server.database.observations =
      m.server.database.observations ++
        (m.step env provider move).2.toList.flatMap SystemEvent.rows := by
  cases move with
  | api move =>
    show (m.serve env move).1.server.database.observations = _ ++
      (m.serve env move).2.toList.flatMap SystemEvent.rows
    obtain ⟨server, event, h, same⟩ := serve_cases env m move
    rw [h]
    cases event <;> exact same.trans (List.append_nil _).symm
  | beginChecks recordedAt => exact (List.append_nil _).symm
  | finishChecks n world now =>
    show (m.finishChecks provider n world now).1.server.database.observations = _ ++
      (m.finishChecks provider n world now).2.toList.flatMap _
    rcases finishChecks_cases provider m n world now with
      ⟨checks, -, h⟩ | ⟨t, run, rows, server, -, -, committed, h⟩
    · rw [h]
      exact (List.append_nil _).symm
    · rw [h, (commitChecks_some committed).1]
      simp [SystemEvent.rows]
  | loseChecks n => exact (List.append_nil _).symm

/-- An open run was open before the step, or begins with it. -/
theorem step_checks {move : SystemMove σ} {t : CheckTransaction}
    (h : t ∈ (m.step env provider move).1.checks) :
    t ∈ m.checks ∨ t.snapshot = m.server.database := by
  cases move with
  | api move =>
    have still : t ∈ (m.serve env move).1.checks := h
    obtain ⟨server, event, h, -⟩ := serve_cases env m move
    rw [h] at still
    exact .inl still
  | beginChecks recordedAt =>
    rcases List.mem_append.1 h with h | h
    · exact .inl h
    · rw [List.mem_singleton.1 h]
      exact .inr rfl
  | finishChecks n world now =>
    have still : t ∈ (m.finishChecks provider n world now).1.checks := h
    rcases finishChecks_cases provider m n world now with
      ⟨checks, fewer, h⟩ | ⟨t', run, rows, server, -, -, -, h⟩
    · rw [h] at still
      exact .inl (fewer still)
    · rw [h] at still
      exact .inl ((List.eraseIdx_sublist _ _).subset still)
  | loseChecks n => exact .inl ((List.eraseIdx_sublist _ _).subset h)

/-- A run that commits was open, and went through. -/
theorem step_checked {move : SystemMove σ} {t : CheckTransaction} {run : SourceCheckRun}
    {rows : List ObservationRow}
    (h : (m.step env provider move).2 = some (.checked t run rows)) :
    t ∈ m.checks ∧ ∃ checks, t.Ran provider run rows checks := by
  cases move with
  | api move =>
    have event : (m.serve env move).2 = some (.checked t run rows) := h
    obtain ⟨server, seen, h, -⟩ := serve_cases env m move
    rw [h] at event
    obtain ⟨seen, -, other⟩ := Option.map_eq_some_iff.1 event
    cases other
  | beginChecks recordedAt => cases h
  | finishChecks n world now =>
    have event : (m.finishChecks provider n world now).2 = some (.checked t run rows) := h
    rcases finishChecks_cases provider m n world now with
      ⟨checks, -, h⟩ | ⟨t', run', rows', server, opened, ran, -, h⟩
    · rw [h] at event
      cases event
    · rw [h] at event
      obtain ⟨rfl, rfl, rfl⟩ := SystemEvent.checked.inj (Option.some.inj event)
      exact ⟨opened, ran⟩
  | loseChecks n => cases h

/-- What an event says of the API. -/
def SystemEvent.apiEvent : SystemEvent → Option ApiEvent
  | .api event => some event
  | .checked _ _ _ => none

/-- The commit of a run is a write for the API: it keeps the terminals, so it is let through. -/
theorem commitChecks_write {s server : Server} {rows : List ObservationRow} (sound : s.Sound)
    (h : s.commitChecks rows = some server) : s.write server.database = server := by
  obtain ⟨-, same, terminals⟩ := commitChecks_some h
  have kept : s.rows.all (fun r =>
      ({ s with database := server.database } : Server).hasTerminal r.originTerminalId) = true := by
    refine List.all_eq_true.2 fun r hr => ?_
    show (server.database.getTerminal r.originTerminalId).isSome = true
    rw [terminals]
    exact sound.registered r hr
  unfold Server.write
  dsimp only
  rw [if_pos kept]
  exact same.symm

/-- **A step of the system is at most one move of the API.** -/
theorem step_server (env : ApiEnv) (provider : Database → SourceProvider σ)
    (sound : m.server.Sound) (move : SystemMove σ) :
    ∃ moves, m.server.run env moves = ((m.step env provider move).1.server,
      (m.step env provider move).2.toList.filterMap SystemEvent.apiEvent) := by
  cases move with
  | api move =>
    show ∃ moves, m.server.run env moves = ((m.serve env move).1.server,
      (m.serve env move).2.toList.filterMap SystemEvent.apiEvent)
    unfold System.serve
    split
    case h_1 edit =>
      show ∃ moves, m.server.run env moves = (m.server.operate edit, [])
      unfold Server.operate
      dsimp only
      split
      case isTrue => exact ⟨[.write _], rfl⟩
      case isFalse => exact ⟨[], rfl⟩
    case h_2 =>
      refine ⟨[move], ?_⟩
      show ((m.server.step env move).1, (m.server.step env move).2.toList ++ []) = _
      rcases m.server.step env move with ⟨server, _ | event⟩
      · rfl
      · rfl
  | beginChecks recordedAt => exact ⟨[], rfl⟩
  | finishChecks n world now =>
    show ∃ moves, m.server.run env moves = ((m.finishChecks provider n world now).1.server,
      (m.finishChecks provider n world now).2.toList.filterMap SystemEvent.apiEvent)
    rcases finishChecks_cases provider m n world now with
      ⟨checks, -, h⟩ | ⟨t, run, rows, server, -, -, committed, h⟩
    · rw [h]
      exact ⟨[], rfl⟩
    · rw [h]
      refine ⟨[.write server.database], ?_⟩
      show (m.server.write server.database, []) = (server, [])
      rw [commitChecks_write sound committed]
  | loseChecks n => exact ⟨[], rfl⟩

end Step

end PaxPivot
