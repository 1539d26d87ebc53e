import PaxPivot.Application.ReadServices

/-!
# What the detail screen says when there are no opportunities

`opportunitiesNote` of `lib/presentation/adapters/terminals.ts`, from the summary
that the API answers. Two of its texts are statements about the world; the others
say what is not known.
-/

namespace PaxPivot

def notCheckedNote : String := "PaxPivot has not checked a source for this terminal yet."

def failedNote : String :=
  "The last check did not succeed, so nothing is known about departures here."

def noDeparturesNote : String := "This source published no departures."

def staleNote : String :=
  "The last successful check is out of date, so nothing current is known about departures here."

def unknownNote : String :=
  "The latest check could not establish what is published, so nothing is known about departures " ++
    "here."

def noOpportunitiesNote : String :=
  "No opportunities are published for this terminal right now."

def opportunitiesNote (summary : TerminalSummaryRead) : String :=
  match summary.latest with
  | none => notCheckedNote
  | some latest =>
    if latest.retrieval = .failed then failedNote
    else if latest.state = .noDepartures then noDeparturesNote
    else if latest.state = .stale then staleNote
    else if latest.state ≠ .fresh then unknownNote
    else noOpportunitiesNote

/-- The texts that say something is absent. -/
def absenceStatements : List String := [noDeparturesNote, noOpportunitiesNote]

def absenceStates : List SourceState := [.noDepartures, .noCompatible]

variable {o : SourceObservation} {now : Int} {summary : TerminalSummaryRead}

/-- The ladder states an absence in two states of a check that did not fail. -/
theorem opportunitiesNote_absence_iff {e : SourceEvidenceRead} (h : summary.latest = some e) :
    opportunitiesNote summary ∈ absenceStatements ↔
      e.retrieval ≠ .failed ∧ (e.state = .noDepartures ∨ e.state = .fresh) := by
  unfold opportunitiesNote
  rw [h]
  by_cases hfailed : e.retrieval = .failed
  · simp only [hfailed, ↓reduceIte, ne_eq, not_true_eq_false, false_and, iff_false]
    decide
  · simp only [hfailed, ↓reduceIte, ne_eq, not_false_eq_true, true_and]
    cases e.state <;> decide

/-- A terminal with nothing observed states no absence. -/
theorem opportunitiesNote_of_never_observed (h : summary.latest = none) :
    opportunitiesNote summary ∉ absenceStatements := by
  unfold opportunitiesNote
  rw [h]
  decide

/-- Both states of the ladder's absence statements come from a successful read. -/
theorem effective_absence_iff :
    (evidenceRead o now).retrieval ≠ .failed ∧ ((evidenceRead o now).state = .noDepartures ∨
        (evidenceRead o now).state = .fresh) ↔
      (effective o now).state = .noDepartures ∨ (effective o now).state = .fresh := by
  constructor
  · intro h
    exact h.2
  · intro h
    have honest := evidenceRead_honest o now
    have hpositive : (evidenceRead o now).state ∈ positiveStates := by
      rcases h with h | h <;> rw [evidenceRead_state, h] <;> decide
    refine ⟨?_, h⟩
    rw [honest.copied.2.2.2.1, (honest.positive hpositive).1]
    decide

/-- **The detail screen states no false absence exactly when its headline does not
read as fresh.** The last text of the ladder is reached from `fresh`, which is
not an absence state. -/
theorem absence_note_true_iff (terminal : Terminal) (sources : List Source)
    (latest : UUID → Option SourceObservation) (now : Int) (o : SourceObservation)
    (headline : newest (sources.filterMap (observedOn latest)) = some o) :
    (opportunitiesNote (terminalSummary terminal sources latest now) ∈ absenceStatements →
      o.extraction ∈ interpreted ∧ (effective o now).state ∈ absenceStates) ↔
    ¬ (o.state = .fresh ∧ now - o.observedAt ≤ freshnessWindow) := by
  have shown : (terminalSummary terminal sources latest now).latest =
      some (evidenceRead o now) := by
    unfold terminalSummary
    rw [headline]
    rfl
  rw [opportunitiesNote_absence_iff shown, effective_absence_iff, effective_state]
  constructor
  · rintro htrue ⟨hfresh, hcurrent⟩
    rw [if_neg fun hold => by omega, hfresh] at htrue
    exact absurd (htrue (.inr rfl)).2 (by decide)
  · intro hnot hstates
    split at hstates
    · rcases hstates with h | h <;> cases h
    · rename_i hcurrent
      rw [if_neg hcurrent]
      rcases hstates with h | h
      · exact ⟨o.absence_interpreted (by rw [h]; decide), by rw [h]; decide⟩
      · exact absurd ⟨h, by_contra fun hold => hcurrent ⟨by rw [h]; decide, by omega⟩⟩ hnot

/-- A parsed page that says it has no departures. -/
def noDeparturesRead : SourceObservation :=
  { fixtureObservation (fixtureSource 1) 2 0 with
    state := .noDepartures
    extraction := .exact
    parserVersion := some (.lit "synthetic-parser-v1")
    consistent := rfl }

theorem published_absence_is_interpreted :
    noDeparturesRead.extraction ∈ interpreted ∧
      (effective noDeparturesRead freshnessWindow).state ∈ absenceStates :=
  (absence_note_true_iff (fixtureTerminal 1) [fixtureSource 1] (fun _ => some noDeparturesRead)
    freshnessWindow noDeparturesRead rfl).2 (by decide) (by decide)

/-- A read that looked at nothing but metadata states that nothing is published. -/
theorem metadata_read_states_absence :
    opportunitiesNote (terminalSummary (fixtureTerminal 1) [fixtureSource 1]
        (fun _ => some (fixtureObservation (fixtureSource 1) 2 0)) 0) = noOpportunitiesNote ∧
      newest ([fixtureSource 1].filterMap
        (observedOn fun _ => some (fixtureObservation (fixtureSource 1) 2 0))) =
          some (fixtureObservation (fixtureSource 1) 2 0) ∧
      (fixtureObservation (fixtureSource 1) 2 0).extraction ∉ interpreted ∧
      (effective (fixtureObservation (fixtureSource 1) 2 0) 0).state ∉ absenceStates :=
  ⟨by decide, rfl, by decide, by decide⟩

end PaxPivot
