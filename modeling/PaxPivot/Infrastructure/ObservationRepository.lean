import PaxPivot.Application.SourcePipeline
import PaxPivot.Infrastructure.ObservationStore

/-!
# The database-backed observation repository

`SqlSourceObservationRepository.append`: one `INSERT` into `source_observations`,
which checks the row on its own, then against the registry and the rows already
there. Every check of a row on its own is one that the contract makes, except
that of the URL text.
-/

namespace PaxPivot

/-- `… NOT LIKE '%?%' AND … NOT LIKE '%#%'`. -/
def urlCarriesNoCredentials (text : String) : Bool :=
  !text.toList.contains '?' && !text.toList.contains '#'

/-- A text is clean when the texts it is made of are. -/
theorem urlCarriesNoCredentials_append {a b : String} :
    urlCarriesNoCredentials (a ++ b) =
      (urlCarriesNoCredentials a && urlCarriesNoCredentials b) := by
  unfold urlCarriesNoCredentials
  rw [String.toList_append]
  simp only [List.contains_append, Bool.not_or]
  ac_rfl

/-- A text written out is checked on its characters. -/
theorem urlCarriesNoCredentials_ofList {text : String} (chars : List Char)
    (h : text = String.ofList chars) (clean : chars.all (fun c => c ≠ '?' && c ≠ '#') = true) :
    urlCarriesNoCredentials text = true := by
  subst h
  unfold urlCarriesNoCredentials
  simp only [String.toList_ofList, Bool.and_eq_true, Bool.not_eq_true', List.contains_eq_mem,
    decide_eq_false_iff_not]
  constructor
  · intro h
    exact absurd (List.all_eq_true.1 clean _ h) (by decide)
  · intro h
    exact absurd (List.all_eq_true.1 clean _ h) (by decide)

/-- The CHECK constraints of `source_observations` on what a contract can hold. -/
inductive ObservationCheck where
  | positiveRequiresRetrieval | payloadRetrieved | reasonsPresent | supersedesNotSelf
  | urlCarriesNoCredentials
  deriving DecidableEq

def checkObservation (o : SourceObservation) : Except ObservationCheck Unit :=
  if ¬ (o.state ∉ positiveStates ∨ o.retrieval = .succeeded) then .error .positiveRequiresRetrieval
  else if ¬ (o.payloadRef = none ∨ o.retrieval = .succeeded) then .error .payloadRetrieved
  else if ¬ 0 < o.confidenceReasons.length then .error .reasonsPresent
  else if ¬ (o.supersedesObservationId = none ∨
      o.supersedesObservationId ≠ some o.observationId) then .error .supersedesNotSelf
  else if ¬ urlCarriesNoCredentials o.provenance.source.url.str then
    .error .urlCarriesNoCredentials
  else .ok ()

/-- Why an insert raises. -/
inductive StoreRefusal where
  | check (c : ObservationCheck)
  | unknownSource
  | constraint (c : ObservationConstraint)
  deriving DecidableEq

/-- `SqlSourceObservationRepository.append` in a transaction that began at `recordedAt`, as far as
the table's constraints refuse it: that the driver sends no text with a NUL is left out. -/
def appendObservation (registry : Registry) (recordedAt : Int) (o : SourceObservation)
    (rows : List ObservationRow) : Except StoreRefusal (List ObservationRow) :=
  match checkObservation o with
  | .error c => .error (.check c)
  | .ok _ =>
    if !registry.sources.any fun s => s.sourceId = o.sourceId then .error .unknownSource
    else match insertObservation rows ⟨o, recordedAt⟩ with
      | .error c => .error (.constraint c)
      | .ok rows' => .ok rows'

/-- The contract makes every check of a row on its own but the one of its URL. -/
theorem checkObservation_ok_iff {o : SourceObservation} :
    checkObservation o = .ok () ↔ urlCarriesNoCredentials o.provenance.source.url.str = true := by
  have consistent := (ObservationFields.evidenceConsistency_ok_iff _).1 o.consistent
  obtain ⟨positive, -, -, reasons, payload, supersedes⟩ := consistent
  unfold checkObservation
  simp only [raise_if_eq_ok_iff, not_not, and_true]
  constructor
  · rintro ⟨-, -, -, -, hurl⟩
    exact hurl
  · intro hurl
    refine ⟨?_, ?_, List.length_pos_of_ne_nil reasons, .inr supersedes, hurl⟩
    · by_cases h : o.state ∈ positiveStates
      · exact .inr (positive h)
      · exact .inl h
    · by_cases h : o.payloadRef = none
      · exact .inl h
      · exact .inr (payload h)

/-- What a row has to meet to be inserted after `rows`. -/
structure Insertable (registry : Registry) (rows : List ObservationRow) (o : SourceObservation) :
    Prop where
  url : urlCarriesNoCredentials o.provenance.source.url.str = true
  registered : ∃ s ∈ registry.sources, s.sourceId = o.sourceId
  fresh : ∀ r ∈ rows, r.observationId ≠ o.observationId
  reference : ∀ i, o.supersedesObservationId = some i →
    ∃ r ∈ rows, r.observationId = i ∧ r.sourceId = o.sourceId

theorem appendObservation_ok_iff {registry : Registry} {recordedAt : Int} {o : SourceObservation}
    {rows rows' : List ObservationRow} :
    appendObservation registry recordedAt o rows = .ok rows' ↔
      Insertable registry rows o ∧ rows' = rows ++ [⟨o, recordedAt⟩] := by
  unfold appendObservation
  cases hcheck : checkObservation o with
  | error c =>
    have hurl : ¬ urlCarriesNoCredentials o.provenance.source.url.str = true := by
      rw [← checkObservation_ok_iff, hcheck]
      intro h
      cases h
    constructor
    · intro h
      cases h
    · rintro ⟨insertable, -⟩
      exact absurd insertable.url hurl
  | ok _ =>
    have hurl := checkObservation_ok_iff.1 hcheck
    dsimp only
    rw [raise_if_eq_ok_iff]
    have hregistered : (¬ (!registry.sources.any fun s => s.sourceId = o.sourceId) = true) ↔
        ∃ s ∈ registry.sources, s.sourceId = o.sourceId := by
      simp
    rw [hregistered]
    have hinsert : (match insertObservation rows ⟨o, recordedAt⟩ with
        | .error c => .error (.constraint c)
        | .ok rows' => .ok rows' : Except StoreRefusal (List ObservationRow)) = .ok rows' ↔
        insertObservation rows ⟨o, recordedAt⟩ = .ok rows' := by
      cases insertObservation rows ⟨o, recordedAt⟩ <;> simp
    rw [hinsert, insertObservation_ok_iff]
    constructor
    · rintro ⟨registered, accepts, rfl⟩
      exact ⟨⟨hurl, registered, accepts.fresh, fun i hi => accepts.reference i hi⟩, rfl⟩
    · rintro ⟨insertable, rfl⟩
      exact ⟨insertable.registered, ⟨insertable.fresh, fun i hi => insertable.reference i hi⟩, rfl⟩

/-- The repository over one transaction's connection. -/
def sqlObservations (registry : Registry) (recordedAt : Int) :
    SourceObservationRepository StoreRefusal (List ObservationRow) where
  append := appendObservation registry recordedAt

end PaxPivot
