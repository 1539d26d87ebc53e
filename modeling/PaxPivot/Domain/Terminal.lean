import Mathlib
import PaxPivot.Domain.Source

/-!
# Terminals and their operational facts

`domain/terminal.py`. A fact carries its own provenance and validity; a newer
fact of the same kind supersedes it by `recorded_at`, and an `effective_to`
closes it. Zone names are identifiers here: which of them exist is the time-zone
database's answer.
-/

namespace PaxPivot

/-- A finite latitude and longitude in range. -/
structure Coordinates where
  latitude : ℚ
  longitude : ℚ
  inRange : (-90 ≤ latitude ∧ latitude ≤ 90) ∧ (-180 ≤ longitude ∧ longitude ≤ 180)

inductive EntranceKind where
  | passengerTerminal | visitorCenter | documentedGate
  deriving DecidableEq

def EntranceKind.value : EntranceKind → String
  | .passengerTerminal => "passenger_terminal"
  | .visitorCenter => "visitor_center"
  | .documentedGate => "documented_gate"

structure VerifiedEntrance where
  kind : EntranceKind
  coordinates : Coordinates
  verification : Provenance
  instructions : Identifier

inductive OperationalState where
  | verified | unknown | conflict | ended
  deriving DecidableEq

def OperationalState.value : OperationalState → String
  | .verified => "verified"
  | .unknown => "unknown"
  | .conflict => "conflict"
  | .ended => "ended"

structure Terminal where
  terminalId : UUID
  name : Identifier
  installation : Option Identifier := none
  timezone : Identifier
  operationalState : OperationalState
  evidence : Provenance
  entrance : Option VerifiedEntrance
  baseCoordinates : Option Coordinates

inductive TerminalFactKind where
  | counterHours | phone | email | parking | passengerTerminalNote | usoAvailability | accessNote
  deriving DecidableEq

def TerminalFactKind.value : TerminalFactKind → String
  | .counterHours => "counter_hours"
  | .phone => "phone"
  | .email => "email"
  | .parking => "parking"
  | .passengerTerminalNote => "passenger_terminal_note"
  | .usoAvailability => "uso_availability"
  | .accessNote => "access_note"

/-- The `StringConstraints` of `FactText`: stripped, 1 to 2000 code points. -/
structure FactText where
  text : String
  stripped : PyText.stripChars PyText.whiteSpace text.toList = text.toList
  sized : 1 ≤ text.length ∧ text.length ≤ 2000
  deriving DecidableEq

structure FactFields where
  factId : UUID
  terminalId : UUID
  kind : TerminalFactKind
  value : FactText
  provenance : Provenance
  effectiveFrom : Option Int
  effectiveTo : Option Int
  recordedAt : Int
  deriving DecidableEq

/-- `TerminalOperationalFact.validity_window`. -/
def FactFields.validityWindow (f : FactFields) : Except String Unit :=
  match f.effectiveFrom, f.effectiveTo with
  | some start, some stop =>
    if stop ≤ start then .error "A validity window must end after it starts" else .ok ()
  | _, _ => .ok ()

structure TerminalOperationalFact extends FactFields where
  valid : toFactFields.validityWindow = .ok ()
  deriving DecidableEq

/-- The source that produced the fact. -/
def TerminalOperationalFact.sourceId (f : TerminalOperationalFact) : UUID :=
  f.provenance.source.sourceId

/-! ## Fixture records -/

def fixtureProvenance (source : Source) (observedAt : Int) : Provenance where
  source := source.identity
  observedAt
  sourceTime := none
  providerId := adapterId
  policyVersionId := source.policy.policyVersionId

def fixtureTerminal (terminalId : UUID) : Terminal where
  terminalId
  name := .lit "Example Terminal A"
  timezone := .lit "America/New_York"
  operationalState := .unknown
  evidence := fixtureProvenance (fixtureSource 1) 0
  entrance := none
  baseCoordinates := none

def fixtureFact (terminalId : UUID) (source : Source) : TerminalOperationalFact where
  factId := 5
  terminalId
  kind := .counterHours
  value := ⟨"synthetic-value", by decide, by decide⟩
  provenance := fixtureProvenance source 0
  effectiveFrom := none
  effectiveTo := none
  recordedAt := 0
  valid := rfl

end PaxPivot
