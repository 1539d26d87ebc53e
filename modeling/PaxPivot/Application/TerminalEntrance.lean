import Mathlib
import PaxPivot.Domain.Terminal

/-!
# Selecting a verified entrance

`application/terminal_entrance.py`: the entrance the registry already carries, and only while the
terminal's operations are verified.
-/

namespace PaxPivot

def terminalFailure (code : ErrorCode) (messageKey : Identifier) : ApplicationError :=
  { code, messageKey, retryable := false }

def operationalConflict : Identifier := .lit "terminal.operational_conflict"

def serviceEnded : Identifier := .lit "terminal.service_ended"

def entranceUnverified : Identifier := .lit "terminal.entrance_unverified"

def selectEntrance (terminal : Terminal) : Result VerifiedEntrance :=
  if terminal.operationalState = .conflict then
    .error (terminalFailure .conflict operationalConflict)
  else if terminal.operationalState = .ended then
    .error (terminalFailure .unavailable serviceEnded)
  else match terminal.operationalState, terminal.entrance with
    | .verified, some entrance => .ok entrance
    | _, _ => .error (terminalFailure .unavailable entranceUnverified)

variable {terminal : Terminal} {entrance : VerifiedEntrance}

/-- Verified operations and a recorded entrance, and nothing less. -/
theorem selectEntrance_ok_iff :
    selectEntrance terminal = .ok entrance ↔
      terminal.operationalState = .verified ∧ terminal.entrance = some entrance := by
  unfold selectEntrance
  cases terminal.operationalState <;> cases terminal.entrance <;> simp

/-- Nothing but the recorded entrance is ever selected. -/
theorem selectEntrance_toOption_cases (terminal : Terminal) :
    (selectEntrance terminal).toOption = terminal.entrance ∨
      (selectEntrance terminal).toOption = none := by
  cases h : selectEntrance terminal with
  | error e => exact .inr rfl
  | ok entrance => exact .inl (selectEntrance_ok_iff.1 h).2.symm

/-- What is selected is what is recorded, unless an entrance is recorded and operations are not
verified. -/
theorem selectEntrance_toOption_eq_iff :
    (selectEntrance terminal).toOption = terminal.entrance ↔
      terminal.entrance = none ∨ terminal.operationalState = .verified := by
  cases hentrance : terminal.entrance with
  | none =>
    have hcases := selectEntrance_toOption_cases terminal
    rw [hentrance, or_self] at hcases
    simp [hcases]
  | some entrance =>
    rw [toOption_eq_some_iff, selectEntrance_ok_iff]
    simp [hentrance]

end PaxPivot
