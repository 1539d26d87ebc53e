import Mathlib
import PaxPivot.Application.ReadServices

/-!
# Facts, tones and formats

`lib/presentation/fact.ts`, `source-state.ts` and `adapters/format.ts`: what a screen shows of a
value that was established or was not, of a source state, and of an instant. The API answers
the thirteen known state codes only.
-/

namespace PaxPivot

/-- A value the application either established or explicitly did not. -/
inductive Fact (α : Type) where
  | known (value : α)
  | unknown (note : Option String := none)
  deriving DecidableEq

/-- The fact of a value that may be missing. -/
def Fact.ofOption {α : Type} (note : String) : Option α → Fact α
  | some value => .known value
  | none => .unknown (some note)

inductive StatusTone where
  | verified | caution | unknown
  deriving DecidableEq

structure SourceStateLexeme where
  label : String
  tone : StatusTone
  deriving DecidableEq

/-- `SOURCE_STATE_LEXICON`. -/
def lexemeFor : SourceState → SourceStateLexeme
  | .fresh => ⟨"Fresh", .verified⟩
  | .stale => ⟨"Stale", .caution⟩
  | .unreachable => ⟨"Unavailable", .unknown⟩
  | .changedUnparsed => ⟨"Unreadable", .unknown⟩
  | .missing => ⟨"Missing", .unknown⟩
  | .conflict => ⟨"Conflict", .caution⟩
  | .monitorDelayed => ⟨"Late check", .caution⟩
  | .noDepartures => ⟨"None published", .verified⟩
  | .noCompatible => ⟨"No match", .verified⟩
  | .restricted => ⟨"Open yourself", .unknown⟩
  | .reviewRequired => ⟨"Needs review", .caution⟩
  | .superseded => ⟨"Superseded", .unknown⟩
  | .withdrawn => ⟨"Withdrawn", .unknown⟩

/-! ## Times

A `Date` is its milliseconds; one read from an API instant has lost the microseconds. -/

def dateMs (instant : Int) : Int := instant / 1000

/-- `"9m"`, `"3h"`, `"3d"`, never negative. -/
def formatAge (instant nowMs : Int) : String :=
  let minutes := max 0 ((nowMs - dateMs instant) / 60000)
  if minutes < 60 then toString minutes ++ "m"
  else
    let hours := minutes / 60
    if hours < 48 then toString hours ++ "h" else toString (hours / 24) ++ "d"

structure UtcFields where
  year : Int
  month : Int
  day : Int
  hour : Int
  minute : Int
  deriving DecidableEq

/-- The UTC fields of a `Date`. Years are counted from March, in eras of 400. -/
def utcFields (ms : Int) : UtcFields :=
  let days := ms / 86400000 + 719468
  let era := days / 146097
  let dayOfEra := days % 146097
  let yearOfEra :=
    (dayOfEra - dayOfEra / 1460 + dayOfEra / 36524 - dayOfEra / 146096) / 365
  let dayOfYear := dayOfEra - (365 * yearOfEra + yearOfEra / 4 - yearOfEra / 100)
  let fromMarch := (5 * dayOfYear + 2) / 153
  let month := if fromMarch < 10 then fromMarch + 3 else fromMarch - 9
  { year := yearOfEra + era * 400 + (if month ≤ 2 then 1 else 0)
    month
    day := dayOfYear - (153 * fromMarch + 2) / 5 + 1
    hour := ms / 3600000 % 24
    minute := ms / 60000 % 60 }

example : utcFields 1709164799999 = ⟨2024, 2, 28, 23, 59⟩ := by decide

/-- `String(n).padStart(2, "0")`. -/
def pad (n : Int) : String := if 0 ≤ n ∧ n < 10 then "0" ++ toString n else toString n

/-- `"2026-09-10 11:30Z"`. -/
def formatTimestamp (instant : Int) : String :=
  let d := utcFields (dateMs instant)
  toString d.year ++ "-" ++ pad d.month ++ "-" ++ pad d.day ++ " " ++ pad d.hour ++ ":" ++
    pad d.minute ++ "Z"

/-! ## Evidence -/

structure SourceEvidenceView where
  state : SourceState
  ageText : String
  explanation : String
  deriving DecidableEq

def toEvidenceView (read : SourceEvidenceRead) (nowMs : Int) : SourceEvidenceView where
  state := read.state
  ageText := formatAge read.observedAt nowMs
  explanation := read.explanation

def evidenceTone : Option SourceEvidenceRead → StatusTone
  | some read => (lexemeFor read.state).tone
  | none => .unknown

end PaxPivot
