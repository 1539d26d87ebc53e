import PaxPivot.Application.TripService
import PaxPivot.Web.ApiClient
import PaxPivot.Web.TerminalScreens

/-!
# Terminals to check

`lib/presentation/adapters/terminals-to-check.ts`: every registered terminal beside a trip, its
origin first and the others by name, each as its own page shows it, with a link to its schedule
that the traveler opens. How names compare is the locale's.
-/

namespace PaxPivot

/-- A link and what it is called. -/
structure ScheduleLink where
  href : HttpUrl
  label : String
  deriving DecidableEq

structure TerminalToCheckRowView where
  id : UUID
  name : Identifier
  installation : Option Identifier
  isOrigin : Bool
  evidence : Option SourceEvidenceView
  age : Option EvidenceAgeView
  officialHref : Option HttpUrl
  schedule : Fact ScheduleLink
  facts : List FactView

structure TerminalsToCheckViewModel where
  notARankingNote : String
  noScheduleAccessNote : String
  rows : List TerminalToCheckRowView

def notARankingNote : String :=
  "Your origin terminal is listed first, then every other registered terminal in a stable order. " ++
    "This list is not a ranking of where flying is more likely."

def noScheduleAccessNote : String := "PaxPivot does not read departure schedules yet."

def scheduleLabel : String := "72-hour schedule — open yourself"

def scheduleLoadFailed : String :=
  "PaxPivot could not load this terminal's schedule link right now. This is a failure on our side."

def scheduleNotRegistered : String :=
  "No 72-hour schedule source is registered for this terminal."

def alwaysUnknownFacts : List FactView :=
  [⟨"Destinations served", .unknown none⟩, ⟨"Entrance", .unknown (some "Not verified")⟩,
    ⟨"Drive time", .unknown none⟩]

/-- The schedule link of a terminal whose detail was read, or was not. -/
def scheduleFact : Option (ApiResult TerminalDetailRead) → Fact ScheduleLink
  | some (.ok detail) =>
    match detail.sources.find? fun s => s.kind = .scheduleArtifact with
    | some source => .known { href := source.url, label := scheduleLabel }
    | none => .unknown (some scheduleNotRegistered)
  | _ => .unknown (some scheduleLoadFailed)

section Order

-- `a.localeCompare(b)`.
variable (localeCompare : Identifier → Identifier → Ordering)

/-- The order of a sort by name: not after. -/
def NotAfter (a b : TerminalSummaryRead) : Prop := localeCompare a.name b.name ≠ .gt

instance NotAfter.decidable : DecidableRel (NotAfter localeCompare) :=
  fun _ _ => inferInstanceAs (Decidable (¬ _))

def orderTerminals (terminals : List TerminalSummaryRead) (originTerminalId : UUID) :
    List TerminalSummaryRead :=
  let origin := terminals.filter fun t => t.terminalId = originTerminalId
  let others := (terminals.filter fun t => t.terminalId ≠ originTerminalId).insertionSort
    (NotAfter localeCompare)
  origin ++ others

def terminalToCheckRow (trip : TripRead) (details : UUID → Option (ApiResult TerminalDetailRead))
    (nowMs : Int) (summary : TerminalSummaryRead) : TerminalToCheckRowView where
  id := summary.terminalId
  name := summary.name
  installation := summary.installation
  isOrigin := summary.terminalId = trip.originTerminalId
  evidence := summary.latest.map (toEvidenceView · nowMs)
  age := ageView summary nowMs
  officialHref := summary.officialUrl
  schedule := scheduleFact (details summary.terminalId)
  facts := alwaysUnknownFacts

def toTerminalsToCheckViewModel (trip : TripRead) (network : TerminalNetworkRead)
    (details : UUID → Option (ApiResult TerminalDetailRead)) (nowMs : Int) :
    TerminalsToCheckViewModel where
  notARankingNote := notARankingNote
  noScheduleAccessNote := noScheduleAccessNote
  rows := (orderTerminals localeCompare network.terminals trip.originTerminalId).map
    (terminalToCheckRow trip details nowMs)

end Order

/-! ## The order -/

section Ordered

variable {localeCompare : Identifier → Identifier → Ordering}

/-- What a locale's comparison promises: turning its names round turns the answer round, and names
that do not come after each other chain. -/
structure Collates (localeCompare : Identifier → Identifier → Ordering) : Prop where
  swap : ∀ a b, localeCompare b a = (localeCompare a b).swap
  trans : ∀ a b c, localeCompare a b ≠ .gt → localeCompare b c ≠ .gt → localeCompare a c ≠ .gt

theorem Collates.notAfter_total (h : Collates localeCompare) :
    Std.Total (NotAfter localeCompare) := by
  refine ⟨fun a b => ?_⟩
  unfold NotAfter
  rw [h.swap a.name b.name]
  cases localeCompare a.name b.name <;> decide

theorem Collates.notAfter_trans (h : Collates localeCompare) :
    IsTrans TerminalSummaryRead (NotAfter localeCompare) :=
  ⟨fun a b c => h.trans a.name b.name c.name⟩

/-- Names that are told apart from a name by nothing do not come after each other. -/
theorem Collates.same_notAfter (h : Collates localeCompare) {name a b : Identifier}
    (ha : localeCompare name a = .eq) (hb : localeCompare name b = .eq) :
    localeCompare a b ≠ .gt := by
  apply h.trans a name b
  · rw [h.swap name a, ha]
    decide
  · rw [hb]
    decide

theorem orderTerminals_perm (terminals : List TerminalSummaryRead) (origin : UUID) :
    (orderTerminals localeCompare terminals origin).Perm terminals := by
  unfold orderTerminals
  dsimp only
  have parts := List.filter_append_perm (fun t : TerminalSummaryRead => t.terminalId = origin)
    terminals
  refine (List.Perm.append_left _ (List.perm_insertionSort _ _)).trans ?_
  simpa using parts

end Ordered

end PaxPivot
