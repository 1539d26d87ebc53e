import PaxPivot.Web.ApiClient
import PaxPivot.Web.TerminalScreens

/-!
# The registry's pages

`app/terminals/page.tsx`, `app/terminals/[terminalId]/page.tsx` and `app/page.tsx`: the network, one
terminal, and the origins that a new trip can start from. A page never states an absence that it
could not read.
-/

namespace PaxPivot

/-! ## Pages -/

def terminalsPage (read : ApiResult TerminalNetworkRead) (nowMs : Int) :
    PageAnswer TerminalNetworkScreenModel :=
  match read with
  | .error .notConfigured => .notConfigured
  | .error _ => .failed
  | .ok read => .shown (toTerminalNetworkScreenModel read nowMs)

/-- The page of a terminal whose id is a UUID. -/
def terminalDetailPage (numberText : ℚ → String) (read : ApiResult TerminalDetailRead)
    (nowMs : Int) : PageAnswer TerminalDetailScreenModel :=
  match read with
  | .error .notFound => .notFound
  | .error .notConfigured => .notConfigured
  | .error _ => .failed
  | .ok read => .shown (toTerminalDetailScreenModel numberText read nowMs)

/-- A terminal that the form of a new trip offers. -/
structure OriginOption where
  id : UUID
  name : Identifier
  deriving DecidableEq

/-- The form's origins; an empty list is the page's empty state. -/
def planPage (read : ApiResult TerminalNetworkRead) : PageAnswer (List OriginOption) :=
  match read with
  | .error .notConfigured => .notConfigured
  | .error _ => .failed
  | .ok read => .shown (read.terminals.map fun t => ⟨t.terminalId, t.name⟩)

/-! ## Reading through the client -/

namespace ApiAnswer

def networkJson : ApiAnswer → Option TerminalNetworkRead
  | .terminalNetwork read => some read
  | _ => none

def detailJson : ApiAnswer → Option TerminalDetailRead
  | .terminalDetail read => some read
  | _ => none

end ApiAnswer

namespace Site

variable (site : Site) (s : Server) (reached : Bool) (now : Int)

def readNetwork : ApiResult TerminalNetworkRead :=
  site.readApi s reached now .terminalNetwork ApiAnswer.networkJson

def readDetail (id : UUID) : ApiResult TerminalDetailRead :=
  site.readApi s reached now (.terminalDetail id) ApiAnswer.detailJson

end Site

/-! ## The reads -/

section Reads

variable {site : Site} {s : Server} {reached : Bool} {now nowMs : Int} {id : UUID}

/-- The network at the moment of a read. -/
def Server.network (s : Server) (now : Int) : TerminalNetworkRead :=
  listTerminalNetwork s.database.terminalReader s.database.sourceReader
    s.database.observationReader now

theorem readNetwork_admitted (admitted : Admitted site reached) :
    site.readNetwork s reached now = .ok (s.network now) :=
  readApi_admitted admitted

/-- A terminal's detail at the moment of a read. -/
def Server.detail (s : Server) (now : Int) (id : UUID) : Result TerminalDetailRead :=
  getTerminalDetail id s.database.terminalReader s.database.sourceReader
    s.database.observationReader now

/-- A terminal's detail is there when it is registered. -/
theorem detail_cases (s : Server) (now : Int) (id : UUID) :
    (s.database.getTerminal id = none ∧ ∃ e, s.detail now id = .error e) ∨
    ∃ terminal detail, s.database.getTerminal id = some terminal ∧ s.detail now id = .ok detail ∧
      detail.summary = terminalSummary terminal (s.database.listTerminalSources id)
        (PaxPivot.latestPerSource s.database.observations) now := by
  cases hterminal : s.database.getTerminal id with
  | none =>
    have missing : s.database.terminalReader.getTerminal id = none := hterminal
    refine .inl ⟨rfl, ?_⟩
    unfold Server.detail getTerminalDetail
    rw [missing]
    exact ⟨_, rfl⟩
  | some terminal =>
    have found : s.database.terminalReader.getTerminal id = some terminal := hterminal
    exact .inr ⟨terminal, _, rfl, getTerminalDetail_ok_iff.2 ⟨terminal, found, rfl⟩, rfl⟩

theorem readDetail_admitted (admitted : Admitted site reached) :
    site.readDetail s reached now id =
      match s.detail now id with
      | .ok detail => .ok detail
      | .error _ => .error .notFound := by
  have read : site.readDetail s reached now id =
      (s.answerRead now (.terminalDetail id)).outcome ApiAnswer.detailJson :=
    readApi_admitted admitted
  have answer : s.answerRead now (.terminalDetail id) =
      orNotFound .terminalDetail (s.detail now id) := rfl
  rw [read, answer]
  cases s.detail now id with
  | error e => rfl
  | ok detail => rfl

/-- What reading the detail of a terminal comes to. -/
theorem readDetail_cases (site : Site) (s : Server) (reached : Bool) (now : Int) (id : UUID) :
    (Admitted site reached ∧ ∃ detail, s.detail now id = .ok detail ∧
      site.readDetail s reached now id = .ok detail) ∨
    ¬ (Admitted site reached ∧ ∃ terminal, s.database.getTerminal id = some terminal) ∧
      ∃ failure, site.readDetail s reached now id = .error failure := by
  by_cases admitted : Admitted site reached
  case pos =>
    rw [readDetail_admitted admitted]
    rcases detail_cases s now id with ⟨missing, e, answer⟩ | ⟨terminal, detail, -, answer, -⟩
    · refine .inr ⟨?_, .notFound, by rw [answer]⟩
      rintro ⟨-, terminal, found⟩
      rw [missing] at found
      cases found
    · exact .inl ⟨admitted, detail, answer, by rw [answer]⟩
  case neg =>
    refine .inr ⟨fun h => admitted h.1, ?_⟩
    unfold Site.readDetail
    by_cases set : site.Configured
    case pos =>
      obtain ⟨failure, -, same⟩ :=
        readApi_refused (.terminalDetail id) ApiAnswer.detailJson now set admitted
      exact ⟨failure, same s⟩
    case neg => exact ⟨.notConfigured, callApi_unset set _⟩

/-- The terminals of the network by their ids. -/
theorem network_ids :
    ((s.network now).terminals.map (·.terminalId)).Perm
      (s.database.terminals.map (·.terminalId)) := by
  have ids : (s.network now).terminals.map (·.terminalId) =
      s.database.listTerminals.map (·.terminalId) := List.map_map
  rw [ids]
  exact (List.perm_insertionSort _ _).map _

/-- The card of a terminal is on the network's page. -/
theorem network_summary {terminal : Terminal} (found : s.database.getTerminal id = some terminal) :
    terminalSummary terminal (s.database.listTerminalSources id)
      (PaxPivot.latestPerSource s.database.observations) now ∈ (s.network now).terminals := by
  obtain ⟨hterminal, rfl⟩ := Database.getTerminal_eq_some_iff.1 found
  exact List.mem_map.2 ⟨terminal, Database.mem_listTerminals.2 found, rfl⟩

/-- A page that reads the API and was not let in. -/
theorem readNetwork_refused (set : site.Configured) (refused : ¬ Admitted site reached) :
    terminalsPage (site.readNetwork s reached now) nowMs = .failed ∧
      planPage (site.readNetwork s reached now) = .failed := by
  obtain ⟨failure, reasons, same⟩ :=
    readApi_refused .terminalNetwork ApiAnswer.networkJson now set refused
  rw [Site.readNetwork, same]
  rcases List.mem_pair.1 reasons with rfl | rfl
  · exact ⟨rfl, rfl⟩
  · exact ⟨rfl, rfl⟩

/-- **The registry's pages tell what is registered.** Who is let in sees every terminal once, and
may start a trip from every one of them; a terminal's own page shows the card that the network's
page shows, and is not found exactly when the terminal is not registered. An empty network or a
missing terminal is told to nobody else. -/
theorem registry_pages_true (numberText : ℚ → String) (site : Site) (s : Server) (reached : Bool)
    (now nowMs : Int) :
    let network := terminalsPage (site.readNetwork s reached now) nowMs
    let plan := planPage (site.readNetwork s reached now)
    let page := fun id => terminalDetailPage numberText (site.readDetail s reached now id) nowMs
    (¬ site.Configured →
      network = .notConfigured ∧ plan = .notConfigured ∧ ∀ id, page id = .notConfigured) ∧
    (site.Configured → ¬ Admitted site reached →
      network = .failed ∧ plan = .failed ∧ ∀ id, page id = .failed) ∧
    (Admitted site reached → ∃ model origins, network = .shown model ∧ plan = .shown origins ∧
      (model.status = .empty ↔ s.database.terminals = []) ∧
      (model.terminals.map (·.id)).Perm (s.database.terminals.map (·.terminalId)) ∧
      origins.map (·.id) = model.terminals.map (·.id) ∧
      ∀ id, (s.database.getTerminal id = none ∧ page id = .notFound) ∨
        ∃ detail, page id = .shown detail ∧ detail.terminal.id = id ∧
          detail.terminal ∈ model.terminals) := by
  intro network plan page
  refine ⟨fun unset => ?_, fun set refused => ?_, fun admitted => ?_⟩
  · have unread : site.readNetwork s reached now = .error .notConfigured := callApi_unset unset _
    refine ⟨congrArg (terminalsPage · nowMs) unread, congrArg planPage unread, fun id => ?_⟩
    have unread : site.readDetail s reached now id = .error .notConfigured := callApi_unset unset _
    exact congrArg (terminalDetailPage numberText · nowMs) unread
  · obtain ⟨network, plan⟩ := readNetwork_refused set refused
    refine ⟨network, plan, fun id => ?_⟩
    obtain ⟨failure, reasons, same⟩ :=
      readApi_refused (.terminalDetail id) ApiAnswer.detailJson now set refused
    show terminalDetailPage numberText (site.readDetail s reached now id) nowMs = .failed
    rw [Site.readDetail, same]
    rcases List.mem_pair.1 reasons with rfl | rfl
    · rfl
    · rfl
  · have read : site.readNetwork s reached now = .ok (s.network now) :=
      readNetwork_admitted admitted
    have ids : ((toTerminalNetworkScreenModel (s.network now) nowMs).terminals.map (·.id)) =
        (s.network now).terminals.map (·.terminalId) := List.map_map
    refine ⟨_, _, congrArg (terminalsPage · nowMs) read, congrArg planPage read, ?_, ?_, ?_, ?_⟩
    · have length := (@network_ids s now).length_eq
      rw [List.length_map, List.length_map] at length
      show (if (s.network now).terminals.length > 0 then ScreenStatus.ready else .empty) = _ ↔ _
      rw [length, ← List.length_eq_zero_iff]
      split
      case isTrue filled => exact iff_of_false (by decide) (by omega)
      case isFalse empty => exact iff_of_true rfl (by omega)
    · rw [ids]
      exact network_ids
    · rw [ids, List.map_map]
      rfl
    · intro id
      show (_ ∧ terminalDetailPage numberText (site.readDetail s reached now id) nowMs = _) ∨
        ∃ detail, terminalDetailPage numberText (site.readDetail s reached now id) nowMs = _ ∧ _
      rw [readDetail_admitted admitted]
      rcases detail_cases s now id with
        ⟨missing, e, answer⟩ | ⟨terminal, detail, found, answer, summary⟩
      · rw [answer]
        exact .inl ⟨missing, rfl⟩
      · rw [answer]
        refine .inr ⟨_, rfl, ?_, ?_⟩
        · show detail.summary.terminalId = id
          rw [summary]
          exact (Database.getTerminal_eq_some_iff.1 found).2
        · show toTerminalCard detail.summary nowMs ∈ _
          rw [summary]
          exact List.mem_map_of_mem (network_summary found)

end Reads

end PaxPivot
