import PaxPivot.Web.ApiClient
import PaxPivot.Web.TerminalScreens

/-!
# The source-health screen

`lib/presentation/adapters/source-health.ts` and `app/advanced/page.tsx`: what the operations view
tells of every registered source, its counts and its notices. All states are the API's; a source
that was never observed is not checked yet.
-/

namespace PaxPivot

/-! ## Views -/

inductive SourceApproval where
  | approved | review | paused | restricted
  deriving DecidableEq

structure SourceHealthRowView where
  id : UUID
  name : Identifier
  evidence : Option SourceEvidenceView
  pageTime : Fact String
  readAt : Fact String
  cadence : Fact String
  reader : Fact String
  approval : SourceApproval
  killSwitched : Bool
  openHref : HttpUrl
  deriving DecidableEq

inductive NoticeKind where
  | conflict | missing | restricted
  deriving DecidableEq

structure SourceHealthNoticeView where
  id : String
  kind : NoticeKind
  title : String
  body : String
  deriving DecidableEq

/-- A count of the summary; its evidence is a bare state. -/
structure StateCountView where
  state : SourceState
  count : Nat
  deriving DecidableEq

structure SourceHealthScreenModel where
  status : ScreenStatus
  summary : List StateCountView
  rows : List SourceHealthRowView
  notices : List SourceHealthNoticeView

/-! ## Adapters -/

/-- `APPROVAL`. -/
def approvalOf : PolicyReviewState → SourceApproval
  | .approved => .approved
  | .needsReview => .review
  | .paused => .paused
  | .restricted => .restricted

def formatCadence (minutes : Nat) : String :=
  if minutes % 60 = 0 ∧ 60 ≤ minutes then "Every " ++ toString (minutes / 60) ++ " h"
  else "Every " ++ toString minutes ++ " min"

def toSourceHealthRow (row : SourceHealthRowRead) (nowMs : Int) : SourceHealthRowView where
  id := row.sourceId
  name := row.name
  evidence := row.latest.map (toEvidenceView · nowMs)
  pageTime :=
    match row.latest with
    | some latest =>
      Fact.ofOption "Page showed no timestamp" (latest.sourceTime.map formatTimestamp)
    | none => .unknown (some notChecked)
  readAt := Fact.ofOption notChecked (row.latest.map fun latest => formatTimestamp latest.observedAt)
  cadence := Fact.ofOption "Not scheduled" (row.cadenceMinutes.map fun n => formatCadence n)
  reader :=
    match row.adapterId, row.adapterVersion with
    | some adapterId, some adapterVersion => .known (adapterId.text ++ " " ++ adapterVersion.text)
    | _, _ => .unknown (some "Not assigned")
  approval := approvalOf row.reviewState
  killSwitched := row.killSwitched
  openHref := row.url

/-- The explanation of the row's state. -/
def noticeBody (row : SourceHealthRowRead) : String :=
  (row.latest.map (·.explanation)).getD ""

/-- What one row adds to the notices. -/
def rowNotices (row : SourceHealthRowRead) : List SourceHealthNoticeView :=
  let state := row.latest.map (·.state)
  (if state = some .conflict then
      [{ id := "conflict-" ++ row.sourceId.str, kind := .conflict
         title := "Conflicting evidence for " ++ row.name.text, body := noticeBody row }]
    else if state = some .missing then
      [{ id := "missing-" ++ row.sourceId.str, kind := .missing
         title := "An artifact is missing for " ++ row.name.text, body := noticeBody row }]
    else []) ++
  if row.reviewState = .restricted ∨ state = some .restricted then
    [{ id := "restricted-" ++ row.sourceId.str, kind := .restricted
       title := row.name.text ++ " is restricted"
       body := "PaxPivot does not retrieve or reproduce it. Open the official page yourself." }]
  else []

def toNotices (rows : List SourceHealthRowRead) : List SourceHealthNoticeView :=
  rows.flatMap rowNotices

def toSourceHealthScreenModel (read : SourceHealthRead) (nowMs : Int) :
    SourceHealthScreenModel where
  status := if read.rows.length > 0 then .ready else .empty
  summary := read.counts.map fun c => ⟨c.state, c.count⟩
  rows := read.rows.map (toSourceHealthRow · nowMs)
  notices := toNotices read.rows

/-! ## The page -/

def advancedPage (read : ApiResult SourceHealthRead) (nowMs : Int) :
    PageAnswer SourceHealthScreenModel :=
  match read with
  | .error .notConfigured => .notConfigured
  | .error _ => .failed
  | .ok read => .shown (toSourceHealthScreenModel read nowMs)

def ApiAnswer.healthJson : ApiAnswer → Option SourceHealthRead
  | .sourceHealth read => some read
  | _ => none

def Site.readHealth (site : Site) (s : Server) (reached : Bool) (now : Int) :
    ApiResult SourceHealthRead :=
  site.readApi s reached now .sourceHealth ApiAnswer.healthJson

/-! ## What the screen tells -/

section Tells

variable {site : Site} {s : Server} {reached : Bool} {now nowMs : Int}

/-- The states of the rows that show evidence. -/
def SourceHealthScreenModel.states (model : SourceHealthScreenModel) : List SourceState :=
  model.rows.filterMap fun row => row.evidence.map (·.state)

/-- The newest observation of a source. -/
def Server.latest (s : Server) (id : UUID) : Option SourceObservation :=
  PaxPivot.latestPerSource s.database.observations id

/-- The registry's health at the moment of a read. -/
def Server.health (s : Server) (now : Int) : SourceHealthRead :=
  listSourceHealth s.database.sourceReader s.database.observationReader
    s.database.killSwitchReader now

/-- What a row tells of its source: what was read last, honestly, and when, or that nothing was. -/
def TellsOf (s : Server) (now nowMs : Int) (source : Source) (row : SourceHealthRowView) : Prop :=
  row.name = source.name ∧ row.approval = approvalOf source.policy.reviewState ∧
    row.openHref = source.identity.url ∧
    (s.latest source.sourceId = none ∧ row.evidence = none ∧
        row.pageTime = .unknown (some notChecked) ∧ row.readAt = .unknown (some notChecked) ∨
      ∃ o e, s.latest source.sourceId = some o ∧ ReadsHonestly o now e ∧
        row.evidence = some (toEvidenceView e nowMs) ∧
        row.readAt = .known (formatTimestamp o.observedAt))

/-- A row that a notice of a kind is for. -/
def needsNotice (kind : NoticeKind) (row : SourceHealthRowView) : Bool :=
  match kind with
  | .conflict => row.evidence.map (·.state) = some .conflict
  | .missing => row.evidence.map (·.state) = some .missing
  | .restricted => row.approval = .restricted ∨ row.evidence.map (·.state) = some .restricted

def NoticeKind.mark : NoticeKind → String
  | .conflict => "conflict-"
  | .missing => "missing-"
  | .restricted => "restricted-"

/-- The id of a notice tells its kind and its source. -/
theorem mark_str_inj {k k' : NoticeKind} {id id' : UUID}
    (h : k.mark ++ id.str = k'.mark ++ id'.str) : k = k' ∧ id = id' := by
  -- The marks differ in their first character.
  have first := congrArg (fun t : String => t.toList.head?) h
  simp only [String.toList_append] at first
  have heads : ∀ k : NoticeKind, ∀ t : List Char, (k.mark.toList ++ t).head? = k.mark.toList.head? := by
    intro k t
    cases k <;> rfl
  rw [heads, heads] at first
  have kinds : k = k' := by
    revert first
    cases k <;> cases k' <;> decide
  subst kinds
  have same : id.str = id'.str := String.append_right_inj _ |>.1 h
  have parsed := UUID.parse_str id
  rw [same, UUID.parse_str] at parsed
  exact ⟨rfl, (Option.some.inj parsed).symm⟩

theorem state_toSourceHealthRow (row : SourceHealthRowRead) :
    (toSourceHealthRow row nowMs).evidence.map (·.state) = row.latest.map (·.state) := by
  unfold toSourceHealthRow
  rw [Option.map_map]
  rfl

theorem states_toSourceHealthScreenModel (read : SourceHealthRead) (nowMs : Int) :
    (toSourceHealthScreenModel read nowMs).states = shownStates read.rows := by
  unfold SourceHealthScreenModel.states shownStates toSourceHealthScreenModel
  rw [List.filterMap_map]
  apply List.filterMap_congr
  intro row _
  exact state_toSourceHealthRow row

theorem approvalOf_restricted {review : PolicyReviewState} :
    approvalOf review = .restricted ↔ review = .restricted := by
  cases review <;> decide

/-- **The notices of a row**: for each kind one, when the row needs it. -/
theorem rowNotices_ids (row : SourceHealthRowRead) (nowMs : Int) (kind : NoticeKind) :
    ((rowNotices row).filter (·.kind = kind)).map (·.id) =
      if needsNotice kind (toSourceHealthRow row nowMs) then [kind.mark ++ row.sourceId.str]
      else [] := by
  have approval : (toSourceHealthRow row nowMs).approval = approvalOf row.reviewState := rfl
  unfold rowNotices needsNotice
  simp only [state_toSourceHealthRow, approval, approvalOf_restricted]
  generalize row.latest.map (·.state) = state
  by_cases conflict : state = some .conflict
  case pos =>
    subst conflict
    by_cases restricted : row.reviewState = .restricted <;> cases kind <;>
      simp [restricted, NoticeKind.mark]
  case neg =>
    by_cases missing : state = some .missing
    case pos =>
      subst missing
      by_cases restricted : row.reviewState = .restricted <;> cases kind <;>
        simp [restricted, NoticeKind.mark]
    case neg =>
      by_cases restricted : row.reviewState = .restricted ∨ state = some .restricted <;>
        cases kind <;> simp [conflict, missing, restricted, NoticeKind.mark]

/-- **The notices of a screen**: for each kind one for each row that needs it, in their order. -/
theorem toNotices_ids (rows : List SourceHealthRowRead) (nowMs : Int) (kind : NoticeKind) :
    ((toNotices rows).filter (·.kind = kind)).map (·.id) =
      ((rows.map (toSourceHealthRow · nowMs)).filter (needsNotice kind)).map fun row =>
        kind.mark ++ row.id.str := by
  induction rows with
  | nil => rfl
  | cons row rest ih =>
    have first := rowNotices_ids row nowMs kind
    unfold toNotices at ih ⊢
    rw [List.flatMap_cons, List.filter_append, List.map_append, ih, first, List.map_cons,
      List.filter_cons]
    split
    · rfl
    · rfl

theorem mem_rowNotices {row : SourceHealthRowRead} {notice : SourceHealthNoticeView}
    (h : notice ∈ rowNotices row) : notice.id = notice.kind.mark ++ row.sourceId.str := by
  unfold rowNotices at h
  rcases List.mem_append.1 h with h | h
  · split at h
    · obtain rfl := List.mem_singleton.1 h
      rfl
    · split at h
      · obtain rfl := List.mem_singleton.1 h
        rfl
      · cases h
  · split at h
    · obtain rfl := List.mem_singleton.1 h
      rfl
    · cases h

/-- The notices of one row are of different kinds. -/
theorem rowNotices_kinds (row : SourceHealthRowRead) :
    (rowNotices row).Pairwise fun a b => a.kind ≠ b.kind := by
  unfold rowNotices
  refine List.pairwise_append.2 ⟨?_, ?_, fun a ha b hb => ?_⟩
  · split
    · exact List.pairwise_singleton _ _
    · split
      · exact List.pairwise_singleton _ _
      · exact List.Pairwise.nil
  · split
    · exact List.pairwise_singleton _ _
    · exact List.Pairwise.nil
  · have second : b.kind = .restricted := by
      split at hb
      · obtain rfl := List.mem_singleton.1 hb
        rfl
      · cases hb
    have first : a.kind = .conflict ∨ a.kind = .missing := by
      split at ha
      · obtain rfl := List.mem_singleton.1 ha
        exact .inl rfl
      · split at ha
        · obtain rfl := List.mem_singleton.1 ha
          exact .inr rfl
        · cases ha
    rw [second]
    rcases first with first | first <;> rw [first] <;> decide

/-- No two notices have one id. -/
theorem toNotices_distinct {rows : List SourceHealthRowRead}
    (distinct : (rows.map (·.sourceId)).Nodup) : ((toNotices rows).map (·.id)).Nodup := by
  have rowOf := (List.nodup_map_iff_inj_on distinct.of_map).1 distinct
  unfold toNotices
  rw [List.Nodup, List.pairwise_map, List.pairwise_flatMap]
  constructor
  · intro row hrow
    refine (rowNotices_kinds row).imp_of_mem fun ha hb kinds same => kinds ?_
    rw [mem_rowNotices ha, mem_rowNotices hb] at same
    exact (mark_str_inj same).1
  · refine distinct.of_map.imp_of_mem fun hrow hrow' rows a ha b hb same => rows ?_
    rw [mem_rowNotices ha, mem_rowNotices hb] at same
    exact rowOf _ hrow _ hrow' (mark_str_inj same).2

/-- **A row tells of its source.** -/
theorem tellsOf_healthRow (source : Source) {switches : List KillSwitch} :
    TellsOf s now nowMs source
      (toSourceHealthRow (healthRow source (s.latest source.sourceId) switches now) nowMs) := by
  refine ⟨rfl, rfl, rfl, ?_⟩
  cases hlatest : s.latest source.sourceId with
  | none => exact .inl ⟨rfl, rfl, rfl, rfl⟩
  | some o =>
    refine .inr ⟨o, evidenceRead o now, rfl, evidenceRead_honest o now, rfl, ?_⟩
    have stamp : (evidenceRead o now).observedAt = o.observedAt := evidenceRead_observedAt
    rw [← stamp]
    rfl

/-- **The operations view tells of every registered source.** Each is shown once, with its newest
observation read honestly or as not checked; the summary counts the states that the rows show,
and a notice is there for a row exactly when it needs one. Who is not let in sees the error
state, and no source. -/
theorem source_health_true (site : Site) (s : Server) (reached : Bool) (now nowMs : Int) :
    let page := advancedPage (site.readHealth s reached now) nowMs
    (¬ site.Configured → page = .notConfigured) ∧
    (site.Configured → ¬ Admitted site reached → page = .failed) ∧
    (Admitted site reached → ∃ model, page = .shown model ∧
      (model.status = .empty ↔ s.database.registry.sources = []) ∧
      (model.rows.map (·.id)).Perm (s.database.registry.sources.map (·.sourceId)) ∧
      (∀ row ∈ model.rows, ∃ source, s.database.getSource row.id = some source ∧
        TellsOf s now nowMs source row) ∧
      Tally.Exact (model.summary.map fun c => (c.state, c.count)) model.states ∧
      (model.notices.map (·.id)).Nodup ∧
      ∀ kind, (model.notices.filter (·.kind = kind)).map (·.id) =
        (model.rows.filter (needsNotice kind)).map fun row => kind.mark ++ row.id.str) := by
  intro page
  refine ⟨fun unset => ?_, fun set refused => ?_, fun admitted => ?_⟩
  · show advancedPage (site.readHealth s reached now) nowMs = _
    rw [Site.readHealth, Site.readApi, callApi_unset unset]
    rfl
  · show advancedPage (site.readHealth s reached now) nowMs = _
    obtain ⟨failure, reasons, same⟩ :=
      readApi_refused .sourceHealth ApiAnswer.healthJson now set refused
    rw [Site.readHealth, same]
    rcases List.mem_pair.1 reasons with rfl | rfl
    · rfl
    · rfl
  · have read : site.readHealth s reached now = .ok (s.health now) := readApi_admitted admitted
    have registered : (s.database.listSources.map (·.sourceId)).Perm
        (s.database.registry.sources.map (·.sourceId)) := (List.perm_insertionSort _ _).map _
    refine ⟨_, congrArg (advancedPage · nowMs) read, ?_, ?_, ?_, ?_, ?_, fun kind => ?_⟩
    · have length := registered.length_eq
      rw [List.length_map, List.length_map] at length
      show (if (List.map _ s.database.listSources).length > 0 then ScreenStatus.ready
        else .empty) = .empty ↔ _
      rw [List.length_map, length, ← List.length_eq_zero_iff]
      split
      case isTrue filled => exact iff_of_false (by decide) (by omega)
      case isFalse empty => exact iff_of_true rfl (by omega)
    · show ((List.map _ (List.map _ s.database.listSources)).map _).Perm _
      rw [List.map_map, List.map_map]
      exact registered
    · intro row hrow
      obtain ⟨read, hread, rfl⟩ := List.mem_map.1 hrow
      obtain ⟨source, hsource, rfl⟩ := List.mem_map.1 hread
      have found := Database.getSource_eq_some_iff.2 ⟨Database.mem_listSources.1 hsource, rfl⟩
      exact ⟨source, found, tellsOf_healthRow source⟩
    · have counts : Tally.Exact ((s.health now).counts.map fun c => (c.state, c.count))
          (shownStates (s.health now).rows) := listSourceHealth_counts
      rw [← states_toSourceHealthScreenModel (s.health now) nowMs] at counts
      show Tally.Exact (((s.health now).counts.map _).map _) _
      rwa [List.map_map]
    · apply toNotices_distinct
      show ((List.map _ s.database.listSources).map _).Nodup
      rw [List.map_map]
      exact registered.nodup_iff.2 s.database.registry.distinct
    · exact toNotices_ids _ nowMs kind

end Tells

end PaxPivot
