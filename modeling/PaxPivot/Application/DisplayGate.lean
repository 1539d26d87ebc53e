import PaxPivot.Application.ReadServices

/-!
# Which facts a terminal's detail shows

`displayable_facts` asks the producing source's policy and nothing else, so it
agrees with the gate as long as no source whose policy allows display is disabled
or covered by a switch.
-/

namespace PaxPivot

namespace Database

variable (db : Database)

/-- `get_terminal_detail` on this database. -/
def terminalDetail (terminalId : UUID) (now : Int) : Result TerminalDetailRead :=
  getTerminalDetail terminalId db.terminalReader db.sourceReader db.observationReader now

variable {db} {terminalId : UUID} {now : Int} {detail : TerminalDetailRead}
  {f : TerminalOperationalFact}

/-- The shown facts are current facts of the terminal whose producing source is
registered and allows display. -/
theorem fact_mem_terminalDetail (h : db.terminalDetail terminalId now = .ok detail)
    (hf : f ∈ db.facts) :
    factRead f ∈ detail.facts ↔ f ∈ db.listCurrentFacts terminalId ∧
      ∃ s, db.getSource f.sourceId = some s ∧ s.policy.allows .display = true := by
  obtain ⟨terminal, -, rfl⟩ := getTerminalDetail_ok_iff.1 h
  show factRead f ∈
    (displayableFacts (db.listCurrentFacts terminalId) db.sourceReader).map factRead ↔ _
  rw [List.mem_map]
  constructor
  · rintro ⟨g, hg, hread⟩
    rw [mem_displayableFacts] at hg
    have hid : g.factId = f.factId := congrArg TerminalFactRead.factId hread
    obtain rfl :=
      DistinctKeys.eq_of_key_eq db.factsDistinct (mem_listCurrentFacts hg.1).1 hf hid
    exact hg
  · intro hshown
    exact ⟨f, mem_displayableFacts.2 hshown, rfl⟩

/-- **The detail shows authorized facts only, exactly when no source that allows
display is disabled or switched off.** -/
theorem shown_facts_authorized_iff (db : Database) (terminalId : UUID) (now : Int) :
    (∀ detail, db.terminalDetail terminalId now = .ok detail →
      ∀ f ∈ db.facts, factRead f ∈ detail.facts →
        ∃ s, db.getSource f.sourceId = some s ∧ Authorized s .display db.listEngaged) ↔
    ∀ terminal, db.getTerminal terminalId = some terminal →
      ∀ f ∈ db.listCurrentFacts terminalId, ∀ s, db.getSource f.sourceId = some s →
        s.policy.allows .display = true →
          s.enabled = true ∧ ∀ k ∈ db.listEngaged, k.covers s .display = false := by
  constructor
  · intro hgated terminal hterminal f hcurrent s hs hallows
    have hdetail : db.terminalDetail terminalId now = .ok _ :=
      getTerminalDetail_ok_iff.2 ⟨terminal, hterminal, rfl⟩
    have hf := (mem_listCurrentFacts hcurrent).1
    obtain ⟨s', hs', hauthorized⟩ := hgated _ hdetail f hf
      ((fact_mem_terminalDetail hdetail hf).2 ⟨hcurrent, s, hs, hallows⟩)
    obtain rfl : s' = s := Option.some.inj (hs'.symm.trans hs)
    obtain ⟨hswitches, henabled, -⟩ := authorized_iff.1 hauthorized
    exact ⟨henabled, hswitches⟩
  · intro hcovered detail hdetail f hf hshown
    obtain ⟨terminal, hterminal, -⟩ := getTerminalDetail_ok_iff.1 hdetail
    obtain ⟨hcurrent, s, hs, hallows⟩ := (fact_mem_terminalDetail hdetail hf).1 hshown
    obtain ⟨henabled, hswitches⟩ := hcovered terminal hterminal f hcurrent s hs hallows
    exact ⟨s, hs, authorized_iff.2 ⟨hswitches, henabled, hallows⟩⟩

end Database

/-- An operator stops display everywhere. -/
def displaySwitch : KillSwitch where
  switchId := 8
  scope := .mode
  key := .lit "display"
  reason := syntheticIncident
  engagedAt := 0
  releasedAt := none
  keyed := by decide

/-- A fact is shown while its source is disabled, and while display is switched off. -/
theorem stopped_facts_are_shown :
    (∃ detail source,
      (fixtureDatabase { fixtureSource 1 with enabled := false } []).terminalDetail 1 0 =
        .ok detail ∧
      factRead (fixtureFact 1 (fixtureSource 1)) ∈ detail.facts ∧
      (fixtureDatabase { fixtureSource 1 with enabled := false } []).getSource 1 = some source ∧
      authorizeProcessing source .display [] = .error (forbidden (.lit "source.disabled"))) ∧
    ∃ detail source,
      (fixtureDatabase (fixtureSource 1) [displaySwitch]).terminalDetail 1 0 = .ok detail ∧
      factRead (fixtureFact 1 (fixtureSource 1)) ∈ detail.facts ∧
      (fixtureDatabase (fixtureSource 1) [displaySwitch]).getSource 1 = some source ∧
      authorizeProcessing source .display
          (fixtureDatabase (fixtureSource 1) [displaySwitch]).listEngaged =
        .error (forbidden killSwitchEngaged) :=
  ⟨⟨_, _, rfl, by decide, rfl, rfl⟩, ⟨_, _, rfl, by decide, rfl, by decide⟩⟩

end PaxPivot
