import PaxPivot.Application.SourceChecks

/-!
# What a source kill switch stops

The contract accepts any key that `UUID` reads; the gate compares the key with
`str(source_id)`. The two notions of equality meet on canonical keys only.
-/

namespace PaxPivot

/-- A covering switch is also the run's reason to skip. -/
theorem skipReason_of_covers {source : Source} {providerId : String} {switches : List KillSwitch}
    {k : KillSwitch} (hk : k ∈ switches) (hcovers : k.covers source .retrieve = true) :
    skipReason source providerId switches = some killSwitchEngaged := by
  unfold skipReason
  rw [authorizeProcessing_of_covers hk hcovers]
  rfl

theorem covers_of_source_scope {k : KillSwitch} (hscope : k.scope = .source)
    (hengaged : k.engaged = true) (source : Source) (mode : ProcessingMode) :
    k.covers source mode = decide (k.key.text = source.sourceId.str) := by
  simp [KillSwitch.covers, hscope, hengaged]

/-- **A source switch works exactly when its key is canonical.** An engaged
source switch the contract accepts stops every mode of the source whose id
`UUID(key)` is, in every list that contains it, if and only if its key is
`str` of a UUID. -/
theorem source_switch_stops_iff_canonical (k : KillSwitch) (hscope : k.scope = .source)
    (hengaged : k.engaged = true) :
    (∀ switches, k ∈ switches → ∀ source : Source, UUID.parse k.key.text = some source.sourceId →
      (∀ mode, authorizeProcessing source mode switches = .error (forbidden killSwitchEngaged)) ∧
        ∀ providerId, skipReason source providerId switches = some killSwitchEngaged) ↔
    ∃ u : UUID, k.key.text = u.str := by
  constructor
  · intro hstops
    obtain ⟨u, hu⟩ := k.source_key_parses hscope
    have hrefused := (hstops [k] (List.mem_singleton_self k) (fixtureSource u) hu).1 .retrieve
    obtain ⟨k', hk', hcovers⟩ := covers_of_authorizeProcessing hrefused
    rw [List.mem_singleton.1 hk', covers_of_source_scope hscope hengaged] at hcovers
    exact ⟨u, of_decide_eq_true hcovers⟩
  · rintro ⟨u, hcanonical⟩ switches hk source hid
    rw [hcanonical, UUID.parse_str, Option.some.injEq] at hid
    have hcovers : ∀ mode, k.covers source mode = true := by
      intro mode
      rw [covers_of_source_scope hscope hengaged, ← hid]
      exact decide_eq_true hcanonical
    exact ⟨fun mode => authorizeProcessing_of_covers hk (hcovers mode),
      fun providerId => skipReason_of_covers hk (hcovers .retrieve)⟩

/-- The source switch an operator engages with `key`. -/
def fixtureSwitch (key : Identifier) (keyed : (UUID.parse key.text).isSome = true := by decide) :
    KillSwitch where
  switchId := 7
  scope := .source
  key := key
  reason := syntheticIncident
  engagedAt := 0
  releasedAt := none
  keyed := by
    obtain ⟨u, hu⟩ := Option.isSome_iff_exists.1 keyed
    simp [KillSwitchFields.keyMatchesScope, hu]

theorem canonical_switch_stops :
    skipReason (fixtureSource 10) "synthetic-adapter"
        [fixtureSwitch (.lit "00000000-0000-0000-0000-00000000000a")] = some killSwitchEngaged :=
  ((source_switch_stops_iff_canonical
    (fixtureSwitch (.lit "00000000-0000-0000-0000-00000000000a")) rfl rfl).2 ⟨10, by decide⟩ _
    (List.mem_singleton_self _) (fixtureSource 10) (by decide)).2 _

/-- The same id without hyphens and in upper case is accepted, engaged and inert. -/
theorem bare_hex_switch_is_inert :
    UUID.parse (fixtureSwitch (.lit "0000000000000000000000000000000A")).key.text =
        some (fixtureSource 10).sourceId ∧
      (fixtureSwitch (.lit "0000000000000000000000000000000A")).scope = .source ∧
      (fixtureSwitch (.lit "0000000000000000000000000000000A")).engaged = true ∧
      (authorizeProcessing (fixtureSource 10) .retrieve
        [fixtureSwitch (.lit "0000000000000000000000000000000A")]).isOk = true ∧
      skipReason (fixtureSource 10) "synthetic-adapter"
        [fixtureSwitch (.lit "0000000000000000000000000000000A")] = none := by
  decide

end PaxPivot
