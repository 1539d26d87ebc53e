import Mathlib
import PaxPivot.Domain.Terminal

/-!
# The reference data

The registry metadata that `infrastructure/bootstrap.py` seeds: one directory source, four
terminals, and for each of them an official page and a schedule artifact.
-/

namespace PaxPivot

/-- 2026-09-10, the time of the registry entries. -/
def seedRecordedAt : Int := 1788998400000000

def seedPolicyVersionId : Identifier := .lit "seed-not-approved-v1"

def unreviewedPolicy : SourceProcessingPolicy where
  policyVersionId := seedPolicyVersionId
  reviewState := .needsReview
  mayRetrieve := false
  mayParse := false
  maySummarize := false
  mayDisplay := false
  mayAggregateHistory := false
  rawPayload := .denied
  snapshotRetentionDays := none
  reviewer := none
  reviewedAt := none
  consistent := rfl

def airMobilityCommand : Identifier := .lit "Air Mobility Command"

/-- Its identity is `uuid5(NAMESPACE_URL, "paxpivot:source:amc-travel-site")`. -/
def directorySource : Source where
  identity :=
    { sourceId := 0x6c44d03830745e92b0e125e8e6b414ab
      url := { scheme := "https", host := "www.amc.af.mil", path := some "/AMC-Travel-Site/" }
      authority := airMobilityCommand }
  name := .lit "AMC Travel Site (terminal directory)"
  kind := .directoryPage
  terminalId := none
  enabled := false
  cadenceMinutes := none
  adapterId := none
  adapterVersion := none
  policy := unreviewedPolicy
  createdAt := seedRecordedAt
  updatedAt := seedRecordedAt

/-- Retrieve, parse and display; no body is stored. Reviewed 2026-09-11 16:00. -/
def approvedTerminalPagePolicy : SourceProcessingPolicy where
  policyVersionId := .lit "terminal-page-parse-v2"
  reviewState := .approved
  mayRetrieve := true
  mayParse := true
  maySummarize := false
  mayDisplay := true
  mayAggregateHistory := false
  rawPayload := .hashOnly
  snapshotRetentionDays := none
  reviewer := some (.lit "product-owner-delegated-2026-09-11")
  reviewedAt := some 1789142400000000
  consistent := rfl

/-- User-opened only. Reviewed 2026-09-11 20:00. -/
def restrictedScheduleArtifactPolicy : SourceProcessingPolicy where
  policyVersionId := .lit "schedule-artifact-user-open-v2"
  reviewState := .restricted
  mayRetrieve := false
  mayParse := false
  maySummarize := false
  mayDisplay := false
  mayAggregateHistory := false
  rawPayload := .denied
  snapshotRetentionDays := none
  reviewer := some (.lit "product-owner-2026-09-11")
  reviewedAt := some 1789156800000000
  consistent := rfl

def registryProvenance : Provenance where
  source := directorySource.identity
  observedAt := seedRecordedAt
  sourceTime := none
  providerId := .lit "registry-seed"
  policyVersionId := seedPolicyVersionId

/-- A slug, by the `uuid5(NAMESPACE_URL, …)` of the names built from it. -/
structure Slug where
  /-- `paxpivot:terminal:{slug}` -/
  terminal : UUID
  /-- `paxpivot:source:{slug}-terminal-page` -/
  terminalPage : UUID
  /-- `paxpivot:source:{slug}-72hr-schedule` -/
  schedule : UUID

/-- `jb-mcguire-dix-lakehurst` -/
def jbMcguireDixLakehurst : Slug where
  terminal := 0xc96e625a5858517aa8716911d51eb22b
  terminalPage := 0x67576b2a87c550c3bbf4a7be5baa6784
  schedule := 0x3d8f9d0f9a6e5d649a6d7cbf683c2d51

/-- `dover-afb` -/
def doverAfb : Slug where
  terminal := 0x919f38706b315c159990ac6eba457d1d
  terminalPage := 0x6a5b2f06acf55969acd7e6252fb5d93f
  schedule := 0xb7f977db37a25a24bcee451102d6718f

/-- `bwi-amc` -/
def bwiAmc : Slug where
  terminal := 0x0e6569c4062159d385f01d6d33d53e4b
  terminalPage := 0xff5336b4793a508aaad51abb2af3383c
  schedule := 0x6c66f12d9a4c55089e331702735c03dc

/-- `jb-andrews` -/
def jbAndrews : Slug where
  terminal := 0xe9ae9f4d50495606b745fe4a7dddaf63
  terminalPage := 0xa48b5225504c5c60a2b05877e61740ea
  schedule := 0x460ff339fe895758b83c7c16230287ca

theorem newYork_accepted : Identifier.accepts "America/New_York" = true := by decide

def referenceTerminal (slug : Slug) (name installation : Identifier) : Terminal where
  terminalId := slug.terminal
  name
  installation := some installation
  timezone := .lit "America/New_York" newYork_accepted
  operationalState := .unknown
  evidence := registryProvenance
  entrance := none
  baseCoordinates := none

def referenceTerminals : List Terminal :=
  [referenceTerminal jbMcguireDixLakehurst
      (.lit "Joint Base McGuire-Dix-Lakehurst Passenger Terminal")
      (.lit "Joint Base McGuire-Dix-Lakehurst, NJ"),
    referenceTerminal doverAfb (.lit "Dover AFB Passenger Terminal")
      (.lit "Dover Air Force Base, DE"),
    referenceTerminal bwiAmc (.lit "BWI AMC Passenger Terminal")
      (.lit "Baltimore/Washington International Thurgood Marshall Airport, MD"),
    referenceTerminal jbAndrews (.lit "Joint Base Andrews Passenger Terminal")
      (.lit "Joint Base Andrews, MD")]

def baselineCadence : ℕ+ := 360

theorem firecrawlAdapter_accepted : Identifier.accepts "firecrawl" = true := by decide

/-- What the pages and the artifacts have in common. -/
def terminalSource (slug : Slug) (sourceId : UUID) (url : HttpUrl) (name : Identifier)
    (kind : SourceKind) (policy : SourceProcessingPolicy) : Source where
  identity := { sourceId, url, authority := airMobilityCommand }
  name
  kind
  terminalId := some slug.terminal
  enabled := true
  cadenceMinutes := some baselineCadence
  adapterId := some (.lit "firecrawl" firecrawlAdapter_accepted)
  adapterVersion := some (.lit "v1")
  policy
  createdAt := seedRecordedAt
  updatedAt := seedRecordedAt

/-- `page` is the last segment of the page's path in the directory. -/
def terminalPageSource (slug : Slug) (name : Identifier) (page : String) : Source :=
  terminalSource slug slug.terminalPage
    { scheme := "https"
      host := "www.amc.af.mil"
      path := some ("/AMC-Travel-Site/Terminals/CONUS-Terminals/" ++ page) }
    name .terminalPage approvedTerminalPagePolicy

def terminalPageSources : List Source :=
  [terminalPageSource jbMcguireDixLakehurst (.lit "Joint Base MDL Passenger Terminal (AMC page)")
      "Joint-Base-MDL-Passenger-Terminal/",
    terminalPageSource doverAfb (.lit "Dover AFB Passenger Terminal (AMC page)")
      "Dover-AFB-Passenger-Terminal/",
    terminalPageSource bwiAmc (.lit "BWI Airport Passenger Terminal (AMC page)")
      "Baltimore-Washington-International-Airport-Passenger-Terminal/",
    terminalPageSource jbAndrews (.lit "Joint Base Andrews Passenger Terminal (AMC page)")
      "Joint-Base-Andrews-Passenger-Terminal/"]

/-- `folder` is the terminal's official document folder in the host's portal. -/
def scheduleArtifactSource (slug : Slug) (name : Identifier) (host folder : String) : Source :=
  terminalSource slug slug.schedule
    { scheme := "https"
      host
      path := some ("/Portals/12/AMC%20Tvl%20Pg/Passenger%20Terminals/AMC%20CONUS%20Terminals/" ++
        folder) }
    name .scheduleArtifact restrictedScheduleArtifactPolicy

def scheduleArtifactSources : List Source :=
  [scheduleArtifactSource jbMcguireDixLakehurst
      (.lit "Joint Base MDL 72-hour schedule (AMC artifact)") "amc.usaf.afpims.mil"
      "Joint%20Base%20McGuire-Dix-Lakehurst%20Passenger%20Terminal/",
    scheduleArtifactSource doverAfb (.lit "Dover AFB 72-hour schedule (AMC artifact)")
      "www.amc.af.mil" "Dover%20AFB%20Pax%20Terminal/",
    scheduleArtifactSource bwiAmc (.lit "BWI 72-hour schedule (AMC artifact)")
      "www.amc.af.mil" "BWI%20Passenger%20Terminal/",
    scheduleArtifactSource jbAndrews (.lit "Joint Base Andrews 72-hour schedule (AMC artifact)")
      "www.amc.af.mil" "Joint%20Base%20Andrews%20Passenger%20Terminal/"]

def referenceSources : List Source :=
  directorySource :: (terminalPageSources ++ scheduleArtifactSources)

/-- The policy versions that seeding may replace. -/
def upgradablePolicyVersions : List String :=
  ["terminal-page-metadata-v1", "schedule-artifact-parse-v1"]

/-- The reference sources have different identities. -/
theorem referenceSources_distinct : (referenceSources.map Source.sourceId).Nodup := by
  decide +kernel

theorem referenceTerminals_distinct : (referenceTerminals.map (·.terminalId)).Nodup := by
  decide +kernel

end PaxPivot
