import PaxPivot.SystemRuns
import PaxPivot.System
import PaxPivot.Web.RegistryPages
import PaxPivot.Web.SourceHealth
import PaxPivot.Web.Trips.TripTerminals
import PaxPivot.Web.Trips.TripFlow
import PaxPivot.Web.Trips.TripPages
import PaxPivot.Web.Trips.TripScreens
import PaxPivot.Web.Trips.TerminalsToCheck
import PaxPivot.Web.Trips.CommercialFlights
import PaxPivot.Web.Timestamps
import PaxPivot.Web.ApiClient
import PaxPivot.Library.FormText
import PaxPivot.Library.EraDate
import PaxPivot.ApiRuns
import PaxPivot.Infrastructure.Auth
import PaxPivot.Application.TripService
import PaxPivot.Web.EntranceExposure
import PaxPivot.Infrastructure.TerminalFacts
import PaxPivot.Infrastructure.SeedDecisions
import PaxPivot.Application.StoreRefusals
import PaxPivot.Infrastructure.Providers.InertPages
import PaxPivot.Infrastructure.Providers.PageFetches
import PaxPivot.Infrastructure.Providers.PipelineAgreement
import PaxPivot.Infrastructure.ObservationRepository
import PaxPivot.Application.ReliabilityGate
import PaxPivot.Application.SourceReliability
import PaxPivot.Tooling.CheckSources
import PaxPivot.Web.Terminals
import PaxPivot.Web.Auth.Guard
import PaxPivot.Application.Freshness
import PaxPivot.Application.DisplayGate
import PaxPivot.Application.ReadServices
import PaxPivot.Infrastructure.Repositories
import PaxPivot.Application.ProviderFailures
import PaxPivot.Application.KillSwitches
import PaxPivot.Application.SourceExplanation
import PaxPivot.Library.Tally
import PaxPivot.Application.Parsers.FirstStamp
import PaxPivot.Infrastructure.Providers.FirstLink
import PaxPivot.Infrastructure.Providers.ObservedAnswers
import PaxPivot.Application.ReliabilityWindow
import PaxPivot.Tooling.SourceReport
import PaxPivot.Infrastructure.RowMapping
import PaxPivot.Application.Corpus
import PaxPivot.Library.WebUrl
import PaxPivot.Library.FormEncoding
import PaxPivot.Web.Auth.NextPath
import PaxPivot.Application.Parsers.StampRoundTrip
import PaxPivot.Tooling.LocalEnv
import PaxPivot.Web.Trips.NewTrip
import PaxPivot.Application.Parsers.MonthName
import PaxPivot.Application.CorpusLabels
import PaxPivot.Tooling.ReportRun
