import AntennaBench.Storage.Paths
import AntennaBench.Storage.Checkpoint
import AntennaBench.Storage.Env
import AntennaBench.Storage.Disk
import AntennaBench.FaultIO.Basic
import AntennaBench.Core.Value
import AntennaBench.Core.Ieee
import AntennaBench.Core.Model
import AntennaBench.Core.ModelV3
import AntennaBench.Core.OperatorEvents
import AntennaBench.Core.OperatorEventsV3
import AntennaBench.Core.WsprRun
import AntennaBench.Timeline.Reigns
import AntennaBench.Core.Occupancy
import AntennaBench.Core.Current
import AntennaBench.Timeline.Ledger
import AntennaBench.Core.Projection
import AntennaBench.Core.Alignment
import AntennaBench.Core.Attribution
import AntennaBench.Core.Normalization
import AntennaBench.Timeline.RunPairs
import AntennaBench.Analysis.OperatorFacts
import AntennaBench.Analysis.Blocks
import AntennaBench.Analysis.Eligibility
import AntennaBench.Analysis.Placement
import AntennaBench.Analysis.Evidence
import AntennaBench.Analysis.Comparison
import AntennaBench.Analysis.PairedComparison
import AntennaBench.Analysis.Solar
import AntennaBench.Analysis.Summary
import AntennaBench.Analysis.Exclusion
import AntennaBench.Storage.Inspection
import AntennaBench.Core.SignalPlan
import AntennaBench.Core.AntennaControl
import AntennaBench.Core.Membership
import AntennaBench.Storage.ValidateV2
import AntennaBench.Storage.ValidateV3
import AntennaBench.Storage.WriterV2
import AntennaBench.Storage.Upgrade
import AntennaBench.Storage.MutationV2
import AntennaBench.Conductor.Actions
import AntennaBench.Conductor.NextCycle
import AntennaBench.Conductor.LiveSession
import AntennaBench.Conductor.ExactlyOnce
import AntennaBench.Analysis.UpgradeProjection
import AntennaBench.Storage.ReadV3
import AntennaBench.Storage.MutationV3
import AntennaBench.Storage.Attachments
import AntennaBench.Storage.LiveV3
import AntennaBench.Storage.RecoveryV3
import AntennaBench.FaultIO.Guarantee
import AntennaBench.Core.Replay
import AntennaBench.Core.Result
import AntennaBench.Live.ExternalModification
import AntennaBench.Scenario.JsonText
import AntennaBench.Scenario.Encoding
import AntennaBench.Scenario.Session
import AntennaBench.FaultIO.Invariant
import AntennaBench.Storage.Frame
import AntennaBench.Live.RecoveryTails
import AntennaBench.Live.ContextIndependence
import AntennaBench.Storage.Limits
import AntennaBench.Storage.PlanV3
import AntennaBench.Wsjtx.Scalars
import AntennaBench.Wsjtx.WsprLive
import AntennaBench.Wsjtx.WsprLiveImport
import AntennaBench.Wsjtx.SpotIdentity
import AntennaBench.Timeline.FirstWins
import AntennaBench.Timeline.Groups
import AntennaBench.Timeline.Copies
import AntennaBench.Core.Diagnostics
import AntennaBench.Core.Semantics
import AntennaBench.Core.Validation
import AntennaBench.Timeline.Throughout
import AntennaBench.Wsjtx.Protocol
import AntennaBench.Wsjtx.LiveUdp
import AntennaBench.Wsjtx.LiveSteps
import AntennaBench.Wsjtx.LiveLifetimes
import AntennaBench.Wsjtx.LiveIngestion
import AntennaBench.Live.LifecycleV2
import AntennaBench.Desktop.ActiveSession
import AntennaBench.Desktop.DesktopRuns
import AntennaBench.Desktop.DesktopSteps
import AntennaBench.Desktop.DisplayedReports
import AntennaBench.Acquisition.Plans
import AntennaBench.Acquisition.Snapshot
import AntennaBench.Acquisition.Advance
import AntennaBench.Acquisition.Pacing
import AntennaBench.Conductor.Transition
import AntennaBench.Controller.Policy
import AntennaBench.Controller.Attempts
import AntennaBench.Controller.Automation
import AntennaBench.Controller.ControlRuns
import AntennaBench.Controller.Respect
import AntennaBench.Core.ReductionLaws
import AntennaBench.Live.DiagnosticHistory
import AntennaBench.Analysis.PairSlots
import AntennaBench.Timeline.Shares
import AntennaBench.Storage.LegacyUpgrade
import AntennaBench.Storage.LegacyEvidence
import AntennaBench.Storage.LiveV2
import AntennaBench.FaultIO.Returns
import AntennaBench.Live.PlanRetry
import AntennaBench.Wire.Readers
import AntennaBench.Wsjtx.WireFields
import AntennaBench.Wsjtx.WireFormat
import AntennaBench.Wire.Lines
import AntennaBench.Wsjtx.AllWspr
import AntennaBench.Wsjtx.AllWsprAgreement
import AntennaBench.Acquisition.Coalescing
import AntennaBench.Core.Calendar
import AntennaBench.Acquisition.ProviderQuery
import AntennaBench.Controller.CommandLine
import AntennaBench.Controller.CommandTemplate
import AntennaBench.Core.Text
import AntennaBench.Timeline.FirstFree
import AntennaBench.Controller.Catalog
import AntennaBench.Controller.MigratedNames
import AntennaBench.Controller.CatalogMigration
import AntennaBench.Rbn.Archive
import AntennaBench.Rbn.Import
import AntennaBench.Rbn.RetainedRows
import AntennaBench.Rbn.PreparedRows
import AntennaBench.Rbn.Identifiers
import AntennaBench.Rbn.ImportRuns
import AntennaBench.Rbn.FirstSpots
import AntennaBench.Analysis.ReporterCensus
import AntennaBench.Analysis.ReceiverOutcomes
import AntennaBench.Core.NormalForm
import AntennaBench.Core.SignalSpacing
import AntennaBench.Setup.Reviewed
import AntennaBench.Conductor.SlotEvidence
import AntennaBench.Timeline.Cells
import AntennaBench.Report.Geography
import AntennaBench.Report.CommonOpportunity
import AntennaBench.Report.JointRows
import AntennaBench.Report.MapConservation
import AntennaBench.Report.Complementarity
import AntennaBench.Report.OverlapTotals
import AntennaBench.Analysis.PathProfiles
import AntennaBench.Report.PathPartition
import AntennaBench.Report.ObservedProfile
import AntennaBench.Analysis.PathSummaries
import AntennaBench.Report.LocationContext
import AntennaBench.Report.CoveragePanels
import AntennaBench.Frontend.AppliedActions
import AntennaBench.Core.ArmedCycles
import AntennaBench.Core.ContinuedReadiness
import AntennaBench.Core.KeptRuns
import AntennaBench.Conductor.Continuation
import AntennaBench.Live.RunHistory
import AntennaBench.Timeline.Grown
import AntennaBench.Conductor.StoreLaws
import AntennaBench.Analysis.RetainedSlots
import AntennaBench.Live.CommitEnds
import AntennaBench.Live.HandleV2
import AntennaBench.Live.PlanFiles
import AntennaBench.Conductor.SlotFacts
import AntennaBench.Conductor.LegacySlotFacts
import AntennaBench.Conductor.ArmedSlotFacts
import AntennaBench.Core.EventLedgers
import AntennaBench.Core.EffectiveFacts
import AntennaBench.Report.PanelCells
import AntennaBench.Desktop.DesktopEffects
import AntennaBench.Analysis.ExcludedPlaces
import AntennaBench.Analysis.JointReceivers
import AntennaBench.Conductor.ContinuedRun
import AntennaBench.Wsjtx.SpotRows
import AntennaBench.Live.RequestsV2
