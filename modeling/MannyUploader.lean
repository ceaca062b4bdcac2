import MannyUploader.Foundation.Runs
import MannyUploader.Foundation.Retention
import MannyUploader.Foundation.Checked
import MannyUploader.Domain.Time
import MannyUploader.Domain.Path
import MannyUploader.Domain.Receipts
import MannyUploader.Domain.Decimals
import MannyUploader.Domain.UploadJob
import MannyUploader.Domain.TwitchTemplate
import MannyUploader.Domain.Settings
import MannyUploader.Domain.JobLaws
import MannyUploader.Domain.LogDiscovery
import MannyUploader.Domain.DiscoveryLaws
import MannyUploader.Application.Ports
import MannyUploader.Application.Entry
import MannyUploader.Application.UploadCoordinator
import MannyUploader.Application.LogIngestion
import MannyUploader.Application.ApplicationPump
import MannyUploader.Application.EntryMoves
import MannyUploader.Application.EntrySteps
import MannyUploader.Application.CoordinatorSteps
import MannyUploader.Application.NoStranded
import MannyUploader.Application.AttemptLedger
import MannyUploader.Application.EntryLaws
import MannyUploader.Application.PendingMetadata
import MannyUploader.Application.AtomicFailures
import MannyUploader.Application.RetentionLaws
import MannyUploader.Application.PumpSteps
import MannyUploader.Application.IngestionSteps
import MannyUploader.Application.IngestionLaws
import MannyUploader.Application.ReceiptLaws
import MannyUploader.Application.DependencyLaws
import MannyUploader.Application.AutomaticOnce
import MannyUploader.Application.ReplayPolicy
import MannyUploader.Application.StartupLaws
import MannyUploader.Foundation.KeyedMerge
import MannyUploader.Foundation.Tickets
import MannyUploader.Foundation.LittleEndian
import MannyUploader.Foundation.Attempts
import MannyUploader.Foundation.Calendar
import MannyUploader.Foundation.FixedWidth
import MannyUploader.Foundation.Base64
import MannyUploader.Foundation.WebText
import MannyUploader.Foundation.Environments
import MannyUploader.Foundation.ByteText
import MannyUploader.Foundation.JsonGrammar
import MannyUploader.Config.HistoryWire
import MannyUploader.Config.HistoryJson
import MannyUploader.Config.HistoryStore
import MannyUploader.Config.HistoryLaws
import MannyUploader.Config.StorableFiles
import MannyUploader.Config.HistoryCodec
import MannyUploader.Config.HistorySaves
import MannyUploader.Config.TimeCodecs
import MannyUploader.Foundation.Json
import MannyUploader.Config.SettingsJson
import MannyUploader.Application.DistinctFiles
import MannyUploader.Application.AdmittedRecords
import MannyUploader.Providers.Wire
import MannyUploader.Providers.UnicodeEscapes
import MannyUploader.Providers.Exchange
import MannyUploader.Providers.TwitchResponse
import MannyUploader.Providers.TwitchClient
import MannyUploader.Providers.TemplateLaws
import MannyUploader.Providers.TwitchChatDelivery
import MannyUploader.Providers.ExchangeRules
import MannyUploader.Providers.ChatDeliveryLaws
import MannyUploader.Providers.TwitchChatWorker
import MannyUploader.Providers.ChatLedgerLaws
import MannyUploader.Providers.DonBotResponse
import MannyUploader.Providers.DonBotClient
import MannyUploader.Providers.DonBotUploadLaws
import MannyUploader.Http.Multipart
import MannyUploader.Http.BodySources
import MannyUploader.Http.SegmentLaws
import MannyUploader.Http.MultipartLaws
import MannyUploader.Http.ResponseCollector
import MannyUploader.Http.ResponseLines
import MannyUploader.Http.ResponseLaws
import MannyUploader.Providers.WingmanClient
import MannyUploader.Providers.RequestRules
import MannyUploader.Providers.DonBotRequests
import MannyUploader.Providers.WingmanRequests
import MannyUploader.Providers.ValidRequests
import MannyUploader.Providers.WireEncoders
import MannyUploader.Providers.ProgressLaws
import MannyUploader.Providers.PollingLaws
import MannyUploader.Providers.DpsReport
import MannyUploader.Application.ReportUrl
import MannyUploader.Application.ReportLaws
import MannyUploader.Foundation.CrashPoints
import MannyUploader.Foundation.Stateful
import MannyUploader.Config.SettingsCodec
import MannyUploader.Config.SettingsStore
import MannyUploader.Config.SecretEnvelope
import MannyUploader.Config.SettingsSaves
import MannyUploader.Application.TwitchSession
import MannyUploader.Application.Twitch
import MannyUploader.Application.TwitchSessionLaws
import MannyUploader.Application.Http
import MannyUploader.Application.DonBot
import MannyUploader.Application.ConfigurationService
import MannyUploader.Application.DonBotConfiguration
import MannyUploader.Application.NexusOptions
import MannyUploader.Application.DonBotLaws
import MannyUploader.Providers.DonBotWorker
import MannyUploader.Application.ApiBaseLaws
import MannyUploader.Filesystem.PollingLogSource
import MannyUploader.Filesystem.NotifyingLogSource
import MannyUploader.Filesystem.NotificationLaws
import MannyUploader.Filesystem.PollingLaws
import MannyUploader.Filesystem.TrackerLaws
import MannyUploader.Workers.WorkerPool
import MannyUploader.Workers.PoolSteps
import MannyUploader.Workers.PoolLaws
import MannyUploader.Workers.PoolProgress
import MannyUploader.Evtc.MetadataDecoder
import MannyUploader.Evtc.MetadataLaws
import MannyUploader.Evtc.Format
import MannyUploader.Evtc.ZevtcArchive
import MannyUploader.Evtc.ArchiveSpecs
import MannyUploader.Evtc.ArchiveSoundness
import MannyUploader.Evtc.StoredArchive
import MannyUploader.Evtc.ArchiveListing
import MannyUploader.Evtc.ArchiveCompleteness
import MannyUploader.Addon.CallbackGate
import MannyUploader.Addon.GateLaws
import MannyUploader.Application.ShutdownLaws
import MannyUploader.Application.StableBase
import MannyUploader.Foundation.Dialogue
import MannyUploader.Application.HttpRequest
import MannyUploader.Application.RequestLaws
import MannyUploader.Ui.RecentLogs
import MannyUploader.Ui.AdmissionLaws
import MannyUploader.Ui.UtcFormat
import MannyUploader.Ui.DonBotSelection
import MannyUploader.Ui.SelectionLaws
import MannyUploader.Foundation.CommandQueue
import MannyUploader.Application.RecentLogActions
import MannyUploader.Application.TwitchAuthentication
import MannyUploader.Application.NexusOptionsController
import MannyUploader.Application.ActionLaws
import MannyUploader.Application.OptionsLaws
import MannyUploader.Foundation.Yields
import MannyUploader.Providers.UploadWorkers
import MannyUploader.Providers.OutcomeLaws
import MannyUploader.Application.AcceptedOutcomes
import MannyUploader.Providers.AcceptedResults
import MannyUploader.Application.DonBotAggregate
import MannyUploader.Providers.AggregateWorker
import MannyUploader.Providers.AggregateOutcomes
import MannyUploader.Workers.PoolContents
import MannyUploader.Application.DonBotAggregateLaws
import MannyUploader.Providers.AggregateLaws
import MannyUploader.Foundation.Attended
import MannyUploader.Application.TwitchSessionOwner
import MannyUploader.Application.SessionLedger
import MannyUploader.Application.SessionMoves
import MannyUploader.Application.SessionOwnership
import MannyUploader.Application.SessionRecord
import MannyUploader.Foundation.Follows
import MannyUploader.Application.SessionRecovery
import MannyUploader.Application.RecoveryLaws
import MannyUploader.Application.SessionSystem
import MannyUploader.Foundation.Agents
import MannyUploader.Application.TwitchAuthenticationController
import MannyUploader.Application.SignInStages
import MannyUploader.Application.SignInSteps
import MannyUploader.Application.SignInCalls
import MannyUploader.Application.SignInLaws
import MannyUploader.Application.SignInSystem
import MannyUploader.Application.ApplicationRuntime
import MannyUploader.Application.StoredFirst
import MannyUploader.Application.RuntimeSteps
import MannyUploader.Application.RuntimeLaws
import MannyUploader.Application.KnownLogs
import MannyUploader.Application.Restarts
import MannyUploader.Foundation.Lives
