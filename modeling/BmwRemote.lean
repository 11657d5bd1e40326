import BmwRemote.Lib.Transcript
import BmwRemote.Application.SafetyPolicy
import BmwRemote.Application.ProfileReadiness
import BmwRemote.Application.Controller
import BmwRemote.Application.ControllerStep
import BmwRemote.Application.StarterAuthorization
import BmwRemote.Infrastructure.DiagnosticJournal
import BmwRemote.Infrastructure.Ports
import BmwRemote.Infrastructure.Runtime
import BmwRemote.Infrastructure.OutputSafety
import BmwRemote.Infrastructure.ActuatorSafetySupervisor
import BmwRemote.Infrastructure.SupervisorStep
import BmwRemote.Infrastructure.SupervisorHistory
import BmwRemote.Infrastructure.SupervisedRuntime
import BmwRemote.Application.LockCommandGate
import BmwRemote.Infrastructure.CanLockCommandAdapter
import BmwRemote.Application.LockCommandStep
import BmwRemote.Infrastructure.LockGesture
import BmwRemote.Application.UserSettings
import BmwRemote.Infrastructure.SettingsPayload
import BmwRemote.Infrastructure.SettingsProtocol
import BmwRemote.Infrastructure.SettingsStream
import BmwRemote.Infrastructure.SettingsStorage
import BmwRemote.Infrastructure.SettingsJournal
import BmwRemote.Infrastructure.EspIdfSettings
import BmwRemote.Application.FaultLatch
import BmwRemote.Infrastructure.TimerDiscipline
import BmwRemote.Application.UserConfiguration
import BmwRemote.Application.UnverifiedSignals
import BmwRemote.Infrastructure.BootChain
import BmwRemote.Infrastructure.SettingsStreamFraming
import BmwRemote.Infrastructure.SettingsStreamMemory
import BmwRemote.Infrastructure.SettingsStreamSoundness
import BmwRemote.Infrastructure.SettingsService
import BmwRemote.Infrastructure.SettingsEndpoint
import BmwRemote.Infrastructure.SettingsRefinement
import BmwRemote.CanCore.BoundedSpscQueue
import BmwRemote.Infrastructure.LockAvailability
import BmwRemote.Infrastructure.VehicleStateAssembler
import BmwRemote.Infrastructure.CanTraceReplay
import BmwRemote.Infrastructure.ReplayVehicleGateway
import BmwRemote.Infrastructure.ReplayRefinement
import BmwRemote.Host.SettingsDeviceClient
import BmwRemote.Host.SettingsLink
import BmwRemote.Host.SettingsLinkSoundness
import BmwRemote.Host.SettingsLinkDelivery
import BmwRemote.Host.SettingsWrite
import BmwRemote.Host.ReplacedResponse
import BmwRemote.Lib.BurstErrors
import BmwRemote.Infrastructure.BurstDetection
import BmwRemote.Application.SignalDowngrade
import BmwRemote.Infrastructure.SignalFreshness
import BmwRemote.Host.CanTraceCsv
import BmwRemote.Host.CanTraceStores
import BmwRemote.Infrastructure.DiagnosticLog
import BmwRemote.Infrastructure.TransitionChain
import BmwRemote.Infrastructure.StaleTimer
import BmwRemote.Application.FeatureCatalog
import BmwRemote.Application.TelemetryMonitor
import BmwRemote.Simulation.SyntheticCan
import BmwRemote.Host.SandboxSession
import BmwRemote.Infrastructure.SupervisorCalls
import BmwRemote.Host.SandboxPorts
import BmwRemote.Host.SandboxCoherence
import BmwRemote.Host.SandboxService
import BmwRemote.Host.SandboxTime
import BmwRemote.Host.SandboxClock
import BmwRemote.Host.SandboxMonotone
import BmwRemote.Host.SandboxAlerts
import BmwRemote.Lib.Utf8
import BmwRemote.Host.CanonicalTrace
import BmwRemote.Host.TraceFormat
import BmwRemote.Host.TraceReaders
import BmwRemote.CanCore.QueueSize
import BmwRemote.Infrastructure.FrameAssembly
import BmwRemote.Infrastructure.FaultJournal
import BmwRemote.Infrastructure.SupervisorTime
import BmwRemote.Infrastructure.BoundedEnergisation
import BmwRemote.Infrastructure.HeartbeatFreshness
import BmwRemote.Infrastructure.FeedbackGrace
import BmwRemote.Infrastructure.FaultMemory
import BmwRemote.Infrastructure.EspIdfTwaiReceiver
import BmwRemote.Infrastructure.LockEvidence
import BmwRemote.Application.TelemetryHistory
import BmwRemote.Application.AlertHistory
import BmwRemote.Application.OverheatHysteresis
import BmwRemote.Application.AntiReplay
import BmwRemote.Application.StandstillReturn
import BmwRemote.Application.SettingsAgreement
import BmwRemote.Infrastructure.DiagnosticRing
import BmwRemote.CanCore.AtomicQueue
import BmwRemote.Infrastructure.ReceiverAccounting
import BmwRemote.Infrastructure.ReceiverLifecycle
import BmwRemote.Infrastructure.ReceiverThreads
import BmwRemote.Infrastructure.ReceiverTaskReuse
import BmwRemote.Infrastructure.ListenOnlyLifecycle
import BmwRemote.Host.TraceText
import BmwRemote.Host.TraceAgreement
import BmwRemote.Host.EngineSpeedLog
import BmwRemote.Host.ImportCanTrace
import BmwRemote.Host.TraceWriting
import BmwRemote.Host.ImportRoundTrip
import BmwRemote.Host.UserSettingsOrder
import BmwRemote.Host.UserSettingsMeaning
import BmwRemote.Host.UserSettingsAcceptance
import BmwRemote.Host.UserSettingsRoundTrip
import BmwRemote.Simulation.SyntheticCodec
import BmwRemote.Application.VehicleStartObserver
import BmwRemote.Application.StartObservationCoherence
import BmwRemote.Host.EngineSpeedErrors
import BmwRemote.Host.EngineRunLoop
import BmwRemote.Lib.FloatOrder
import BmwRemote.Host.EngineRunLimits
import BmwRemote.Host.EngineRunSoundness
import BmwRemote.Infrastructure.SettingsRegister
import BmwRemote.Infrastructure.FirmwareSettings
import BmwRemote.Host.UserSettingsSave
import BmwRemote.Host.FloatImport
import BmwRemote.Host.CaptureCanTrace
import BmwRemote.Host.SandboxProtocol
import BmwRemote.Host.SettingsConfigurator
import BmwRemote.Host.ConfiguratorArguments
import BmwRemote.Host.DeviceCommands
import BmwRemote.Application.StartSequence
import BmwRemote.Infrastructure.InertRuntime
import BmwRemote.Host.AnalyzeTraceChange
