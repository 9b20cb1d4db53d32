import Luma.Compositor.RecorderRuns
import Luma.Compositor.State
import Luma.Protocol.Channel
import Luma.Compositor.RecorderCommands
import Luma.Compositor.Capture
import Luma.Compositor.Lock
import Luma.Compositor.Screencopy
import Luma.Compositor.Policy
import Luma.Compositor.Serving
import Luma.Compositor.Effects
import Luma.Compositor.RecordingRouting
import Luma.Compositor.RecordingPrivacy
import Luma.Compositor.CaptureLocking
import Luma.Compositor.LockConfirmation
import Luma.Compositor.OutputMap
import Luma.Compositor.PolicyChanges
import Luma.Compositor.WorkspaceRange
import Luma.Compositor.WorkspaceAssignment
import Luma.Compositor.WorkspaceOwnership
import Luma.Protocol.Streaming
import Luma.Library.SyncChannel
import Luma.Muxer.Session
import Luma.Protocol.Handshake
import Luma.Muxer.SessionEffects
import Luma.Muxer.SessionRuns
import Luma.Muxer.SessionProgress
import Luma.Muxer.SessionOrder
import Luma.Muxer.SessionCleanup
import Luma.Muxer.SessionFidelity
import Luma.Recorder.Engine
import Luma.Recorder.EngineEffects
import Luma.Recorder.FrameTimeline
import Luma.Recorder.SlotPool
import Luma.Compositor.CaptureAccounting
import Luma.Core.SettingsOverlay
import Luma.Core.SettingsRestart
import Luma.Compositor.SettingsCommands
import Luma.Export.GlExport
import Luma.Export.ExportSafety
import Luma.Export.Handoff
import Luma.Export.SemaphoreAlternation
import Luma.Export.VulkanLayer
import Luma.Export.AckOwnership
import Luma.Recorder.Finalization
import Luma.Compositor.Keyboard
import Luma.Compositor.KeyboardPairing
import Luma.Compositor.SuperTap
import Luma.Compositor.LockCoherence
import Luma.Compositor.ShellRequests
import Luma.Compositor.ResizeGrabs
import Luma.Compositor.ResizeSafety
import Luma.Compositor.ScreencopyAccounting
import Luma.Encoder.TransportOrder
import Luma.Encoder.Wire
import Luma.Encoder.Admission
import Luma.Encoder.PresentTimes
import Luma.Encoder.SlotRuns
import Luma.Encoder.SlotLife
import Luma.Export.VulkanOrder
import Luma.Export.CaptureReceiver
import Luma.Export.ReceiverAnswers
import Luma.Export.ImportCache
import Luma.Compositor.FocusById
import Luma.Injection.AttachConfig
import Luma.Injection.AttachGrammar
import Luma.Injection.InjectionRestores
import Luma.Shell.MenuCoherence
import Luma.Shell.RegistrySignals
import Luma.Shell.PairingConsent
import Luma.Shell.PositionFreshness
import Luma.Shell.VideoGenerations
import Luma.Compositor.ResizeAnchor
import Luma.Compositor.MoveExchange
import Luma.Compositor.RegionOutput
import Luma.Compositor.BindingReach
import Luma.Core.RecorderUpdate
import Luma.Compositor.RecorderMark
import Luma.Compositor.RegionCover
import Luma.Compositor.CaptureRows
import Luma.Compositor.SubscriberFreshness
import Luma.Compositor.PointerClamp
import Luma.Compositor.ClosingImages
import Luma.Muxer.SessionToken
import Luma.Recorder.CommitTimeline
import Luma.Recorder.PauseExcision
import Luma.Compositor.PauseStatus
import Luma.Compositor.BackgroundCover
import Luma.Library.Text
import Luma.Compositor.RecorderFiles
import Luma.Export.FenceLayer
import Luma.Export.EncodeWorker
import Luma.Export.FenceDescriptors
import Luma.Export.StagingPool
import Luma.Export.StagingFifo
import Luma.Injection.FreezeRace
import Luma.Injection.FreezeComplete
import Luma.Compositor.CropPixels
import Luma.Compositor.RoundedInterior
import Luma.Core.OutputModes
import Luma.Encoder.BackoffRecovery
import Luma.Export.CapturePacing
import Luma.Core.Color
import Luma.Library.OrderedMap
import Luma.Shell.Notifications
import Luma.Shell.NotificationLifecycle
import Luma.Shell.RecorderEdits
import Luma.Library.KeyValue
import Luma.Shell.RememberedSource
import Luma.Export.XwaylandCapture
import Luma.Export.XwaylandResources
import Luma.Export.XwaylandConservation
import Luma.Export.XwaylandRuns
import Luma.Library.RateSlots
import Luma.Recorder.FrameSlots
import Luma.Library.SingleLine
import Luma.Shell.BarLabel
import Luma.Shell.LauncherQuery
import Luma.Library.Entities
import Luma.Shell.NotificationText
import Luma.Shell.DesktopEntry
import Luma.Library.FirstHighest
import Luma.Library.Ranking
import Luma.Shell.WifiPoints
import Luma.Shell.Audio
import Luma.Shell.AudioSettling
import Luma.Shell.RecorderRows
import Luma.Library.Upsert
import Luma.Shell.NativeNotifications
import Luma.Shell.NotificationIdentity
import Luma.Shell.NativeTray
import Luma.Shell.TrayRaces
import Luma.Compositor.RenderMetrics
import Luma.Encoder.RecordedUnits
import Luma.Library.Turns
import Luma.Compositor.FrameLoop
import Luma.Compositor.CursorAnimation
