import Ssim.Library.BigEndian
import Ssim.Library.PrefixParser
import Ssim.Library.Runs
import Ssim.Library.Ledger
import Ssim.Library.Reactive
import Ssim.Library.Outbox
import Ssim.Library.RingIndex
import Ssim.Library.Rundown
import Ssim.Library.Toggling
import Ssim.Library.Parking
import Ssim.Library.SortedLists
import Ssim.Library.LeastSquares
import Ssim.Library.CircularNeighbours
import Ssim.Library.Numerals
import Ssim.Library.CIntegers
import Ssim.Library.Rounding
import Ssim.Library.DoubleRounding
import Ssim.Core.Result
import Ssim.Core.ProcessStateMachine
import Ssim.Core.Controller
import Ssim.Core.ControllerSteps
import Ssim.Core.ControlRules
import Ssim.Core.Alarms
import Ssim.Core.AlarmAnnouncements
import Ssim.Core.EventTrace
import Ssim.Core.Queue
import Ssim.Core.RingQueue
import Ssim.Core.RingData
import Ssim.Core.RingWakeups
import Ssim.Core.RingClosing
import Ssim.Core.RingRefinement
import Ssim.Core.EventBus
import Ssim.Core.EventBusBarrier
import Ssim.Core.Inbox
import Ssim.Core.ControllerCalls
import Ssim.Core.MachineApi
import Ssim.Core.Json
import Ssim.Core.Config
import Ssim.Core.ConfigFidelity
import Ssim.Secs2.Item
import Ssim.Secs2.Codec
import Ssim.Secs2.Grammar
import Ssim.Secs2.RoundTrip
import Ssim.Secs2.Message
import Ssim.Secs2.Accessors
import Ssim.Hsms.Frame
import Ssim.Hsms.FrameStream
import Ssim.Hsms.StreamSplits
import Ssim.Hsms.Session
import Ssim.Hsms.SystemBytes
import Ssim.Hsms.Transport
import Ssim.Hsms.SessionCalls
import Ssim.Hsms.SessionInvariant
import Ssim.Hsms.Transactions
import Ssim.Hsms.LinkView
import Ssim.Hsms.Emissions
import Ssim.Hsms.TickSchedules
import Ssim.Hsms.Renaming
import Ssim.Gem.Identifiers
import Ssim.Gem.Messages
import Ssim.Gem.Service
import Ssim.Gem.Server
import Ssim.Gem.Connections
import Ssim.Gem.SystemConnection
import Ssim.Gem.Effects
import Ssim.Gem.Steps
import Ssim.Gem.Agreement
import Ssim.Gem.Threads
import Ssim.Gem.ControlAuthority
import Ssim.Gem.HostMessages
import Ssim.Gem.Answers
import Ssim.Gem.Accesses
import Ssim.Gem.MessageRoundTrip
import Ssim.Gem.RemoteCommands
import Ssim.Gem.RequestTable
import Ssim.Gem.Sendings
import Ssim.Gem.Equipment
import Ssim.Gem.Refinement
import Ssim.Gem.Chunking
import Ssim.Gem.StatusReplies
import Ssim.Analysis.Types
import Ssim.Analysis.Filters
import Ssim.Analysis.OutlierWindow
import Ssim.Analysis.LineFit
import Ssim.Analysis.WaferMap
import Ssim.Analysis.Pipeline
import Ssim.Analysis.FitPool
import Ssim.Analysis.ParallelPipeline
import Ssim.Analysis.Reals
import Ssim.Analysis.Interpolation
import Ssim.Hw.WaferModel
import Ssim.Machine.Runtime
import Ssim.Machine.Steps
import Ssim.Machine.Custody
import Ssim.Machine.Results
import Ssim.Machine.Isolation
import Ssim.Machine.Outputs
import Ssim.Machine.Conversions
import Ssim.Secs2.Canonical
import Ssim.Secs2.TextDump
import Ssim.Secs2.DumpBounds
import Ssim.HostSim.Pattern
import Ssim.HostSim.PatternText
import Ssim.HostSim.CanonicalText
import Ssim.HostSim.Literals
import Ssim.Core.QueueThreads
import Ssim.Core.QueueSharing
import Ssim.Core.QueueProgress
import Ssim.Core.Logger
import Ssim.Core.UiRules
import Ssim.Hw.FaultInjector
import Ssim.Hw.ScanThread
import Ssim.HostSim.Runner
import Ssim.Library.Correspondence
import Ssim.Hsms.FrameLink
import Ssim.Hsms.Obligations
import Ssim.HostSim.Conversation
import Ssim.HostSim.ScriptRuns
import Ssim.HostSim.Script
import Ssim.HostSim.ScriptLines
import Ssim.HostSim.ScriptLanguage
import Ssim.Machine.OutputFiles
