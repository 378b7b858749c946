import DslinkSystem.Library.EventRuns
import DslinkSystem.Library.TimerSlots
import DslinkSystem.Library.DeadlineTimers
import DslinkSystem.Library.MapCursor
import DslinkSystem.Library.DistinctCount
import DslinkSystem.Library.Holdings
import DslinkSystem.Library.Thresholds
import DslinkSystem.Library.Tallies
import DslinkSystem.Library.TextScan
import DslinkSystem.Library.InputStream
import DslinkSystem.Library.NumberChain
import DslinkSystem.Library.LineReaders
import DslinkSystem.BaseNodes
import DslinkSystem.Info.CpuInfo
import DslinkSystem.Info.CpuCounting
import DslinkSystem.Info.CpuValues
import DslinkSystem.Info.CpuTopology
import DslinkSystem.Info.ProcessorRecords
import DslinkSystem.Info.ProcessorNames
import DslinkSystem.Info.CpuUsage
import DslinkSystem.Info.StatEntries
import DslinkSystem.Info.CpuPercentage
import DslinkSystem.Info.CpuLoad
import DslinkSystem.Info.CpuTemperature
import DslinkSystem.Info.ComSession
import DslinkSystem.Info.MemInfo
import DslinkSystem.Info.StorageFigures
import DslinkSystem.Info.Release
import DslinkSystem.Info.ReleaseChain
import DslinkSystem.Info.ReleaseFile
import DslinkSystem.Info.WindowsVersion
import DslinkSystem.Info.Pipes
import DslinkSystem.Info.ProcessCount
import DslinkSystem.Info.MacMemory
import DslinkSystem.Info.MacGetters
import DslinkSystem.Network.InterfaceNodes
import DslinkSystem.Network.InterfaceAddresses
import DslinkSystem.Network.Reconciliation
import DslinkSystem.Network.Serving
import DslinkSystem.Network.HostUpdates
import DslinkSystem.Network.WindowsAdapters
import DslinkSystem.Polling.PollSide
import DslinkSystem.Polling.StatLoop
import DslinkSystem.Polling.PollView
import DslinkSystem.Polling.Refresh
import DslinkSystem.Polling.Coverage
import DslinkSystem.Polling.PollRate
import DslinkSystem.Polling.Publication
import DslinkSystem.Polling.OpenPipes
import DslinkSystem.Process.Draining
import DslinkSystem.Process.ProcessHandler
import DslinkSystem.Process.CommandOutput
import DslinkSystem.Process.Termination
import DslinkSystem.Commands.CommandSide
import DslinkSystem.Commands.CommandSteps
import DslinkSystem.Commands.Children
import DslinkSystem.Commands.Accounting
import DslinkSystem.Commands.OutputAccount
import DslinkSystem.Commands.OutputIsolation
import DslinkSystem.Commands.ControlIsolation
import DslinkSystem.Commands.StreamTimers
import DslinkSystem.Commands.Renumbering
import DslinkSystem.Commands.LaunchFailure
import DslinkSystem.Node.InfoDsLinkNode
import DslinkSystem.Node.Strand
import DslinkSystem.Node.Survival
