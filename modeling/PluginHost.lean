import PluginHost.Main
import PluginHost.Proofs.Application.HookDiscipline
import PluginHost.Proofs.Application.OptionsSeen
import PluginHost.Proofs.Application.PollBounds
import PluginHost.Proofs.Application.Reloading
import PluginHost.Proofs.Application.RunResult
import PluginHost.Proofs.Application.StartResult
import PluginHost.Proofs.BringUp.Quitting
import PluginHost.Proofs.Config.RoundTrip
import PluginHost.Proofs.Config.Sources
import PluginHost.Proofs.Executor.Continuation
import PluginHost.Proofs.Executor.DefaultQueue
import PluginHost.Proofs.Executor.OneQueue
import PluginHost.Proofs.Executor.QueueOrder
import PluginHost.Proofs.Executor.SortedQueue
import PluginHost.Proofs.Heartbeat.PastTheLimit
import PluginHost.Proofs.Heartbeat.RoundTrip
import PluginHost.Proofs.Heartbeat.Sequence
import PluginHost.Proofs.Messaging.Panics
import PluginHost.Proofs.Messaging.Providers
import PluginHost.Proofs.Options.ListedDefaults
import PluginHost.Proofs.Options.Listing
import PluginHost.Proofs.Plugin.Asking
import PluginHost.Proofs.Plugin.Enrolled
import PluginHost.Proofs.Plugin.Initializing
import PluginHost.Proofs.Plugin.LeftBehind
import PluginHost.Proofs.Plugin.TypeNames
import PluginHost.Proofs.RunLoop.Drain
import PluginHost.Proofs.RunLoop.Followed
import PluginHost.Proofs.RunLoop.WakeUps
import PluginHost.Proofs.Scoped.OneAtATime
import PluginHost.Proofs.Sharing.Clones
import PluginHost.Script.Reader
