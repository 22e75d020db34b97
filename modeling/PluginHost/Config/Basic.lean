import PluginHost.Executor.Policy
import PluginHost.Options.Basic

set_option autoImplicit false

namespace PluginHost

inductive LogFormat where
  | pretty
  | json
deriving DecidableEq, Repr

namespace LogFormat

def name : LogFormat → String
  | pretty => "pretty"
  | json => "json"

def all : List LogFormat := [pretty, json]

def codec : Codec LogFormat := .choice "LogFormat" (all.map fun f => (f.name, f)) name

end LogFormat

/-- The policies that can be configured. -/
inductive PolicyChoice where
  | defaultQueue
  | highestPriority
deriving DecidableEq, Repr

namespace PolicyChoice

def name : PolicyChoice → String
  | defaultQueue => "default_queue"
  | highestPriority => "highest_priority"

def all : List PolicyChoice := [defaultQueue, highestPriority]

def codec : Codec PolicyChoice := .choice "ArbitrationMode" (all.map fun p => (p.name, p)) name

def policy : PolicyChoice → Policy
  | defaultQueue => .defaultQueue
  | highestPriority => .highestPriority

end PolicyChoice

structure LoggingConfig where
  /-- The filter for events when the environment sets none. -/
  level : String := "info"
  format : LogFormat := .pretty
  threadIds : Bool := false
deriving DecidableEq, Repr

structure ExecutorConfig where
  /-- How many polls of the reactor there are between two tasks at most. -/
  pollBatch : Nat := 64
  policy : PolicyChoice := .defaultQueue
  /-- How many queues there are beside queue 0. -/
  extraQueues : Nat := 0
deriving DecidableEq, Repr

structure PluginsConfig where
  /-- The plugins to set up; what they depend on comes along. -/
  enabled : List String := []
deriving DecidableEq, Repr

structure Config where
  logging : LoggingConfig := {}
  executor : ExecutorConfig := {}
  plugins : PluginsConfig := {}
  options : Options := .empty

def Codec.count : Codec Nat := .via (.int "usize" 0 Number.maxWord) Int.toNat Int.ofNat

namespace LoggingConfig

def codec : Codec LoggingConfig :=
  .via (.record "LoggingConfig"
      (.cons "level" .string (some "info")
        (.cons "format" LogFormat.codec (some .pretty)
          (.cons "thread_ids" .bool (some false) .nil))))
    (fun (level, format, threadIds, _) => ⟨level, format, threadIds⟩)
    (fun c => (c.level, c.format, c.threadIds, ()))

end LoggingConfig

namespace ExecutorConfig

def codec : Codec ExecutorConfig :=
  .via (.record "ExecutorConfig"
      (.cons "poll_batch" .count (some 64)
        (.cons "policy" PolicyChoice.codec (some .defaultQueue)
          (.cons "extra_queues" .count (some 0) .nil))))
    (fun (pollBatch, policy, extraQueues, _) => ⟨pollBatch, policy, extraQueues⟩)
    (fun c => (c.pollBatch, c.policy, c.extraQueues, ()))

end ExecutorConfig

namespace PluginsConfig

def codec : Codec PluginsConfig :=
  .via (.record "PluginConfig" (.cons "enabled" (.list .string) (some []) .nil))
    (fun (enabled, _) => ⟨enabled⟩) (fun c => (c.enabled, ()))

end PluginsConfig

namespace Config

def codec : Codec Config :=
  .via (.record "AppConfig"
      (.cons "logging" LoggingConfig.codec (some {})
        (.cons "executor" ExecutorConfig.codec (some {})
          (.cons "plugins" PluginsConfig.codec (some {})
            (.cons "options" Options.codec (some .empty) .nil)))))
    (fun (logging, executor, plugins, options, _) => ⟨logging, executor, plugins, options⟩)
    (fun c => (c.logging, c.executor, c.plugins, c.options, ()))

end Config

end PluginHost
