import PluginHost.Code.Steps
import PluginHost.Codec.Basic
import PluginHost.Messaging.Channel
import PluginHost.Plugin.Basic
import PluginHost.Time.Rfc3339

set_option autoImplicit false

namespace PluginHost

structure Beat where
  seq : Nat
  at_ : Time.Instant
deriving DecidableEq, Repr

def Codec.word : Codec Nat := .via (.int "u64" 0 Number.maxWord) Int.toNat Int.ofNat

def Codec.instant : Codec Time.Instant :=
  .text "an RFC 3339 formatted date and time string"
    (fun text => (Time.parse text).mapError Time.TimeFault.message) Time.render

namespace Beat

def codec : Codec Beat :=
  .via (.record "Beat" (.cons "seq" .word none (.cons "at" .instant none .nil)))
    (fun (seq, at_, _) => ⟨seq, at_⟩) (fun b => (b.seq, b.at_, ()))

end Beat

/-- The channel that carries beats. -/
def beats : ChannelKind := { name := "plugin_heartbeat::heartbeat::HeartbeatChannel" }

/-- The method that tells how many beats the monitor has seen. -/
def beatCount : String := "plugin_heartbeat::monitor::BeatCount"

namespace Json

/-- The number that a cell holds, zero if it holds something else. -/
def toNat : Json → Nat
  | .int n => n.toNat
  | _ => 0

end Json

namespace Heartbeat

def typeName : String := "plugin_heartbeat::heartbeat::HeartbeatPlugin"

/-- Milliseconds between two beats. -/
def intervalOption : Declaration :=
  ⟨"heartbeat-interval-ms", "Milliseconds between heartbeats", some (.int 1000)⟩

/-- How many beats there are before the host quits. -/
def limitOption : Declaration :=
  ⟨"heartbeat-limit", "Quit after this many heartbeats (0 runs forever)", some (.int 0)⟩

structure Cells where
  interval : Nat
  limit : Nat
  /-- How many ticks there were. -/
  sequence : Nat
  /-- The watch that stops the ticker, once there is one. -/
  cancel : Nat

def tell (level : Level) (message : String) (fields : List (String × FieldValue)) : Steps Unit :=
  Steps.say (.event (Origin.heartbeat.event level message fields))

def quitCode : Code := Steps.code Steps.quit

/-- What is done at every tick. -/
def beatCode (cells : Cells) (channel limit : Nat) : Code := Steps.code do
  let count ← Steps.read cells.sequence
  let seq := count.toNat + 1
  Steps.write cells.sequence (.int seq)
  if 0 < limit ∧ limit < seq then pure ()
  else
    tell .debug "Heartbeat" [("seq", .number seq)]
    let now ← Steps.clock
    let beat : Beat := ⟨seq, Time.Instant.epoch.addMillis now⟩
    Steps.orFail (← Steps.publish beats channel (Beat.codec.write beat))
    if seq = limit then
      tell .info "Heartbeat limit reached, quitting" [("limit", .number limit)]
      Steps.orFail (← Steps.post priority.lowest 0 quitCode)
    else pure ()

def setUp (cells : Cells) (options : Options) : Code := Steps.code do
  let interval ← Steps.orFail (options.get .word intervalOption.name)
  Steps.write cells.interval (.int (max interval 1))
  let limit ← Steps.orFail (options.get .word limitOption.name)
  Steps.write cells.limit (.int limit)
  let _ ← Steps.channel beats
  tell .info "Heartbeat configured" [("interval_ms", .number interval), ("limit", .number limit)]

def start (cells : Cells) : Code := Steps.code do
  let channel ← Steps.channel beats
  let limit ← Steps.read cells.limit
  let interval ← Steps.read cells.interval
  let watch ← Steps.openWatch
  Steps.orFail (← Steps.tick interval.toNat watch (beatCode cells channel limit.toNat))
  Steps.write cells.cancel (.int watch)

def stop (cells : Cells) : Code := Steps.code do
  match ← Steps.read cells.cancel with
  | .int watch =>
    Steps.write cells.cancel .null
    Steps.ask (.send watch.toNat true)
    Steps.ask (.closeWatch watch.toNat)
  | _ => pure ()
  let count ← Steps.read cells.sequence
  tell .info "Heartbeat stopped" [("beats", .number count.toNat)]

/-- Without the plugin nobody can stop the ticker any more, so it stops by itself. -/
def release (cells : Cells) (h : Host) : Host :=
  match h.read cells.cancel with
  | .int watch => h.changeWatch watch.toNat Watch.close
  | _ => h

def plugin (cells : Cells) : Plugin :=
  { type := typeName
    name := shortTypeName typeName
    cells := [cells.interval, cells.limit, cells.sequence, cells.cancel]
    options := [intervalOption, limitOption]
    setUp := setUp cells
    start := start cells
    stop := stop cells
    release := release cells }

def create (h : Host) : Plugin × Host :=
  let (interval, h) := h.allocate (.int 1000)
  let (limit, h) := h.allocate (.int 0)
  let (sequence, h) := h.allocate (.int 0)
  let (cancel, h) := h.allocate .null
  (plugin ⟨interval, limit, sequence, cancel⟩, h)

def type : PluginType := ⟨typeName, create⟩

/-- How many beats a heartbeat plugin has produced. -/
def beatsSoFar (p : Plugin) (h : Host) : Nat :=
  match p.cells[2]? with
  | some cell => (h.read cell).toNat
  | none => 0

end Heartbeat

end PluginHost
