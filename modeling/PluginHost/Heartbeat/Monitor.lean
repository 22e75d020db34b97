import PluginHost.Heartbeat.Heartbeat

set_option autoImplicit false

namespace PluginHost.Monitor

def typeName : String := "plugin_heartbeat::monitor::MonitorPlugin"

structure Cells where
  seen : Nat
  last : Nat
  /-- The channel and the number of the subscription, once there is one. -/
  subscription : Nat

def tell (level : Level) (message : String) (fields : List (String × FieldValue)) : Steps Unit :=
  Steps.say (.event (Origin.monitor.event level message fields))

def seqOf (beat : Json) : Nat := ((beat.get? "seq").getD .null).toNat

/-- What is done with a beat. -/
def seeBeat (cells : Cells) (beat : Json) : Code := Steps.code do
  let count ← Steps.read cells.seen
  let expected := count.toNat + 1
  Steps.write cells.seen (.int expected)
  if seqOf beat = expected then pure ()
  else
    tell .warn "Heartbeat out of sequence"
      [("expected", .number expected), ("got", .number (seqOf beat))]
  Steps.write cells.last beat

/-- The answer to a question for the number of beats. -/
def countSeen (cells : Cells) : Code := Steps.result (Steps.read cells.seen)

def setUp (cells : Cells) : Code := Steps.code do
  let channel ← Steps.channel beats
  let number ← Steps.subscribe channel (seeBeat cells)
  Steps.write cells.subscription (.array [.int channel, .int number])
  let method ← Steps.method beatCount
  let _ ← Steps.provide method priority.medium fun _ => countSeen cells

def reload (cells : Cells) : Code := Steps.code do
  let count ← Steps.read cells.seen
  tell .info "Monitor status" [("beats", .number count.toNat)]

def stop (cells : Cells) : Code := Steps.code do
  match ← Steps.read cells.subscription with
  | .array [.int channel, .int number] =>
    Steps.write cells.subscription .null
    let _ ← Steps.unsubscribe channel.toNat number.toNat
  | _ => pure ()
  let count ← Steps.read cells.seen
  tell .info "Monitor stopped" [("beats", .number count.toNat)]

def plugin (cells : Cells) : Plugin :=
  { type := typeName
    name := shortTypeName typeName
    cells := [cells.seen, cells.last, cells.subscription]
    requires := fun _ => [.typed Heartbeat.typeName]
    setUp := fun _ => setUp cells
    stop := stop cells
    reload := reload cells }

def create (h : Host) : Plugin × Host :=
  let (seen, h) := h.allocate (.int 0)
  let (last, h) := h.allocate .null
  let (subscription, h) := h.allocate .null
  (plugin ⟨seen, last, subscription⟩, h)

def type : PluginType := ⟨typeName, create⟩

def seenSoFar (p : Plugin) (h : Host) : Nat :=
  match p.cells[0]? with
  | some cell => (h.read cell).toNat
  | none => 0

def lastSeen (p : Plugin) (h : Host) : Json :=
  match p.cells[1]? with
  | some cell => h.read cell
  | none => .null

end PluginHost.Monitor
