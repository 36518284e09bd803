import TinyIpfix.Lib.Timers
import TinyIpfix.Processes

/-! The loops of the two Contiki processes with their event timers. Contiki is a parameter,
and so are the ticks of a second, which differ between platforms. -/

namespace TinyIpfix
open CMem Timers

variable {ς : Type}

inductive CollectorTimer
  | templateTimer
  | dataTimer
  deriving DecidableEq

instance : Fintype CollectorTimer where
  elems := {.templateTimer, .dataTimer}
  complete timer := by cases timer <;> simp

/-- `TEMPLATE_INTERVAL` and `DATA_INTERVAL` of collector.c. -/
def CollectorTimer.seconds : CollectorTimer → Nat
  | .templateTimer => 17
  | .dataTimer => 5

def CollectorTimer.interval (clockSecond : Nat) (timer : CollectorTimer) : Nat := clockSecond * timer.seconds

/-- What the loop finds when it is woken: whether the lookup of the aggregator succeeds,
and what the sensors deliver. -/
structure Wake where
  reachable : Bool
  readings : Nat → UInt64

/-- The loop of `unicast_sender_process` after an event. A timer whose buffer is missing is
not reset. -/
def unicastSenderLoop (system : System CollectorTimer ς) (config : HeaderConfig) (sensor : List TemplateRec) :
    Thread Wake ς Library Message Fault := fun wake held library =>
  if system.expired held .templateTimer then
    match getTemplate library with
    | none => .ok (held, library, [])
    | some buffer => do
      let sent ← collectorSend wake.reachable buffer
      return (system.reset .templateTimer held, library, sent)
  else if system.expired held .dataTimer then do
    let (result, library) ← getData config sensor wake.readings library
    match result with
    | none => return (held, library, [])
    | some buffer =>
      let sent ← collectorSend wake.reachable buffer
      return (system.reset .dataTimer held, library, sent)
  else
    .ok (held, library, [])

/-- The process when it first waits: both timers are set, the library is initialized. -/
def unicastSenderStart (system : System CollectorTimer ς) (clockSecond : Nat) (held : ς) (library : Library) :
    Node ς Library Message where
  system :=
    let held := system.set .templateTimer (CollectorTimer.templateTimer.interval clockSecond) held
    system.set .dataTimer (CollectorTimer.dataTimer.interval clockSecond) held
  state := library
  sent := []

inductive AggregatorTimer
  | templateTimer
  deriving DecidableEq

instance : Fintype AggregatorTimer where
  elems := {.templateTimer}
  complete timer := by cases timer; simp

/-- `TEMPLATE_INTERVAL` of aggregator.c. -/
def AggregatorTimer.seconds : AggregatorTimer → Nat
  | .templateTimer => 51

def AggregatorTimer.interval (clockSecond : Nat) (timer : AggregatorTimer) : Nat := clockSecond * timer.seconds

/-- The loop of `aggregator_process` after an event. -/
def aggregatorLoop (system : System AggregatorTimer ς) (templateBuf : Region) : Thread Unit ς Unit Message Fault :=
  fun _ held state =>
    if system.expired held .templateTimer then do
      let sent ← sendAggrTemplate templateBuf
      return (system.reset .templateTimer held, state, sent)
    else
      .ok (held, state, [])

def aggregatorStart (system : System AggregatorTimer ς) (clockSecond : Nat) (held : ς) : Node ς Unit Message where
  system := system.set .templateTimer (AggregatorTimer.templateTimer.interval clockSecond) held
  state := ()
  sent := []

end TinyIpfix
