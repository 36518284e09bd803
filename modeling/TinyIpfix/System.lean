import TinyIpfix.Lib.Network
import TinyIpfix.Processes

/-! The deployed system: collectors that were started with one table, the aggregator they
report to, and the network between them. -/

namespace TinyIpfix
open CMem Network

/-- The network carries datagrams, so an input of the aggregator brings the bytes of one. -/
def AggregatorEvent.message? : AggregatorEvent → Option Message
  | .receive datagram => some datagram.data.bytes
  | .expire => none

def system {σ : Type} (config : HeaderConfig) (sensor : List TemplateRec)
    (aggregator : AggregatorEvent → σ → Checked (σ × List Message)) :
    Parties TimerEvent AggregatorEvent Library σ Message Message Fault where
  send := unicastSenderProcess config sensor
  receive := aggregator
  carries := AggregatorEvent.message?

/-- The library as `unicast_sender_process` finds it when its loop starts. -/
def CollectorStarted (config : HeaderConfig) (sensor : List TemplateRec) (library : Library) : Prop :=
  ∃ heap code, initializeTinyipfix config sensor heap 1 Library.initial = .ok (code, library)

/-- The template and the static variables of msg_aggr.c as the aggregator's loop finds them. -/
def MsgAggr.Started (config : HeaderConfig) (sensor : List TemplateRec) (degreeOfAggregation : Nat)
    (templateBuf : Region) (state : MsgAggr.State) : Prop :=
  ∃ heap memory beyond library,
    MsgAggr.getAggrTemplate config sensor heap degreeOfAggregation ⟨List.replicate maxMsgSize 0, memory⟩
      Library.initial = .ok (templateBuf, library) ∧
    state = MsgAggr.initial config beyond

/-- The same for data_aggr.c, whose variables are set by the walk over the template. -/
def DataAggr.Started (config : HeaderConfig) (sensor : List TemplateRec) (sensorPos : Nat) (templateBuf : Region)
    (state : DataAggr.State) : Prop :=
  ∃ heap memory library,
    DataAggr.getAggrTemplate config sensor heap memory sensorPos Library.initial DataAggr.initial =
      .ok (templateBuf, library, state)

end TinyIpfix
