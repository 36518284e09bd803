import TinyIpfix.DataAggr
import TinyIpfix.MsgAggr

/-! The two Contiki processes: the aggregator's periodic template and the collector's
template and data messages. -/

namespace TinyIpfix
open CMem

/-- The aggregator's template timer. -/
def sendAggrTemplate (templateBuf : Region) : Checked (List Message) := do
  let length ← extrLenFromHeader templateBuf
  return msgSend borderComm templateBuf length.toUInt16

/-- The template the message aggregator sends when its timer expires after start-up. -/
def MsgAggr.periodicSend (config : HeaderConfig) (sensor : List TemplateRec) (heap : Heap) (degreeOfAggregation : Nat)
    (beyond : Nat → UInt8) : Checked (List Message) := do
  let (templateBuf, _) ← MsgAggr.getAggrTemplate config sensor heap degreeOfAggregation
    ⟨List.replicate maxMsgSize 0, beyond⟩ Library.initial
  sendAggrTemplate templateBuf

/-- What the aggregator reacts to after start-up. -/
inductive AggregatorEvent
  | receive (datagram : Datagram)
  | expire

/-- The process and the receive callback share nothing but the network: the template is not
written again, and the state of the aggregation is only touched by the callback. -/
def aggregatorProcess {σ : Type} (calcAggrPayload : Datagram → σ → Checked (σ × List Message)) (templateBuf : Region)
    (event : AggregatorEvent) (state : σ) : Checked (σ × List Message) :=
  match event with
  | .receive datagram => receiver calcAggrPayload datagram state
  | .expire => do
    let sent ← sendAggrTemplate templateBuf
    return (state, sent)

/-- A wake-up of the collector, with the outcome of the lookup of the aggregator. -/
inductive TimerEvent
  | template (reachable : Bool)
  | data (reachable : Bool) (readings : Nat → UInt64)

/-- `simple_udp_sendto(&aggregator_comm, buffer, buffer[1], addr)` when the lookup found
an address. -/
def collectorSend (reachable : Bool) (buffer : Region) : Checked (List Message) := do
  if reachable then
    let length ← buffer.load 1
    return [buffer.view length.toNat]
  else
    return []

def unicastSenderProcess (config : HeaderConfig) (sensor : List TemplateRec) (event : TimerEvent)
    (library : Library) : Checked (Library × List Message) :=
  match event with
  | .template reachable =>
    match getTemplate library with
    | none => .ok (library, [])
    | some buffer => do
      let sent ← collectorSend reachable buffer
      return (library, sent)
  | .data reachable readings => do
    let (result, library) ← getData config sensor readings library
    match result with
    | none => return (library, [])
    | some buffer =>
      let sent ← collectorSend reachable buffer
      return (library, sent)

end TinyIpfix
