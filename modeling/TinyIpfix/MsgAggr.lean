import TinyIpfix.Comm
import TinyIpfix.Library

/-! Message aggregation, msg_aggr.c: the payloads of `DEGREE_OF_AGGREGATION` datagrams
are copied one behind the other and sent under one header. -/

namespace TinyIpfix.MsgAggr
open CMem

structure State where
  aggrCount : UInt8
  position : UInt16
  seqNum : UInt16
  aggrDataBuf : Region

def initial (config : HeaderConfig) (beyond : Nat → UInt8) : State where
  aggrCount := 0
  position := UInt16.ofNat config.msgHeaderSize
  seqNum := 0
  aggrDataBuf := ⟨List.replicate maxMsgSize 0, beyond⟩

/-- `template_buf` is smaller than the region copied out of it. -/
def getAggrTemplate (config : HeaderConfig) (sensor : List TemplateRec) (heap : Heap) (degreeOfAggregation : Nat)
    (aggrTemplateBuf : Region) (library : Library) : Checked (Region × Library) := do
  let (_, library) ← initializeTinyipfix config sensor heap (UInt8.ofNat degreeOfAggregation) library
  let template ← deref (getTemplate library)
  let aggrTemplateBuf ← aggrTemplateBuf.write 0 (template.view maxMsgSize)
  return (aggrTemplateBuf, library)

def calcAggrPayload (config : HeaderConfig) (degreeOfAggregation : Nat) (datagram : Datagram) (state : State) :
    Checked (State × List Message) := do
  let tinyipfixMsg := splitPacket config datagram.data
  let aggrCount := state.aggrCount + 1
  let aggrDataBuf ← memcpy state.aggrDataBuf state.position.toNat tinyipfixMsg.payload 0
    ((datagram.datalen.toNat : Int) - config.msgHeaderSize)
  let position := state.position + (datagram.datalen - UInt16.ofNat config.msgHeaderSize)
  if aggrCount.toNat = degreeOfAggregation then
    let (_, aggrDataBuf) ← buildMsgHeader config aggrDataBuf dataSetId position state.seqNum
    return (⟨0, UInt16.ofNat config.msgHeaderSize, state.seqNum + 1, aggrDataBuf⟩,
      msgSend borderComm aggrDataBuf position)
  else
    return (⟨aggrCount, position, state.seqNum, aggrDataBuf⟩, [])

end TinyIpfix.MsgAggr
