import TinyIpfix.Comm
import TinyIpfix.Library

/-! Data aggregation, data_aggr.c: one field of each datagram is extracted, folded over
`DEGREE_OF_AGGREGATION` datagrams and sent as a message of its own. -/

namespace TinyIpfix.DataAggr
open CMem CLoop

inductive AggrFunc
  | avg
  | max
  | min
  deriving Repr, DecidableEq

/-- The results of shifts by the width of the operand or more, which C leaves open. -/
structure Overshift where
  left : UInt32 → Nat → UInt32
  right : UInt32 → Nat → UInt32

def Overshift.shiftLeft (overshift : Overshift) (value : UInt32) (amount : Nat) : UInt32 :=
  if amount < 32 then value <<< UInt32.ofNat amount else overshift.left value amount

def Overshift.shiftRight (overshift : Overshift) (value : UInt32) (amount : Nat) : UInt32 :=
  if amount < 32 then value >>> UInt32.ofNat amount else overshift.right value amount

structure State where
  aggrFieldLen : UInt16
  payloadExtrPos : UInt16
  aggrDataBuf : Option Region
  aggrCount : UInt8
  seqNum : UInt16
  dataAggrState : UInt32
  dataAggrStateMin : UInt32

def initial : State := ⟨0, 0, none, 0, 0, 0, 0xffff⟩

def templateReplica : UInt8 := 1

def numberOfAggrFields : UInt8 := 1

/-- The local variables of the walk over the template, and the global it adds to. -/
structure Walk where
  position : UInt16
  endOfBlock : UInt16
  fieldLen : UInt16
  payloadExtrPos : UInt16

def walkRecord (aggrTemplateBuf : Region) (walk : Walk) : Checked Walk := do
  let position := walk.endOfBlock
  let idHigh ← aggrTemplateBuf.load position.toNat
  let idLow ← aggrTemplateBuf.load (position.toNat + 1)
  let elementId := (idHigh.toUInt16 <<< 8) ||| idLow.toUInt16
  let endOfBlock := if hasEnterpriseBit elementId then position + 8 else position + 4
  let payloadExtrPos := walk.payloadExtrPos + walk.fieldLen
  let lenHigh ← aggrTemplateBuf.load (position.toNat + 2)
  let lenLow ← aggrTemplateBuf.load (position.toNat + 3)
  return ⟨position, endOfBlock, (lenHigh.toUInt16 <<< 8) ||| lenLow.toUInt16, payloadExtrPos⟩

def walkTemplate (config : HeaderConfig) (sensorPos : Nat) (aggrTemplateBuf : Region) (payloadExtrPos : UInt16) :
    Checked Walk :=
  let start := UInt16.ofNat (config.msgHeaderSize + setHeaderSize)
  forEach (List.range (sensorPos + 1)) (fun _ walk => walkRecord aggrTemplateBuf walk) ⟨start, start, 0, payloadExtrPos⟩

/-- `aggr_template_buf` becomes the block of the library's template, so the template is
edited where it is read from. `memory` is what the block for `aggr_data_buf` holds. -/
def getAggrTemplate (config : HeaderConfig) (sensor : List TemplateRec) (heap : Heap) (memory : Nat → UInt8)
    (sensorPos : Nat) (library : Library) (state : State) : Checked (Region × Library × State) := do
  let aggrDataBuf := malloc maxMsgSize memory
  let (_, library) ← initializeTinyipfix config sensor heap templateReplica library
  let aggrTemplateBuf ← deref (getTemplate library)
  let walk ← walkTemplate config sensorPos aggrTemplateBuf state.payloadExtrPos
  let start := config.msgHeaderSize + setHeaderSize
  let blockLen : Int := (walk.endOfBlock.toNat : Int) - walk.position.toNat
  let aggrTemplateBuf ← memcpy aggrTemplateBuf start aggrTemplateBuf walk.position.toNat blockLen
  let aggrTemplateBuf ← memcpy aggrTemplateBuf 0 aggrTemplateBuf 0 start
  let aggrTemplateBuf ← aggrTemplateBuf.store 1 (UInt8.ofInt (start + blockLen))
  let aggrTemplateBuf ← aggrTemplateBuf.store (start - 1) numberOfAggrFields
  return (aggrTemplateBuf, { library with templateBuf := some aggrTemplateBuf },
    { state with aggrFieldLen := walk.fieldLen, payloadExtrPos := walk.payloadExtrPos, aggrDataBuf := some aggrDataBuf })

protected def max (a b : UInt32) : UInt32 := if a > b then a else b

protected def min (a b : UInt32) : UInt32 := if a < b then a else b

/-- The indices of the datagram that were read and the amounts that were shifted by. -/
structure Trace where
  reads : List Nat
  shifts : List Nat

/-- What a call leaves and sends. -/
structure Outcome extends Trace where
  state : State
  sent : List Message

/-- The value decoded so far. -/
structure Decoding extends Trace where
  converted : UInt32

/-- Reads a byte of the part of the datagram that begins at `base`. -/
def readByte (part : Region) (base index : Nat) (trace : Trace) : UInt8 × Trace :=
  (part.byteAt index, { trace with reads := trace.reads ++ [base + index] })

def shiftLeft (overshift : Overshift) (value : UInt32) (amount : Nat) (trace : Trace) : UInt32 × Trace :=
  (overshift.shiftLeft value amount, { trace with shifts := trace.shifts ++ [amount] })

def shiftRight (overshift : Overshift) (value : UInt32) (amount : Nat) (trace : Trace) : UInt32 × Trace :=
  (overshift.shiftRight value amount, { trace with shifts := trace.shifts ++ [amount] })

/-- The loop of `splitPacket` over the bytes of the header. -/
def splitHeader (config : HeaderConfig) (data : Region) (trace : Trace) : List UInt8 × Trace :=
  (List.range config.msgHeaderSize).foldl (fun (header, trace) i =>
    let (byte, trace) := readByte data 0 i trace
    (header ++ [byte], trace)) ([], trace)

def decodeByte (overshift : Overshift) (config : HeaderConfig) (payload : Region) (state : State) (i : Nat)
    (decoding : Decoding) : Decoding :=
  let (byte, trace) := readByte payload config.msgHeaderSize (state.payloadExtrPos.toNat + i) decoding.toTrace
  let (tmp, trace) := shiftLeft overshift byte.toUInt32 (8 * (state.aggrFieldLen.toNat - 1 - i)) trace
  { toTrace := trace, converted := decoding.converted ||| tmp }

def convert (overshift : Overshift) (config : HeaderConfig) (datagram : Datagram) (state : State) : Checked Decoding :=
  let headerAndPayload := splitPacket config datagram.data
  let (_, trace) := splitHeader config datagram.data ⟨[], []⟩
  forEach (List.range state.aggrFieldLen.toNat)
    (fun i decoding => .ok (decodeByte overshift config headerAndPayload.payload state i decoding))
    { toTrace := trace, converted := 0 }

/-- One value folded into the running state and the separate minimum. -/
def accumulate (aggrFunc : AggrFunc) (dataAggrState dataAggrStateMin converted : UInt32) : UInt32 × UInt32 :=
  match aggrFunc with
  | .avg => (dataAggrState + converted, dataAggrStateMin)
  | .max => (DataAggr.max dataAggrState converted, dataAggrStateMin)
  | .min => (DataAggr.min dataAggrStateMin converted, DataAggr.min dataAggrStateMin converted)

def finish (aggrFunc : AggrFunc) (degreeOfAggregation : Nat) (dataAggrState : UInt32) : UInt32 :=
  match aggrFunc with
  | .avg => dataAggrState / UInt32.ofNat degreeOfAggregation
  | _ => dataAggrState

def encodeByte (overshift : Overshift) (config : HeaderConfig) (fieldLen : UInt16) (value : UInt32) (i : Nat)
    (current : Region × Trace) : Checked (Region × Trace) := do
  let (shifted, trace) := shiftRight overshift value (8 * (fieldLen.toNat - 1 - i)) current.2
  let aggrDataBuf ← current.1.store (config.msgHeaderSize + i) shifted.toUInt8
  return (aggrDataBuf, trace)

def calcAggrPayload (overshift : Overshift) (aggrFunc : AggrFunc) (config : HeaderConfig) (degreeOfAggregation : Nat)
    (datagram : Datagram) (state : State) : Checked Outcome := do
  let aggrCount := state.aggrCount + 1
  let decoding ← convert overshift config datagram state
  let (dataAggrState, dataAggrStateMin) :=
    accumulate aggrFunc state.dataAggrState state.dataAggrStateMin decoding.converted
  if aggrCount.toNat = degreeOfAggregation then
    let dataAggrState := finish aggrFunc degreeOfAggregation dataAggrState
    let aggrDataBuf ← deref state.aggrDataBuf
    let (_, aggrDataBuf) ← buildMsgHeader config aggrDataBuf dataSetId
      (UInt16.ofNat (config.msgHeaderSize + state.aggrFieldLen.toNat)) state.seqNum
    let (aggrDataBuf, trace) ← forEach (List.range state.aggrFieldLen.toNat)
      (encodeByte overshift config state.aggrFieldLen dataAggrState) (aggrDataBuf, decoding.toTrace)
    let length ← extrLenFromHeader aggrDataBuf
    return {
      toTrace := trace
      state := { state with
        aggrDataBuf := some aggrDataBuf, aggrCount := 0, seqNum := state.seqNum + 1
        dataAggrState := 0, dataAggrStateMin := 0xffff }
      sent := msgSend borderComm aggrDataBuf length.toUInt16 }
  else
    return {
      toTrace := decoding.toTrace
      state := { state with aggrCount, dataAggrState, dataAggrStateMin }
      sent := [] }

/-- The callback's view of `calcAggrPayload`: the state it leaves and what it sends. -/
def step (overshift : Overshift) (aggrFunc : AggrFunc) (config : HeaderConfig) (degreeOfAggregation : Nat)
    (datagram : Datagram) (state : State) : Checked (State × List Message) := do
  let outcome ← calcAggrPayload overshift aggrFunc config degreeOfAggregation datagram state
  return (outcome.state, outcome.sent)

end TinyIpfix.DataAggr
