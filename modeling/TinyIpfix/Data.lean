import TinyIpfix.Template

/-! The data message of tinyipfix.c. Its header is built once; each message updates the
sequence number in place and writes the values behind it. -/

namespace TinyIpfix
open CMem CLoop

def calcDataSize (config : HeaderConfig) (sensor : List TemplateRec) : Checked UInt16 :=
  forEach sensor (fun rec dataSize => .ok (dataSize + rec.fieldLen)) (UInt16.ofNat config.msgHeaderSize)

def buildDataHeader (config : HeaderConfig) (dataBuf : Region) (dataSize : UInt16) : Checked (UInt8 × Region) := do
  let (code, dataBuf) ← buildMsgHeader config dataBuf dataSetId dataSize 0
  if isMinusOne code then
    return (errorCode, dataBuf)
  else
    return (0, dataBuf)

/-- One case of the switch over the field length; a length without a case writes nothing. -/
def buildDataField (fieldLen : UInt16) (reading : UInt64) (cursor : Cursor) : Checked Cursor :=
  if fieldLen = 1 then cursor.append [reading.toUInt8]
  else if fieldLen = 2 then cursor.append (Endian.stored16 (switchEndian16 reading.toUInt16))
  else if fieldLen = 4 then cursor.append (Endian.stored32 (switchEndian32 reading.toUInt32))
  else if fieldLen = 8 then cursor.append (Endian.stored64 (switchEndian64 reading))
  else .ok cursor

/-- The next value of the static `data_seq_num`. -/
def nextSeqNum (config : HeaderConfig) (dataSeqNum : UInt16) : UInt16 :=
  let dataSeqNum := dataSeqNum + 1
  if config.extendedHeaderSeq then
    if dataSeqNum.toNat > maxSeqLarge then 0 else dataSeqNum
  else
    if dataSeqNum.toNat > maxSeqSmall then 0 else dataSeqNum

def updateSeqNum (config : HeaderConfig) (dataBuf : Region) (dataSeqNum : UInt16) : Checked Region :=
  if config.extendedHeaderSeq then do
    let dataBuf ← dataBuf.store 2 (dataSeqNum >>> 8).toUInt8
    dataBuf.store 3 dataSeqNum.toUInt8
  else
    dataBuf.store 2 dataSeqNum.toUInt8

/-- `readings i` is what `sensor[i].sens_val` delivers during this call; the variable it
is delivered into keeps the bytes of the field's width. -/
def buildDataPayload (config : HeaderConfig) (sensor : List TemplateRec) (readings : Nat → UInt64)
    (dataBuf : Region) (dataSeqNum : UInt16) : Checked (UInt8 × Region × UInt16) := do
  let dataSeqNum := nextSeqNum config dataSeqNum
  let dataBuf ← updateSeqNum config dataBuf dataSeqNum
  let cursor ← forEach sensor.zipIdx (fun (rec, i) cursor => buildDataField rec.fieldLen (readings i) cursor)
    ⟨dataBuf, UInt16.ofNat config.msgHeaderSize⟩
  return (0, cursor.buf, dataSeqNum)

end TinyIpfix
