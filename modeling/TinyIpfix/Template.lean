import TinyIpfix.Header
import TinyIpfix.HwModule
import TinyIpfix.Lib.Endian
import TinyIpfix.Lib.Loop

/-! The template message of tinyipfix.c: its size and its records. -/

namespace TinyIpfix
open CMem CLoop

def switchEndian16 (n : UInt16) : UInt16 := (n <<< 8) ||| (n >>> 8)

def switchEndian32 (n : UInt32) : UInt32 :=
  ((switchEndian16 n.toUInt16).toUInt32 <<< 16) ||| (switchEndian16 (n >>> 16).toUInt16).toUInt32

def switchEndian64 (n : UInt64) : UInt64 :=
  ((switchEndian32 n.toUInt32).toUInt64 <<< 32) ||| (switchEndian32 (n >>> 32).toUInt32).toUInt64

/-- A buffer and the `uint16_t` offset up to which it is filled. -/
structure Cursor where
  buf : Region
  tmpLen : UInt16

/-- `memcpy(&buf[tmp_len], &value, sizeof(value)); tmp_len += sizeof(value);` -/
def Cursor.append (cursor : Cursor) (source : List UInt8) : Checked Cursor := do
  let buf ← cursor.buf.write cursor.tmpLen.toNat source
  return ⟨buf, cursor.tmpLen + UInt16.ofNat source.length⟩

def calcTemplateSize (config : HeaderConfig) (sensor : List TemplateRec) (degAggr : UInt8) : Checked UInt16 := do
  let templateSize ← forEach (List.range degAggr.toNat) (fun _ templateSize =>
    forEach sensor (fun rec templateSize =>
      if hasEnterpriseBit rec.elementId then .ok (templateSize + 4) else .ok templateSize) templateSize)
    (UInt16.ofNat config.msgHeaderSize)
  let templateSize := templateSize + UInt16.ofNat (4 * sensor.length * degAggr.toNat)
  return templateSize + UInt16.ofNat setHeaderSize

def buildTemplateRecord (rec : TemplateRec) (cursor : Cursor) : Checked Cursor := do
  let cursor ← cursor.append (Endian.stored16 (switchEndian16 rec.elementId))
  let cursor ← cursor.append (Endian.stored16 (switchEndian16 rec.fieldLen))
  if hasEnterpriseBit rec.elementId then
    cursor.append (Endian.stored32 (switchEndian32 rec.enterpriseNum))
  else
    return cursor

/-- The set header and the records, behind the message header. -/
def fillTemplate (config : HeaderConfig) (sensor : List TemplateRec) (templateBuf : Region) (degAggr : UInt8) :
    Checked Cursor := do
  let refSetId := switchEndian16 dataSetId
  let fieldCount := switchEndian16 (UInt16.ofNat (sensor.length * degAggr.toNat))
  let cursor : Cursor := ⟨templateBuf, UInt16.ofNat config.msgHeaderSize⟩
  let cursor ← cursor.append (Endian.stored16 refSetId)
  let cursor ← cursor.append (Endian.stored16 fieldCount)
  forEach (List.range degAggr.toNat) (fun _ cursor => forEach sensor buildTemplateRecord cursor) cursor

def buildTemplate (config : HeaderConfig) (sensor : List TemplateRec) (templateSize : UInt16) (templateBuf : Region)
    (degAggr : UInt8) : Checked (UInt8 × Region) := do
  let (code, templateBuf) ← buildMsgHeader config templateBuf templateSetId templateSize 0xFFFF
  if isMinusOne code then
    return (errorCode, templateBuf)
  else
    let cursor ← fillTemplate config sensor templateBuf degAggr
    return (0, cursor.buf)

end TinyIpfix
