import TinyIpfix.Lib.Memory

/-! The message header of tinyipfix.c in its four configurations, the function that
reads the length back from it, and the split of a received message. -/

namespace TinyIpfix
open CMem

/-- The header options of `[platform].h`. -/
structure HeaderConfig where
  extendedHeaderSeq : Bool
  extendedHeaderSetId : Bool
  deriving Repr, DecidableEq

/-- The configuration of sky.h. -/
def HeaderConfig.sky : HeaderConfig := ⟨false, false⟩

def HeaderConfig.msgHeaderSize (config : HeaderConfig) : Nat :=
  if config.extendedHeaderSetId then
    if config.extendedHeaderSeq then 5 else 4
  else
    if config.extendedHeaderSeq then 4 else 3

def maxMsgSize : Nat := 512

def maxSetId : Nat := 4095

def maxSeqNum : Nat := 65535

def maxSeqSmall : Nat := 255

def maxSeqLarge : Nat := 65535

def templateSetId : UInt16 := 2

def dataSetId : UInt16 := 256

def setHeaderSize : Nat := 4

/-- `-1` returned as a `uint8_t`. -/
def errorCode : UInt8 := 255

/-- `code == -1` for a `uint8_t` code: both sides are compared as `int`. -/
def isMinusOne (code : UInt8) : Bool := (code.toNat : Int) == -1

/-- The short forms the draft gives to the two set ids in use. -/
def shortcut (setId : UInt16) : UInt16 :=
  if setId = templateSetId then 1 else if setId = dataSetId then 2 else setId

def buildMsgHeader (config : HeaderConfig) (buf : Region) (setId length seqNum : UInt16) :
    Checked (UInt8 × Region) :=
  if setId.toNat > maxSetId ∨ seqNum.toNat > maxSeqNum ∨ length.toNat > maxMsgSize then
    .ok (errorCode, buf)
  else do
    let buf ← buf.store 0 0
    let setId := shortcut setId
    let buf ← if setId < 16 then buf.storeOr 0 (setId <<< 2).toUInt8 else pure buf
    let buf ← buf.storeOr 0 (length >>> 8).toUInt8
    let buf ← buf.store 1 length.toUInt8
    let buf ← buf.store 2 seqNum.toUInt8
    if config.msgHeaderSize = 3 then
      return (0, buf)
    else if config.extendedHeaderSetId = false ∧ config.extendedHeaderSeq = true then
      let buf ← buf.storeOr 0 0x40
      let buf ← buf.store 2 (seqNum >>> 8).toUInt8
      let buf ← buf.store 3 seqNum.toUInt8
      return (0, buf)
    else if config.extendedHeaderSetId = true ∧ config.extendedHeaderSeq = false then
      let buf ← buf.storeOr 0 0x80
      let buf ← buf.storeOr 0 ((setId >>> 8) <<< 2).toUInt8
      let buf ← buf.store 3 setId.toUInt8
      return (0, buf)
    else if config.msgHeaderSize = 5 then
      let buf ← buf.storeOr 0 0xc0
      let buf ← buf.storeOr 0 ((setId >>> 8) <<< 2).toUInt8
      let buf ← buf.store 4 setId.toUInt8
      let buf ← buf.store 2 (seqNum >>> 8).toUInt8
      let buf ← buf.store 3 seqNum.toUInt8
      return (0, buf)
    else
      return (0, buf)

/-- The length is assembled in sixteen bits and returned as a `uint8_t`. -/
def extrLenFromHeader (tinyipfixMsg : Region) : Checked UInt8 := do
  let first ← tinyipfixMsg.load 0
  let second ← tinyipfixMsg.load 1
  let templateSize : UInt16 := ((first &&& 0x3).toUInt16 <<< 8) ||| second.toUInt16
  return templateSize.toUInt8

structure TinyipfixPacket where
  header : List UInt8
  payload : Region

def splitPacket (config : HeaderConfig) (data : Region) : TinyipfixPacket where
  header := data.view config.msgHeaderSize
  payload := data.advance config.msgHeaderSize

/-- The bytes `buildMsgHeader` puts into a buffer of just the header's size. -/
def builtHeader (config : HeaderConfig) (setId length seqNum : UInt16) : List UInt8 :=
  match buildMsgHeader config ⟨List.replicate config.msgHeaderSize 0, fun _ => 0⟩ setId length seqNum with
  | .ok (_, buf) => buf.bytes
  | .error _ => []

theorem HeaderConfig.msgHeaderSize_bounds (config : HeaderConfig) :
    3 ≤ config.msgHeaderSize ∧ config.msgHeaderSize ≤ 5 := by
  unfold HeaderConfig.msgHeaderSize
  split <;> split <;> omega

theorem HeaderConfig.msgHeaderSize_toNat (config : HeaderConfig) :
    (UInt16.ofNat config.msgHeaderSize).toNat = config.msgHeaderSize := by
  have bounds := config.msgHeaderSize_bounds
  exact UInt16.toNat_ofNat_of_lt' (by simp only [UInt16.size]; omega)

/-- A `uint8_t` never equals `-1`, so no caller sees the failure of a header. -/
theorem isMinusOne_eq_false (code : UInt8) : isMinusOne code = false := by
  simp only [isMinusOne, beq_eq_false_iff_ne]
  omega

end TinyIpfix
