import TinyIpfix.Data

/-! The module state of tinyipfix.c and the three functions an application calls. -/

namespace TinyIpfix
open CMem

structure Library where
  isInitialized : UInt8
  templateBuf : Option Region
  dataBuf : Option Region
  templateSize : UInt16
  dataSize : UInt16
  /-- The static of `build_data_payload`. -/
  dataSeqNum : UInt16

def Library.initial : Library := ⟨0, none, none, 0, 0, 0⟩

/-- What the memory handed out by the two calls of `malloc` holds. -/
structure Heap where
  template : Nat → UInt8
  data : Nat → UInt8

def initializeTinyipfix (config : HeaderConfig) (sensor : List TemplateRec) (heap : Heap) (degAggr : UInt8)
    (library : Library) : Checked (UInt8 × Library) := do
  let templateSize ← calcTemplateSize config sensor degAggr
  let (code, templateBuf) ←
    buildTemplate config sensor templateSize (malloc templateSize.toNat heap.template) degAggr
  let library := { library with templateSize, templateBuf := some templateBuf }
  if isMinusOne code then
    return (errorCode, library)
  else if degAggr = 1 then
    let dataSize ← calcDataSize config sensor
    let (code, dataBuf) ← buildDataHeader config (malloc dataSize.toNat heap.data) dataSize
    let library := { library with dataSize, dataBuf := some dataBuf }
    if isMinusOne code then
      return (errorCode, library)
    else
      return (0, { library with isInitialized := 1 })
  else
    return (0, { library with isInitialized := 1 })

def getTemplate (library : Library) : Option Region :=
  if library.isInitialized = 0 then none else library.templateBuf

def getData (config : HeaderConfig) (sensor : List TemplateRec) (readings : Nat → UInt64) (library : Library) :
    Checked (Option Region × Library) :=
  if library.isInitialized = 0 then
    .ok (none, library)
  else do
    let dataBuf ← deref library.dataBuf
    let (code, dataBuf, dataSeqNum) ← buildDataPayload config sensor readings dataBuf library.dataSeqNum
    let library := { library with dataBuf := some dataBuf, dataSeqNum }
    if isMinusOne code then
      return (none, library)
    else
      return (some dataBuf, library)

/-- A call an application makes. -/
inductive Call
  | initializeTinyipfix (heap : Heap) (degAggr : UInt8)
  | getTemplate
  | getData (readings : Nat → UInt64)

inductive Reply
  | code (code : UInt8)
  | template (buffer : Option Region)
  | data (buffer : Option Region)

def call (config : HeaderConfig) (sensor : List TemplateRec) (request : Call) (library : Library) :
    Checked (Library × List Reply) :=
  match request with
  | .initializeTinyipfix heap degAggr => do
    let (code, library) ← initializeTinyipfix config sensor heap degAggr library
    return (library, [.code code])
  | .getTemplate => .ok (library, [.template (getTemplate library)])
  | .getData readings => do
    let (buffer, library) ← getData config sensor readings library
    return (library, [.data buffer])

end TinyIpfix
