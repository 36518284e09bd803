import Mathlib.Data.List.Basic

/-! The record table of hw_module/sky.c. The function pointer of a record is left out:
what the sensors deliver is an input of `buildDataPayload`, by position in the table. -/

namespace TinyIpfix

structure TemplateRec where
  elementId : UInt16
  fieldLen : UInt16
  enterpriseNum : UInt32
  deriving Repr, DecidableEq

def setFields (eBit : UInt8) (elementId fieldLen : UInt16) (enterpriseId : UInt32) : TemplateRec where
  elementId := if eBit = 1 then elementId ||| 0x8000 else elementId
  fieldLen := fieldLen
  enterpriseNum := enterpriseId

def timePos : Nat := 5

def initTemplate : List TemplateRec :=
  [setFields 1 0x80A0 2 0xF0AA00AA,
   setFields 1 0x80A1 2 0xF0AA00AA,
   setFields 1 0x80A2 2 0xF0AA00AA,
   setFields 1 0x80A3 2 0xF0AA00AA,
   setFields 1 0x80A4 2 0xF0AA00AA,
   setFields 1 0x80A5 4 0xF0AA00AA,
   setFields 1 0x80A6 2 0xF0AA00AA,
   setFields 1 0x80A7 1 0xF0AA00AA]

/-- The test of the enterprise bit, as tinyipfix.c and data_aggr.c both make it. -/
def hasEnterpriseBit (elementId : UInt16) : Bool := (elementId ||| 0x8000) == elementId

end TinyIpfix
