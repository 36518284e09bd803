import TinyIpfix.Proofs.DataAggrExtract
import TinyIpfix.Proofs.DataParse
import TinyIpfix.Proofs.MsgAggrTemplate

/-! A message as whoever collects the templates reads it: under the records of a template
that was received earlier, every field has a name, a width and a value. -/

namespace TinyIpfix
open CMem Endian Layout

structure Decoded where
  seqNum : Nat
  fields : List (ParsedRecord × Nat)
  deriving Repr, DecidableEq

/-- Both messages have the length they announce, and the records cut the payload exactly. -/
def readMessage (config : HeaderConfig) (template message : Message) : Option Decoded := do
  let parsed ← parseTemplate config template
  let header ← readHeader (message.take config.msgHeaderSize)
  guard (parsed.header.length = template.length ∧ header.length = message.length ∧
    parsed.fieldCount = parsed.records.length)
  let pieces ← cut (parsed.records.map ParsedRecord.fieldLen) (message.drop config.msgHeaderSize)
  return ⟨header.seqNum, parsed.records.zip (pieces.map decode)⟩

/-- What should be read of one wake-up of a collector. -/
def measured (sensor : List TemplateRec) (readings : Nat → UInt64) : List (ParsedRecord × Nat) :=
  sensor.zipIdx.map fun entry => (describe entry.1, DataAggr.reading entry.1 (readings entry.2))

/-- A data message of this payload under this number. -/
def framed (config : HeaderConfig) (seqNum : UInt16) (payload : List UInt8) : Message :=
  builtHeader config dataSetId (UInt16.ofNat (config.msgHeaderSize + payload.length)) seqNum ++ payload

section Read
variable {config : HeaderConfig} {sensor : List TemplateRec}

private theorem describe_zipIdx (sensor : List TemplateRec) (start : Nat) :
    (sensor.zipIdx start).map (fun entry => describe entry.1) = sensor.map describe := by
  induction sensor generalizing start with
  | nil => rfl
  | cons rec sensor ih => rw [List.zipIdx_cons, List.map_cons, List.map_cons, ih]

theorem zip_measured (supported : Supported sensor) (readings : Nat → UInt64) :
    (sensor.map describe).zip ((fields (MsgAggr.fieldLens sensor) (dataBytes sensor readings)).map decode) =
      measured sensor readings := by
  have pieces := cut_dataBytes supported readings
  rw [cut] at pieces
  split at pieces
  next covered =>
    rw [MsgAggr.fieldLens, Option.some.inj pieces, List.map_map, ← describe_zipIdx sensor 0, List.zip_map', measured]
    apply List.map_congr_left
    intro entry _
    rw [Function.comp_apply, decode_encode, DataAggr.reading]
  next short => cases pieces

private theorem zip_replicate (supported : Supported sensor) (calls : List (Nat → UInt64)) :
    ((List.replicate calls.length sensor).flatten.map describe).zip
        ((calls.flatMap fun readings => fields (MsgAggr.fieldLens sensor) (dataBytes sensor readings)).map decode) =
      calls.flatMap (measured sensor) := by
  induction calls with
  | nil => rfl
  | cons readings calls ih =>
    rw [List.length_cons, List.replicate_succ, List.flatten_cons, List.map_append, List.flatMap_cons, List.map_append,
      List.zip_append (by simp [MsgAggr.fieldLens]), ih, zip_measured supported, List.flatMap_cons]

theorem framed_length (config : HeaderConfig) (seqNum : UInt16) {payload : List UInt8}
    (fits : config.msgHeaderSize + payload.length ≤ maxMsgSize) :
    (framed config seqNum payload).length = config.msgHeaderSize + payload.length := by
  rw [framed, List.length_append, builtHeader_length config seqNum (dataHeader_accepted fits)]

private theorem framed_header (config : HeaderConfig) (seqNum : UInt16) {payload : List UInt8}
    (fits : config.msgHeaderSize + payload.length ≤ maxMsgSize) :
    ∃ header, readHeader ((framed config seqNum payload).take config.msgHeaderSize) = some header ∧
      header.length = (framed config seqNum payload).length ∧ header.seqNum = seqNum.toNat % seqModulus config := by
  have accepted := dataHeader_accepted fits
  have small : config.msgHeaderSize + payload.length < UInt16.size := by
    simp only [maxMsgSize] at fits
    simp only [UInt16.size]
    omega
  have read := readHeader_headerBytes config seqNum accepted
  rw [← builtHeader_eq config seqNum accepted, ← List.take_left' (builtHeader_length config seqNum accepted)] at read
  exact ⟨_, read, (UInt16.toNat_ofNat_of_lt' small).trans (framed_length config seqNum fits).symm, rfl⟩

/-- Under a template of as many copies of the table, a message with the data of as many
calls reads as the readings of these calls. -/
theorem readMessage_framed (supported : Supported sensor) (calls : List (Nat → UInt64))
    (templateFits : exactTemplateSize config sensor calls.length ≤ maxMsgSize)
    (dataFits : config.msgHeaderSize + calls.length * (MsgAggr.fieldLens sensor).sum ≤ maxMsgSize) (seqNum : UInt16) :
    readMessage config (templateMessage config sensor calls.length)
        (framed config seqNum (calls.flatMap (dataBytes sensor))) =
      some ⟨seqNum.toNat % seqModulus config, calls.flatMap (measured sensor)⟩ := by
  have lengths : ∀ chunk ∈ calls.map (dataBytes sensor), chunk.length = (MsgAggr.fieldLens sensor).sum := by
    intro chunk member
    obtain ⟨readings, -, rfl⟩ := List.mem_map.mp member
    exact dataBytes_length supported readings
  have total : (calls.flatMap (dataBytes sensor)).length = calls.length * (MsgAggr.fieldLens sensor).sum := by
    have same := List.map_eq_replicate_iff.mpr lengths
    rw [List.flatMap_def, List.length_flatten, same, List.sum_replicate_nat, List.length_map]
  have pieces := cut_replicate (MsgAggr.fieldLens sensor) lengths
  rw [List.length_map, List.flatMap_map, ← List.flatMap_def] at pieces
  obtain ⟨parsedHeader, -, parsedLength, parsed⟩ := parseTemplate_templateMessage config sensor templateFits
  obtain ⟨header, read, length, seq⟩ := framed_header config seqNum (by rw [total]; exact dataFits)
  have payload : (framed config seqNum (calls.flatMap (dataBytes sensor))).drop config.msgHeaderSize =
      calls.flatMap (dataBytes sensor) :=
    List.drop_left' (builtHeader_length config seqNum (dataHeader_accepted (by rw [total]; exact dataFits)))
  have announced : parsedHeader.length = (templateMessage config sensor calls.length).length := by
    rw [templateMessage_length config templateFits]
    exact parsedLength
  have counted : sensor.length * calls.length = ((List.replicate calls.length sensor).flatten.map describe).length := by
    simp [Nat.mul_comm]
  simp only [readMessage, parsed, read, length, announced, counted, payload, MsgAggr.described_fieldLens, pieces,
    zip_replicate supported, seq, guard, and_self, ↓reduceIte, Option.bind_eq_bind, Option.bind_some, Option.pure_def]

end Read

end TinyIpfix
