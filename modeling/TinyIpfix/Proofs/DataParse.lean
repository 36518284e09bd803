import TinyIpfix.Lib.Layout
import TinyIpfix.Proofs.DataCodec

/-! A data message as a receiver of its template reads it: the field lengths of the
template cut the payload, and each piece is a big-endian number. -/

namespace TinyIpfix
open CMem CLoop Endian Layout

theorem cut_dataBytes {sensor : List TemplateRec} (supported : Supported sensor) (readings : Nat → UInt64) :
    cut (sensor.map fun rec => rec.fieldLen.toNat) (dataBytes sensor readings) =
      some (sensor.zipIdx.map fun entry => encode entry.1.fieldLen.toNat (readings entry.2).toNat) := by
  have written : ∀ entry ∈ sensor.zipIdx, fieldBytes entry.1.fieldLen (readings entry.2) =
      encode entry.1.fieldLen.toNat (readings entry.2).toNat := by
    intro entry member
    rw [fieldBytes, if_pos (supported _ (List.fst_mem_of_mem_zipIdx member))]
  have lengths : sensor.zipIdx.map (fun entry => (fieldBytes entry.1.fieldLen (readings entry.2)).length) =
      sensor.map fun rec => rec.fieldLen.toNat := by
    rw [← fieldLens_zipIdx sensor 0]
    apply List.map_congr_left
    intro entry member
    rw [written entry member, encode_length]
  have pieces := cut_flatMap (fun (entry : TemplateRec × Nat) => fieldBytes entry.1.fieldLen (readings entry.2))
    sensor.zipIdx
  rw [lengths, List.map_congr_left written] at pieces
  exact pieces

private theorem decode_pieces {sensor : List TemplateRec} {readings : Nat → UInt64}
    (narrow : ∀ index, ∀ inside : index < sensor.length, (readings index).toNat < 256 ^ sensor[index].fieldLen.toNat) :
    (sensor.zipIdx.map fun entry => encode entry.1.fieldLen.toNat (readings entry.2).toNat).map decode =
      (List.range sensor.length).map fun index => (readings index).toNat := by
  apply List.ext_getElem
  · simp
  · intro index first second
    have inside : index < sensor.length := by simpa using second
    simp only [List.getElem_map, List.getElem_zipIdx, List.getElem_range, Nat.zero_add]
    exact decode_encode_of_lt _ (narrow index inside)

private theorem buildDataPayload_endless (config : HeaderConfig) {sensor : List TemplateRec} (long : 256 ≤ sensor.length)
    (readings : Nat → UInt64) {dataBuf : Region} (room : config.msgHeaderSize ≤ dataBuf.size) (dataSeqNum : UInt16) :
    buildDataPayload config sensor readings dataBuf dataSeqNum = .error .endlessLoop := by
  obtain ⟨patched, updated, -⟩ := updateSeqNum_ok config room (nextSeqNum config dataSeqNum)
  rw [buildDataPayload, updated, ok_bind, forEach_long (by simpa using long)]
  rfl

/-- A data message reads back. The payload behind the header depends on the readings
alone, in every buffer of the size computed for it; the announced field lengths cut it
exactly, and the pieces read big-endian are the readings. Of a table with 256 records or
more neither a size nor a payload is computed. -/
theorem data_payload_reads_back (config : HeaderConfig) (sensor : List TemplateRec) (supported : Supported sensor)
    (readings : Nat → UInt64)
    (narrow : ∀ index, ∀ inside : index < sensor.length, (readings index).toNat < 256 ^ sensor[index].fieldLen.toNat) :
    (sensor.length < 256 → ∃ size payload pieces, calcDataSize config sensor = .ok size ∧
      size.toNat = exactDataSize config sensor ∧ config.msgHeaderSize + payload.length = size.toNat ∧
      cut (sensor.map fun rec => rec.fieldLen.toNat) payload = some pieces ∧
      pieces.map decode = (List.range sensor.length).map (fun index => (readings index).toNat) ∧
      ∀ (dataBuf : Region) (dataSeqNum : UInt16), dataBuf.size = size.toNat → ∃ after next,
        buildDataPayload config sensor readings dataBuf dataSeqNum = .ok (0, after, next) ∧
        after.size = size.toNat ∧ after.bytes.drop config.msgHeaderSize = payload) ∧
    (256 ≤ sensor.length → calcDataSize config sensor = .error .endlessLoop ∧
      ∀ (dataBuf : Region) (dataSeqNum : UInt16), config.msgHeaderSize ≤ dataBuf.size →
        buildDataPayload config sensor readings dataBuf dataSeqNum = .error .endlessLoop) := by
  constructor
  · intro short
    have exact : (UInt16.ofNat (exactDataSize config sensor)).toNat = exactDataSize config sensor :=
      UInt16.toNat_ofNat_of_lt' (exactDataSize_lt config short supported)
    refine ⟨_, dataBytes sensor readings, _, calcDataSize_eq config short, exact, ?_, cut_dataBytes supported readings,
      decode_pieces narrow, ?_⟩
    · rw [exact, dataBytes_length supported, exactDataSize]
    · intro dataBuf dataSeqNum length
      rw [exact] at length ⊢
      obtain ⟨front, after, built, headerLength, content⟩ :=
        buildDataPayload_fills config short supported readings length dataSeqNum
      refine ⟨after, _, built, ?_, ?_⟩
      · rw [Region.size, content, List.length_append, headerLength, dataBytes_length supported, exactDataSize]
      · rw [content]
        exact List.drop_left' headerLength
  · intro long
    exact ⟨forEach_long long _ _, fun dataBuf dataSeqNum room => buildDataPayload_endless config long readings room _⟩

theorem sample_payload : ∃ size payload pieces,
    calcDataSize ⟨true, false⟩ (initTemplate ++ [setFields 0 0x0099 8 0]) = .ok size ∧ size.toNat = 29 ∧
    4 + payload.length = size.toNat ∧ cut [2, 2, 2, 2, 2, 4, 2, 1, 8] payload = some pieces ∧
    pieces.map decode = [0, 1, 2, 3, 4, 5, 6, 7, 8] ∧
    ∀ (dataBuf : Region) (dataSeqNum : UInt16), dataBuf.size = size.toNat → ∃ after next,
      buildDataPayload ⟨true, false⟩ (initTemplate ++ [setFields 0 0x0099 8 0]) UInt64.ofNat dataBuf dataSeqNum =
        .ok (0, after, next) ∧ after.size = size.toNat ∧ after.bytes.drop 4 = payload :=
  (data_payload_reads_back ⟨true, false⟩ (initTemplate ++ [setFields 0 0x0099 8 0]) (by decide)
    UInt64.ofNat (by decide)).1 (by decide)

end TinyIpfix
