import TinyIpfix.DataAggr
import TinyIpfix.Proofs.HeaderCodec

/-! The two loops of data aggregation over the bytes of a field: reading the selected
field of a datagram, and writing the aggregate. Both are right up to four bytes. -/

namespace TinyIpfix.DataAggr
open CMem CLoop Endian

/-- The bytes of the selected field of a datagram. -/
def selected (config : HeaderConfig) (position width : UInt16) (datagram : Datagram) : List UInt8 :=
  (datagram.data.bytes.drop (config.msgHeaderSize + position.toNat)).take width.toNat

def fieldValue (config : HeaderConfig) (position width : UInt16) (datagram : Datagram) : Nat :=
  decode (selected config position width datagram)

/-- The datagram is long enough to contain the selected field. -/
def Contains (config : HeaderConfig) (position width : UInt16) (datagram : Datagram) : Prop :=
  config.msgHeaderSize + position.toNat + width.toNat ≤ datagram.data.size

instance (config : HeaderConfig) (position width : UInt16) (datagram : Datagram) :
    Decidable (Contains config position width datagram) :=
  inferInstanceAs (Decidable (_ ≤ _))

section Decode
variable {config : HeaderConfig} {position width : UInt16} {datagram : Datagram}

private theorem selected_length (contains : Contains config position width datagram) :
    (selected config position width datagram).length = width.toNat := by
  simp only [Contains, Region.size] at contains
  simp only [selected, List.length_take, List.length_drop]
  omega

theorem fieldValue_lt (contains : Contains config position width datagram) :
    fieldValue config position width datagram < 256 ^ width.toNat := by
  rw [fieldValue, ← selected_length contains]
  exact decode_lt _

theorem splitHeader_eq (config : HeaderConfig) (data : Region) (trace : Trace) :
    splitHeader config data trace = ((splitPacket config data).header,
      { trace with reads := trace.reads ++ List.range config.msgHeaderSize }) := by
  have loop : ∀ count, (List.range count).foldl (fun (current : List UInt8 × Trace) i =>
      (current.1 ++ [(readByte data 0 i current.2).1], (readByte data 0 i current.2).2)) ([], trace) =
      (data.view count, { trace with reads := trace.reads ++ List.range count }) := by
    intro count
    induction count with
    | zero => simp [Region.view]
    | succ count ih =>
      rw [List.range_succ, List.foldl_append, ih, List.foldl_cons, List.foldl_nil]
      simp [readByte, Region.view, List.range_succ]
  exact loop config.msgHeaderSize

private theorem payload_byteAt (contains : Contains config position width datagram) {index : Nat}
    (inside : index < (selected config position width datagram).length) :
    (splitPacket config datagram.data).payload.byteAt (position.toNat + index) =
      (selected config position width datagram)[index] := by
  have bound := inside
  rw [selected_length contains] at bound
  simp only [Contains] at contains
  rw [splitPacket, Region.byteAt_advance, Region.byteAt_inside _ (by omega)]
  simp only [selected, List.getElem_take, List.getElem_drop]
  congr 1
  omega

private theorem or_shifted (overshift : Overshift) {converted : UInt32} {high place : Nat} (byte : UInt8)
    (low : place < 4) (value : converted.toNat = high * 256 ^ (place + 1)) :
    (converted ||| overshift.shiftLeft byte.toUInt32 (8 * place)).toNat = (high * 256 + byte.toNat) * 256 ^ place := by
  have small := byte.toNat_lt
  have power : 2 ^ (8 * place) = 256 ^ place := by rw [Nat.pow_mul]
  have powers : 2 ^ (8 * (place + 1)) = 256 ^ (place + 1) := by rw [Nat.pow_mul]
  have below : byte.toNat * 256 ^ place < 2 ^ (8 * (place + 1)) := by
    rw [powers, pow_succ, Nat.mul_comm]
    exact Nat.mul_lt_mul_of_pos_left small (by positivity)
  have fits : 256 ^ (place + 1) ≤ 2 ^ 32 := by
    rw [← powers]
    exact Nat.pow_le_pow_right (by omega) (by omega)
  have shifted : (overshift.shiftLeft byte.toUInt32 (8 * place)).toNat = byte.toNat * 256 ^ place := by
    rw [Overshift.shiftLeft, if_pos (by omega), UInt32.toNat_shiftLeft, UInt8.toNat_toUInt32,
      UInt32.toNat_ofNat_of_lt' (by simp only [UInt32.size]; omega), Nat.mod_eq_of_lt (show 8 * place < 32 by omega),
      Nat.shiftLeft_eq, power, Nat.mod_eq_of_lt (by rw [powers] at below; omega)]
  have joined := Nat.two_pow_add_eq_or_of_lt below high
  rw [UInt32.toNat_or, value, shifted, ← powers, Nat.mul_comm high, ← joined, powers, pow_succ]
  ring

theorem convert_ok (overshift : Overshift) (state : State) (narrow : state.aggrFieldLen.toNat ≤ 4)
    (contains : Contains config state.payloadExtrPos state.aggrFieldLen datagram) :
    ∃ decoding, convert overshift config datagram state = .ok decoding ∧
      decoding.converted.toNat = fieldValue config state.payloadExtrPos state.aggrFieldLen datagram := by
  have length := selected_length contains
  have loop : ∃ decoding, convert overshift config datagram state = .ok decoding ∧ decoding.converted.toNat =
        decode ((selected config state.payloadExtrPos state.aggrFieldLen datagram).take state.aggrFieldLen.toNat) *
          256 ^ (state.aggrFieldLen.toNat - state.aggrFieldLen.toNat) := by
    refine forEach_range (fun done (decoding : Decoding) => decoding.converted.toNat =
      decode ((selected config state.payloadExtrPos state.aggrFieldLen datagram).take done) *
        256 ^ (state.aggrFieldLen.toNat - done)) (by omega) (by simp) ?_
    intro index inside decoding held
    refine ⟨_, rfl, ?_⟩
    have within : index < (selected config state.payloadExtrPos state.aggrFieldLen datagram).length := by omega
    have place : state.aggrFieldLen.toNat - index = state.aggrFieldLen.toNat - 1 - index + 1 := by omega
    rw [place] at held
    simp only [decodeByte, readByte, shiftLeft]
    rw [payload_byteAt contains within, or_shifted overshift _ (by omega) held, ← decode_append,
      List.take_append_getElem within]
    congr 2
    omega
  obtain ⟨decoding, executed, value⟩ := loop
  refine ⟨decoding, executed, ?_⟩
  rw [value, ← length, List.take_length, Nat.sub_self, pow_zero, Nat.mul_one, fieldValue]

end Decode

private theorem shiftRight_byte (overshift : Overshift) (value : UInt32) {place : Nat} (low : place < 4) :
    (overshift.shiftRight value (8 * place)).toUInt8 = UInt8.ofNat (value.toNat / 256 ^ place) := by
  rw [Overshift.shiftRight, if_pos (by omega)]
  apply UInt8.toNat_inj.mp
  rw [UInt32.toNat_toUInt8, UInt32.toNat_shiftRight, UInt32.toNat_ofNat_of_lt' (by simp only [UInt32.size]; omega),
    Nat.mod_eq_of_lt (show 8 * place < 32 by omega), Nat.shiftRight_eq_div_pow, Nat.pow_mul, UInt8.toNat_ofNat']

theorem encode_ok (overshift : Overshift) (config : HeaderConfig) {width : UInt16} (narrow : width.toNat ≤ 4)
    (value : UInt32) {buf : Region} {header : List UInt8} (headerLength : header.length = config.msgHeaderSize)
    (starts : header <+: buf.bytes) (room : config.msgHeaderSize + width.toNat ≤ buf.size) (before : Trace) :
    ∃ after trace, forEach (List.range width.toNat) (encodeByte overshift config width value) (buf, before) =
        .ok (after, trace) ∧
      header ++ encode width.toNat value.toNat <+: after.bytes ∧ after.size = buf.size := by
  have loop : ∃ after, forEach (List.range width.toNat) (encodeByte overshift config width value) (buf, before) =
        .ok after ∧
      header ++ (encode width.toNat value.toNat).take width.toNat <+: after.1.bytes ∧ after.1.size = buf.size := by
    refine forEach_range (fun done (current : Region × Trace) =>
      header ++ (encode width.toNat value.toNat).take done <+: current.1.bytes ∧ current.1.size = buf.size)
      (by omega) (by simpa using starts) ?_
    rintro index inside ⟨current, trace⟩ ⟨held, sized⟩
    have within : index < (encode width.toNat value.toNat).length := by rw [encode_length]; exact inside
    have placed : (header ++ (encode width.toNat value.toNat).take index).length = config.msgHeaderSize + index := by
      rw [List.length_append, headerLength, List.length_take, Nat.min_eq_left (by omega)]
    have byte : (overshift.shiftRight value (8 * (width.toNat - 1 - index))).toUInt8 =
        (encode width.toNat value.toNat)[index] := by
      rw [encode_getElem, shiftRight_byte overshift value (by omega)]
    have fits : (header ++ (encode width.toNat value.toNat).take index).length +
        [(encode width.toNat value.toNat)[index]].length ≤ current.size := by
      rw [placed, sized, List.length_singleton]
      omega
    obtain ⟨next, written, extended, kept, -⟩ := Region.write_extends current held fits
    rw [placed] at written
    refine ⟨(next, { trace with shifts := trace.shifts ++ [8 * (width.toNat - 1 - index)] }), ?_, ?_, kept.trans sized⟩
    · simp only [encodeByte, shiftRight, byte, Region.store, written, ok_bind, pure_ok]
    · rw [List.append_assoc, List.take_append_getElem within] at extended
      exact extended
  obtain ⟨⟨after, trace⟩, executed, holds, size⟩ := loop
  refine ⟨after, trace, executed, ?_, size⟩
  rw [List.take_of_length_le (by rw [encode_length])] at holds
  exact holds

end TinyIpfix.DataAggr
