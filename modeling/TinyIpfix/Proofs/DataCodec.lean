import TinyIpfix.Data
import TinyIpfix.Proofs.TemplateCodec

/-! What the data functions compute: the exact size of a data message, its header after
the update in place, and the values behind it. -/

namespace TinyIpfix
open CMem CLoop Endian

/-- The size of a data message computed without wrap. -/
def exactDataSize (config : HeaderConfig) (sensor : List TemplateRec) : Nat :=
  config.msgHeaderSize + (sensor.map fun rec => rec.fieldLen.toNat).sum

/-- The field lengths for which the switch has a case. -/
def widths : List UInt16 := [1, 2, 4, 8]

def Supported (sensor : List TemplateRec) : Prop :=
  ∀ rec ∈ sensor, rec.fieldLen ∈ widths

instance (sensor : List TemplateRec) : Decidable (Supported sensor) :=
  inferInstanceAs (Decidable (∀ rec ∈ sensor, rec.fieldLen ∈ widths))

def fieldBytes (fieldLen : UInt16) (reading : UInt64) : List UInt8 :=
  if fieldLen ∈ widths then encode fieldLen.toNat reading.toNat else []

def dataBytes (sensor : List TemplateRec) (readings : Nat → UInt64) : List UInt8 :=
  sensor.zipIdx.flatMap fun (rec, i) => fieldBytes rec.fieldLen (readings i)

def seqModulus (config : HeaderConfig) : Nat :=
  if config.extendedHeaderSeq then 65536 else 256

theorem calcDataSize_eq (config : HeaderConfig) {sensor : List TemplateRec} (short : sensor.length < 256) :
    calcDataSize config sensor = .ok (UInt16.ofNat (exactDataSize config sensor)) := by
  have total : ∀ start : UInt16, sensor.foldl (fun size rec => size + rec.fieldLen) start =
      start + UInt16.ofNat (sensor.map fun rec => rec.fieldLen.toNat).sum := by
    clear short
    induction sensor with
    | nil => simp
    | cons rec sensor ih =>
      intro start
      rw [List.foldl_cons, ih, List.map_cons, List.sum_cons, UInt16.ofNat_add, UInt16.ofNat_toNat, UInt16.add_assoc]
  rw [calcDataSize, forEach_total (fun size rec => size + rec.fieldLen) short (fun _ _ _ => rfl), total,
    ← UInt16.ofNat_add, exactDataSize]

theorem supported_width {rec : TemplateRec} (supported : rec.fieldLen ∈ widths) :
    1 ≤ rec.fieldLen.toNat ∧ rec.fieldLen.toNat ≤ 8 := by
  simp only [widths, List.mem_cons, List.not_mem_nil, or_false] at supported
  rcases supported with same | same | same | same <;> simp [same]

/-- The sizes of tables with these widths do not wrap. -/
theorem exactDataSize_lt (config : HeaderConfig) {sensor : List TemplateRec} (short : sensor.length < 256)
    (supported : Supported sensor) : exactDataSize config sensor < 65536 := by
  have bounds := config.msgHeaderSize_bounds
  have total : (sensor.map fun rec => rec.fieldLen.toNat).sum ≤ (sensor.map fun rec => rec.fieldLen.toNat).length * 8 := by
    apply List.sum_le_card_nsmul
    intro width member
    obtain ⟨rec, included, rfl⟩ := List.mem_map.mp member
    exact (supported_width (supported rec included)).2
  rw [List.length_map] at total
  rw [exactDataSize]
  omega

private theorem fieldBytes_length_le (fieldLen : UInt16) (reading : UInt64) :
    (fieldBytes fieldLen reading).length ≤ fieldLen.toNat := by
  unfold fieldBytes
  split <;> simp

theorem fieldLens_zipIdx (sensor : List TemplateRec) (start : Nat) :
    (sensor.zipIdx start).map (fun (entry : TemplateRec × Nat) => entry.1.fieldLen.toNat) =
      sensor.map fun rec => rec.fieldLen.toNat := by
  induction sensor generalizing start with
  | nil => rfl
  | cons rec sensor ih => rw [List.zipIdx_cons, List.map_cons, List.map_cons, ih]

theorem dataBytes_length {sensor : List TemplateRec} (supported : Supported sensor) (readings : Nat → UInt64) :
    (dataBytes sensor readings).length = (sensor.map fun rec => rec.fieldLen.toNat).sum := by
  rw [dataBytes, List.length_flatMap, ← fieldLens_zipIdx sensor 0]
  congr 1
  apply List.map_congr_left
  intro entry member
  show (fieldBytes entry.1.fieldLen (readings entry.2)).length = _
  rw [fieldBytes, if_pos (supported _ (List.fst_mem_of_mem_zipIdx member)), encode_length]

section Fill
variable {size : Nat} {front : List UInt8} {cursor : Cursor}

private theorem buildDataField_fills (filled : Filled size front cursor) (small : size < 65536) (fieldLen : UInt16)
    (reading : UInt64) (room : front.length + fieldLen.toNat ≤ size) :
    ∃ next, buildDataField fieldLen reading cursor = .ok next ∧
      Filled size (front ++ fieldBytes fieldLen reading) next := by
  have fillsWith : ∀ source : List UInt8, source.length = fieldLen.toNat → ∃ next, cursor.append source = .ok next ∧
      Filled size (front ++ source) next := fun source length => filled.append small source (by omega)
  by_cases supported : fieldLen ∈ widths
  · have cases := supported
    simp only [widths, List.mem_cons, List.not_mem_nil, or_false] at cases
    rw [fieldBytes, if_pos supported]
    rcases cases with rfl | rfl | rfl | rfl
    · have value : encode (1 : UInt16).toNat reading.toNat = [reading.toUInt8] := by simp [encode]
      rw [value]
      exact fillsWith _ rfl
    · have value : encode (2 : UInt16).toNat reading.toNat = stored16 (switchEndian16 reading.toUInt16) := by
        rw [stored16_switchEndian16]
        exact (encode_mod 2 reading.toNat).symm
      rw [value]
      exact fillsWith _ rfl
    · have value : encode (4 : UInt16).toNat reading.toNat = stored32 (switchEndian32 reading.toUInt32) := by
        rw [stored32_switchEndian32]
        exact (encode_mod 4 reading.toNat).symm
      rw [value]
      exact fillsWith _ rfl
    · have value : encode (8 : UInt16).toNat reading.toNat = stored64 (switchEndian64 reading) := by
        rw [stored64_switchEndian64]
        rfl
      rw [value]
      exact fillsWith _ rfl
  · rw [fieldBytes, if_neg supported, List.append_nil]
    simp only [widths, List.mem_cons, List.not_mem_nil, or_false, not_or] at supported
    obtain ⟨notOne, notTwo, notFour, notEight⟩ := supported
    exact ⟨cursor, by simp [buildDataField, notOne, notTwo, notFour, notEight], filled⟩

private theorem buildDataFields_fill (filled : Filled size front cursor) (small : size < 65536) {sensor : List TemplateRec}
    (short : sensor.length < 256) (readings : Nat → UInt64)
    (room : front.length + (sensor.map fun rec => rec.fieldLen.toNat).sum ≤ size) :
    ∃ next, forEach sensor.zipIdx (fun (rec, i) cursor => buildDataField rec.fieldLen (readings i) cursor) cursor =
        .ok next ∧ Filled size (front ++ dataBytes sensor readings) next := by
  refine forEach_invariant (fun done current => Filled size (front ++ done.flatMap fun (entry : TemplateRec × Nat) =>
    fieldBytes entry.1.fieldLen (readings entry.2)) current) (by simpa using short) (by simpa using filled) ?_
  intro before entry after shape current held
  have written : (before.flatMap fun (entry : TemplateRec × Nat) =>
      fieldBytes entry.1.fieldLen (readings entry.2)).length ≤
      (before.map fun (entry : TemplateRec × Nat) => entry.1.fieldLen.toNat).sum := by
    rw [List.length_flatMap]
    exact List.sum_le_sum fun earlier _ => fieldBytes_length_le _ _
  rw [← fieldLens_zipIdx sensor 0, shape] at room
  simp only [List.map_append, List.map_cons, List.sum_append, List.sum_cons] at room
  obtain ⟨next, built, fills⟩ := buildDataField_fills held small entry.1.fieldLen (readings entry.2)
    (by rw [List.length_append]; omega)
  refine ⟨next, built, ?_⟩
  simpa using fills

end Fill

/-- A data header is built in any block with room for one; if it is rejected, the block
keeps its contents. -/
theorem buildDataHeader_ok (config : HeaderConfig) {buf : Region} (dataSize : UInt16)
    (room : config.msgHeaderSize ≤ buf.size) :
    ∃ after, buildDataHeader config buf dataSize = .ok (0, after) ∧ after.size = buf.size ∧
      (dataSize.toNat ≤ maxMsgSize → builtHeader config dataSetId dataSize 0 <+: after.bytes) := by
  by_cases fits : dataSize.toNat ≤ maxMsgSize
  · have accepted : Accepted dataSetId dataSize := ⟨by decide, fits⟩
    refine ⟨_, ?_, headed_size config buf 0 accepted room, fun _ => List.prefix_append _ _⟩
    simp only [buildDataHeader, buildMsgHeader_ok config buf 0 accepted room, ok_bind, isMinusOne_eq_false,
      Bool.false_eq_true, ↓reduceIte, pure_ok]
  · have rejected : ¬ Accepted dataSetId dataSize := fun accepted => fits accepted.2
    refine ⟨buf, ?_, rfl, fun accepted => absurd accepted fits⟩
    simp only [buildDataHeader, buildMsgHeader_rejects config buf 0 rejected, ok_bind, isMinusOne_eq_false,
      Bool.false_eq_true, ↓reduceIte, pure_ok]

private theorem nextSeqNum_eq (config : HeaderConfig) (n : Nat) :
    nextSeqNum config (UInt16.ofNat (n % seqModulus config)) = UInt16.ofNat ((n + 1) % seqModulus config) := by
  unfold nextSeqNum seqModulus
  cases config.extendedHeaderSeq with
  | true =>
    simp only [↓reduceIte, maxSeqLarge]
    rw [if_neg (by have small := (UInt16.ofNat (n % 65536) + 1).toNat_lt; omega)]
    apply UInt16.toNat_inj.mp
    simp
  | false =>
    simp only [Bool.false_eq_true, ↓reduceIte, maxSeqSmall]
    have moved : (UInt16.ofNat (n % 256) + 1).toNat = n % 256 + 1 := by
      rw [UInt16.toNat_add, UInt16.toNat_ofNat']
      simp
      omega
    split
    next wraps =>
      rw [moved] at wraps
      have zero : (n + 1) % 256 = 0 := by omega
      rw [zero]
      rfl
    next stays =>
      rw [moved] at stays
      have next : (n + 1) % 256 = n % 256 + 1 := by omega
      apply UInt16.toNat_inj.mp
      rw [moved, next, UInt16.toNat_ofNat_of_lt' (by simp only [UInt16.size]; omega)]

/-- The bytes patched in place are those of the sequence number, in every layout. -/
theorem updateSeqNum_header (config : HeaderConfig) {length : UInt16} (accepted : Accepted dataSetId length)
    {buf : Region} {old : UInt16} (new : UInt16) (starts : builtHeader config dataSetId length old <+: buf.bytes) :
    ∃ after, updateSeqNum config buf new = .ok after ∧ builtHeader config dataSetId length new <+: after.bytes ∧
      after.size = buf.size := by
  obtain ⟨bytes, beyond⟩ := buf
  obtain ⟨rest, rfl⟩ := starts
  rw [builtHeader_eq config old accepted, builtHeader_eq config new accepted]
  refine ⟨⟨headerBytes config dataSetId length new ++ rest, beyond⟩, ?_, List.prefix_append _ _, ?_⟩
  · obtain ⟨sequence, identifier⟩ := config
    cases sequence <;> cases identifier <;>
      simp [updateSeqNum, headerBytes, sequenceBytes, Region.store_eq, firstByte, flagBits]
  · simp only [Region.size, List.length_append, headerBytes_length]

theorem updateSeqNum_ok (config : HeaderConfig) {buf : Region} (room : config.msgHeaderSize ≤ buf.size)
    (dataSeqNum : UInt16) : ∃ after, updateSeqNum config buf dataSeqNum = .ok after ∧ after.size = buf.size := by
  have bounds := config.msgHeaderSize_bounds
  unfold updateSeqNum
  split
  next extended =>
    have wider : 4 ≤ config.msgHeaderSize := by
      unfold HeaderConfig.msgHeaderSize
      rw [extended]
      split <;> simp
    obtain ⟨high, storedHigh⟩ := (Region.write_ok_iff buf 2 [(dataSeqNum >>> 8).toUInt8]).mpr
      (by rw [List.length_singleton]; omega)
    have highSize := Region.write_size storedHigh
    obtain ⟨low, storedLow⟩ := (Region.write_ok_iff high 3 [dataSeqNum.toUInt8]).mpr
      (by rw [List.length_singleton]; omega)
    refine ⟨low, ?_, (Region.write_size storedLow).trans highSize⟩
    rw [Region.store, storedHigh]
    exact storedLow
  next =>
    obtain ⟨after, stored⟩ := (Region.write_ok_iff buf 2 [dataSeqNum.toUInt8]).mpr (by rw [List.length_singleton]; omega)
    exact ⟨after, stored, Region.write_size stored⟩

private theorem buildDataPayload_behind (config : HeaderConfig) {sensor : List TemplateRec} (short : sensor.length < 256)
    (small : exactDataSize config sensor < 65536) (readings : Nat → UInt64) {buf patched : Region} {dataSeqNum : UInt16}
    (updated : updateSeqNum config buf (nextSeqNum config dataSeqNum) = .ok patched)
    (size : patched.size = exactDataSize config sensor) {header : List UInt8} (starts : header <+: patched.bytes)
    (headerLength : header.length = config.msgHeaderSize) :
    ∃ after, buildDataPayload config sensor readings buf dataSeqNum = .ok (0, after, nextSeqNum config dataSeqNum) ∧
      after.size = exactDataSize config sensor ∧ header ++ dataBytes sensor readings <+: after.bytes := by
  obtain ⟨cursor, written, fills⟩ := buildDataFields_fill (Filled.behind_header starts headerLength)
    (by rw [size]; exact small) short readings (by rw [headerLength, size, exactDataSize])
  refine ⟨cursor.buf, ?_, fills.sized.trans size, fills.starts⟩
  simp only [buildDataPayload, updated, written, ok_bind, pure_ok]

/-- Behind the header a payload fills its buffer, whatever the buffer held before. -/
theorem buildDataPayload_fills (config : HeaderConfig) {sensor : List TemplateRec} (short : sensor.length < 256)
    (supported : Supported sensor) (readings : Nat → UInt64) {buf : Region}
    (size : buf.size = exactDataSize config sensor) (dataSeqNum : UInt16) :
    ∃ front after, buildDataPayload config sensor readings buf dataSeqNum =
        .ok (0, after, nextSeqNum config dataSeqNum) ∧
      front.length = config.msgHeaderSize ∧ after.bytes = front ++ dataBytes sensor readings := by
  have room : config.msgHeaderSize ≤ buf.size := by rw [size, exactDataSize]; omega
  obtain ⟨patched, updated, sized⟩ := updateSeqNum_ok config room (nextSeqNum config dataSeqNum)
  have headerLength : (patched.bytes.take config.msgHeaderSize).length = config.msgHeaderSize := by
    rw [List.length_take]
    exact Nat.min_eq_left (by rw [← sized] at room; exact room)
  obtain ⟨after, built, kept, starts⟩ := buildDataPayload_behind config short (exactDataSize_lt config short supported)
    readings updated (sized.trans size) (List.take_prefix _ _) headerLength
  refine ⟨_, after, built, headerLength, (starts.eq_of_length ?_).symm⟩
  rw [List.length_append, headerLength, dataBytes_length supported, ← exactDataSize]
  exact kept.symm

theorem buildDataPayload_headed (config : HeaderConfig) {sensor : List TemplateRec} (short : sensor.length < 256)
    (fits : exactDataSize config sensor ≤ maxMsgSize) (readings : Nat → UInt64) {buf : Region}
    (size : buf.size = exactDataSize config sensor) {old : UInt16}
    (starts : builtHeader config dataSetId (UInt16.ofNat (exactDataSize config sensor)) old <+: buf.bytes)
    (dataSeqNum : UInt16) :
    ∃ after, buildDataPayload config sensor readings buf dataSeqNum = .ok (0, after, nextSeqNum config dataSeqNum) ∧
      after.size = exactDataSize config sensor ∧
      builtHeader config dataSetId (UInt16.ofNat (exactDataSize config sensor)) (nextSeqNum config dataSeqNum) ++
        dataBytes sensor readings <+: after.bytes := by
  have accepted := dataHeader_accepted fits
  obtain ⟨patched, updated, holds, sized⟩ := updateSeqNum_header config accepted (nextSeqNum config dataSeqNum) starts
  exact buildDataPayload_behind config short (by simp only [maxMsgSize] at fits; omega) readings updated
    (sized.trans size) holds (builtHeader_length config _ accepted)

/-- The data message with sequence number `served`. -/
def dataMessage (config : HeaderConfig) (sensor : List TemplateRec) (served : Nat) (readings : Nat → UInt64) :
    List UInt8 :=
  builtHeader config dataSetId (UInt16.ofNat (exactDataSize config sensor)) (UInt16.ofNat (served % seqModulus config)) ++
    dataBytes sensor readings

theorem dataMessage_length (config : HeaderConfig) {sensor : List TemplateRec} (supported : Supported sensor)
    (fits : exactDataSize config sensor ≤ maxMsgSize) (served : Nat) (readings : Nat → UInt64) :
    (dataMessage config sensor served readings).length = exactDataSize config sensor := by
  rw [dataMessage, List.length_append, builtHeader_length config _ (dataHeader_accepted fits),
    dataBytes_length supported, exactDataSize]

theorem buildDataPayload_ok (config : HeaderConfig) {sensor : List TemplateRec} (short : sensor.length < 256)
    (fits : exactDataSize config sensor ≤ maxMsgSize) (readings : Nat → UInt64)
    {buf : Region} (size : buf.size = exactDataSize config sensor) (served : Nat)
    (starts : builtHeader config dataSetId (UInt16.ofNat (exactDataSize config sensor))
      (UInt16.ofNat (served % seqModulus config)) <+: buf.bytes) :
    ∃ after, buildDataPayload config sensor readings buf (UInt16.ofNat (served % seqModulus config)) =
        .ok (0, after, UInt16.ofNat ((served + 1) % seqModulus config)) ∧
      after.size = exactDataSize config sensor ∧ dataMessage config sensor (served + 1) readings <+: after.bytes := by
  rw [dataMessage, ← nextSeqNum_eq]
  exact buildDataPayload_headed config short fits readings size starts _

end TinyIpfix
