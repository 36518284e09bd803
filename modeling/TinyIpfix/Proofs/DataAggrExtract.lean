import TinyIpfix.Lib.Layout
import TinyIpfix.Proofs.DataAggrTotal
import TinyIpfix.Proofs.LibraryRun

/-! The layout the data aggregator derives from a template is the layout of the
collector's data messages: the walk over the records adds up the lengths of the fields in
front of the one asked for. -/

namespace TinyIpfix.DataAggr
open CMem CLoop Transducer Endian Layout

/-- Where the records start in a template. -/
def recordsStart (config : HeaderConfig) : Nat := config.msgHeaderSize + setHeaderSize

/-- The offset of a record behind the set header of a template. -/
def recordOffset (sensor : List TemplateRec) (index : Nat) : Nat := offset (sensor.map recordSize) index

/-- The offset of the field of a record in the payload of a data message. -/
def fieldOffset (sensor : List TemplateRec) (index : Nat) : Nat :=
  offset (sensor.map fun rec => rec.fieldLen.toNat) index

/-- What the sensor delivers, as the unsigned number the field has room for. -/
def reading (rec : TemplateRec) (value : UInt64) : Nat := value.toNat % 256 ^ rec.fieldLen.toNat

section Walk
variable {config : HeaderConfig} {sensor : List TemplateRec} {block : Region}

private theorem recordOffset_succ {index : Nat} (inside : index < sensor.length) :
    recordOffset sensor (index + 1) = recordOffset sensor index + recordSize sensor[index] := by
  rw [recordOffset, offset_succ _ (by simpa using inside), List.getElem_map, recordOffset]

theorem fieldOffset_succ {index : Nat} (inside : index < sensor.length) :
    fieldOffset sensor (index + 1) = fieldOffset sensor index + sensor[index].fieldLen.toNat := by
  rw [fieldOffset, offset_succ _ (by simpa using inside), List.getElem_map, fieldOffset]

private theorem tableBytes_split {index : Nat} (inside : index < sensor.length) :
    ∃ before after, tableBytes sensor = before ++ recordBytes sensor[index] ++ after ∧
      before.length = recordOffset sensor index := by
  have parts : sensor = sensor.take index ++ sensor[index] :: sensor.drop (index + 1) := by simp
  refine ⟨tableBytes (sensor.take index), tableBytes (sensor.drop (index + 1)), ?_, ?_⟩
  · conv => lhs; rw [parts]
    simp only [tableBytes, List.flatMap_append, List.flatMap_cons, List.append_assoc]
  · rw [tableBytes_length, tableSize, List.map_take]
    rfl

private theorem walkRecord_ok {front rest : List UInt8} (rec : TemplateRec)
    (shape : block.bytes = front ++ recordBytes rec ++ rest) {walk : Walk}
    (standing : walk.endOfBlock.toNat = front.length) :
    walkRecord block walk = .ok ⟨walk.endOfBlock,
      if hasEnterpriseBit rec.elementId then walk.endOfBlock + 8 else walk.endOfBlock + 4,
      rec.fieldLen, walk.payloadExtrPos + walk.fieldLen⟩ := by
  have fixed : block.bytes = front ++ [UInt8.ofNat (rec.elementId.toNat / 256), UInt8.ofNat rec.elementId.toNat,
      UInt8.ofNat (rec.fieldLen.toNat / 256), UInt8.ofNat rec.fieldLen.toNat] ++
      ((if hasEnterpriseBit rec.elementId then encode 4 rec.enterpriseNum.toNat else []) ++ rest) := by
    rw [shape]
    simp [recordBytes, encode]
  have idHigh := Region.load_within fixed (show 0 < _ by simp)
  have idLow := Region.load_within fixed (show 1 < _ by simp)
  have lenHigh := Region.load_within fixed (show 2 < _ by simp)
  have lenLow := Region.load_within fixed (show 3 < _ by simp)
  simp only [Nat.add_zero, List.getElem_cons_zero, List.getElem_cons_succ] at idHigh idLow lenHigh lenLow
  simp only [walkRecord, standing, idHigh, idLow, lenHigh, lenLow, ok_bind, join16_split, pure_ok]

private theorem endOfBlock_toNat (rec : TemplateRec) {endOfBlock : UInt16}
    (fits : endOfBlock.toNat + recordSize rec < 65536) :
    (if hasEnterpriseBit rec.elementId then endOfBlock + 8 else endOfBlock + 4).toNat =
      endOfBlock.toNat + recordSize rec := by
  unfold recordSize at fits ⊢
  split
  next enterprise =>
    rw [if_pos enterprise] at fits
    rw [UInt16.toNat_add]
    exact Nat.mod_eq_of_lt fits
  next plain =>
    rw [if_neg plain] at fits
    rw [UInt16.toNat_add]
    exact Nat.mod_eq_of_lt fits

/-- The walk after `count` records. The length of the last one is not yet added. -/
structure Walked (config : HeaderConfig) (sensor : List TemplateRec) (count : Nat) (walk : Walk) : Prop where
  ended : walk.endOfBlock.toNat = recordsStart config + recordOffset sensor count
  added : walk.payloadExtrPos.toNat + walk.fieldLen.toNat = fieldOffset sensor count
  last : ∀ index, count = index + 1 → ∀ inside : index < sensor.length, walk.fieldLen = sensor[index].fieldLen ∧
    walk.position.toNat = recordsStart config + recordOffset sensor index

/-- Where the walk stands after `count` records, whatever the lengths of their fields. -/
structure Placed (config : HeaderConfig) (sensor : List TemplateRec) (count : Nat) (walk : Walk) : Prop where
  ended : walk.endOfBlock.toNat = recordsStart config + recordOffset sensor count
  last : ∀ index, count = index + 1 → ∀ inside : index < sensor.length, walk.fieldLen = sensor[index].fieldLen ∧
    walk.position.toNat = recordsStart config + recordOffset sensor index

theorem Walked.placed {count : Nat} {walk : Walk} (walked : Walked config sensor count walk) :
    Placed config sensor count walk :=
  ⟨walked.ended, walked.last⟩

private theorem walkRecord_places {front : List UInt8} (shape : block.bytes = front ++ tableBytes sensor)
    (start : front.length = recordsStart config) (small : block.size < 65536)
    {count : Nat} (inside : count < sensor.length) {walk : Walk} (placed : Placed config sensor count walk) :
    ∃ next, walkRecord block walk = .ok next ∧ Placed config sensor (count + 1) next ∧
      next.payloadExtrPos = walk.payloadExtrPos + walk.fieldLen ∧ next.fieldLen = sensor[count].fieldLen := by
  obtain ⟨before, after, table, length⟩ := tableBytes_split inside
  have split : block.bytes = (front ++ before) ++ recordBytes sensor[count] ++ after := by
    rw [shape, table]
    simp only [List.append_assoc]
  have standing : walk.endOfBlock.toNat = (front ++ before).length := by
    rw [List.length_append, start, length]
    exact placed.ended
  have room : walk.endOfBlock.toNat + recordSize sensor[count] < 65536 := by
    have covered := congrArg List.length split
    rw [List.length_append, List.length_append, recordBytes_length, ← standing] at covered
    simp only [Region.size] at small
    omega
  refine ⟨_, walkRecord_ok sensor[count] split standing, ⟨?_, ?_⟩, rfl, rfl⟩
  · rw [recordOffset_succ inside, ← Nat.add_assoc, ← placed.ended]
    exact endOfBlock_toNat sensor[count] room
  · intro index same within
    obtain rfl : count = index := by omega
    exact ⟨rfl, placed.ended⟩

private theorem walkRecord_walks {front : List UInt8} (shape : block.bytes = front ++ tableBytes sensor)
    (start : front.length = recordsStart config) (small : block.size < 65536)
    (narrow : (sensor.map fun rec => rec.fieldLen.toNat).sum < 65536)
    {count : Nat} (inside : count < sensor.length) {walk : Walk} (walked : Walked config sensor count walk) :
    ∃ next, walkRecord block walk = .ok next ∧ Walked config sensor (count + 1) next := by
  obtain ⟨next, executed, placed, added, read⟩ :=
    walkRecord_places shape start small inside walked.placed
  have bound : fieldOffset sensor count < 65536 := Nat.lt_of_le_of_lt (offset_le_sum _ count) narrow
  refine ⟨next, executed, placed.ended, ?_, placed.last⟩
  rw [fieldOffset_succ inside, added, read, UInt16.toNat_add, walked.added, Nat.mod_eq_of_lt bound]

private theorem recordsStart_toNat (config : HeaderConfig) :
    (UInt16.ofNat (config.msgHeaderSize + setHeaderSize)).toNat = recordsStart config := by
  have bounds := config.msgHeaderSize_bounds
  exact UInt16.toNat_ofNat_of_lt' (by simp only [UInt16.size, setHeaderSize]; omega)

theorem walkTemplate_places {front : List UInt8} (shape : block.bytes = front ++ tableBytes sensor)
    (start : front.length = recordsStart config) (small : block.size < 65536) (short : sensor.length < 256)
    {sensorPos : Nat} (inside : sensorPos < sensor.length) :
    ∃ walk, walkTemplate config sensorPos block 0 = .ok walk ∧ Placed config sensor (sensorPos + 1) walk := by
  refine forEach_range (Placed config sensor) (by omega) ?_ ?_
  · exact ⟨recordsStart_toNat config, fun index none => absurd none (by omega)⟩
  · intro index earlier current placed
    obtain ⟨next, executed, moved, -⟩ := walkRecord_places shape start small (by omega) placed
    exact ⟨next, executed, moved⟩

private theorem walkTemplate_ok {front : List UInt8} (shape : block.bytes = front ++ tableBytes sensor)
    (start : front.length = recordsStart config) (small : block.size < 65536) (short : sensor.length < 256)
    (narrow : (sensor.map fun rec => rec.fieldLen.toNat).sum < 65536) {sensorPos : Nat}
    (inside : sensorPos < sensor.length) :
    ∃ walk, walkTemplate config sensorPos block 0 = .ok walk ∧ Walked config sensor (sensorPos + 1) walk := by
  refine forEach_range (Walked config sensor) (by omega) ?_ ?_
  · exact ⟨recordsStart_toNat config, rfl, fun index none => absurd none (by omega)⟩
  · intro index earlier current walked
    exact walkRecord_walks shape start small narrow (by omega) walked

private theorem templateBody_one (sensor : List TemplateRec) :
    templateBody sensor 1 = encode 2 dataSetId.toNat ++ encode 2 sensor.length ++ tableBytes sensor := by
  simp only [templateBody, List.replicate_one, List.flatten_cons, List.flatten_nil, List.append_nil, Nat.mul_one]

theorem templateMessage_records (config : HeaderConfig) (sensor : List TemplateRec) :
    templateMessage config sensor 1 =
      builtHeader config templateSetId (UInt16.ofNat (exactTemplateSize config sensor 1)) 0xFFFF ++
        (encode 2 dataSetId.toNat ++ encode 2 sensor.length) ++ tableBytes sensor := by
  rw [templateMessage, templateBody_one]
  simp only [List.append_assoc]

theorem recordsStart_eq {header : List UInt8} (headerLength : header.length = config.msgHeaderSize) (count : Nat) :
    (header ++ (encode 2 dataSetId.toNat ++ encode 2 count)).length = recordsStart config := by
  rw [List.length_append, headerLength, List.length_append, encode_length, encode_length, recordsStart, setHeaderSize]

private theorem builtTemplate_records (built : BuiltTemplate config sensor 1 block) :
    ∃ front : List UInt8, front.length = recordsStart config ∧ block.bytes = front ++ tableBytes sensor := by
  obtain ⟨header, length, bytes⟩ := built.filled
  refine ⟨_, recordsStart_eq length sensor.length, ?_⟩
  rw [bytes, templateBody_one]
  simp only [List.append_assoc]

theorem builtTemplate_lt (built : BuiltTemplate config sensor 1 block) (short : sensor.length < 256) :
    block.size < 65536 := by
  rw [built.size]
  exact exactTemplateSize_one_lt config short

private theorem ofInt_cast (value : Nat) : UInt8.ofInt (value : Int) = UInt8.ofNat value := by
  apply UInt8.toNat_inj.mp
  rw [UInt8.ofInt, UInt8.toNat_ofNat', UInt8.toNat_ofNat']
  omega

/-- A piece of a block is moved to the front of those before it; the second copy is one
of the block to itself. -/
private theorem relocate {front before piece after : List UInt8} (split : block.bytes = front ++ before ++ piece ++ after) :
    ∃ moved, memcpy block front.length block (front ++ before).length piece.length = .ok moved ∧
      memcpy moved 0 moved 0 front.length = .ok moved ∧ front ++ piece <+: moved.bytes := by
  obtain ⟨moved, copied, holds, -⟩ := memcpy_forward split
  refine ⟨moved, copied, memcpy_self ?_, holds⟩
  have covered := holds.length_le
  rw [List.length_append] at covered
  exact Nat.le_of_add_right_le covered

/-- The template is edited inside its block: the record asked for comes right behind the
set header, and one byte of the length and one of the field count are set. -/
theorem getAggrTemplate_edits {sensorPos : Nat} (heap : Heap) (memory : Nat → UInt8) (inside : sensorPos < sensor.length)
    {started : Library} {code : UInt8}
    (initialized : initializeTinyipfix config sensor heap templateReplica Library.initial = .ok (code, started))
    (handed : getTemplate started = some block) {front : List UInt8} (shape : block.bytes = front ++ tableBytes sensor)
    (start : front.length = recordsStart config) {walk : Walk}
    (walks : walkTemplate config sensorPos block 0 = .ok walk) (placed : Placed config sensor (sensorPos + 1) walk) :
    ∃ template library, getAggrTemplate config sensor heap memory sensorPos Library.initial initial =
        .ok (template, library, { initial with
          aggrFieldLen := walk.fieldLen, payloadExtrPos := walk.payloadExtrPos
          aggrDataBuf := some (malloc maxMsgSize memory) }) ∧
      (front.set 1 (UInt8.ofNat (recordsStart config + recordSize sensor[sensorPos]))).set (recordsStart config - 1)
        numberOfAggrFields ++ recordBytes sensor[sensorPos] <+: template.bytes := by
  obtain ⟨before, after, table, length⟩ := tableBytes_split inside
  have split : block.bytes = front ++ before ++ recordBytes sensor[sensorPos] ++ after := by
    rw [shape, table]
    simp only [List.append_assoc]
  obtain ⟨-, position⟩ := placed.last sensorPos rfl inside
  have ended := placed.ended
  rw [recordOffset_succ inside] at ended
  have source : walk.position.toNat = (front ++ before).length := by rw [position, List.length_append, start, length]
  have blockLen : (walk.endOfBlock.toNat : Int) - walk.position.toNat = ((recordBytes sensor[sensorPos]).length : Nat) := by
    rw [recordBytes_length]
    omega
  have target : config.msgHeaderSize + setHeaderSize = front.length := start.symm
  have number : UInt8.ofInt (((config.msgHeaderSize + setHeaderSize : Nat) : Int) +
      ((walk.endOfBlock.toNat : Int) - walk.position.toNat)) =
      UInt8.ofNat (recordsStart config + recordSize sensor[sensorPos]) := by
    rw [blockLen, recordBytes_length, ← Int.natCast_add, recordsStart]
    exact ofInt_cast _
  obtain ⟨moved, copied, same, holds⟩ := relocate split
  rw [← target, ← source, ← blockLen] at copied
  rw [← target] at same
  have first : 1 < front.length := by
    rw [start, recordsStart, setHeaderSize]
    omega
  obtain ⟨sized, storedLength, sizedHolds, -⟩ := Region.store_prefix holds first
    (UInt8.ofNat (recordsStart config + recordSize sensor[sensorPos]))
  obtain ⟨template, storedCount, templateHolds, -⟩ := Region.store_prefix sizedHolds
    (show recordsStart config - 1 < _ by rw [List.length_set, start]; omega) numberOfAggrFields
  refine ⟨template, { started with templateBuf := some template }, ?_, templateHolds⟩
  rw [recordsStart] at storedCount
  simp only [getAggrTemplate, initialized, handed, deref_some, ok_bind, initial, walks, copied, same, number, storedLength,
    storedCount, pure_ok]

/-- Start-up of the data aggregation selects the field of the record asked for, also when
the template is too long for its header. -/
theorem getAggrTemplate_selects (config : HeaderConfig) (supported : Supported sensor) (short : sensor.length < 256)
    {sensorPos : Nat} (inside : sensorPos < sensor.length) (heap : Heap) (memory : Nat → UInt8) :
    ∃ started block walk template library,
      initializeTinyipfix config sensor heap templateReplica Library.initial = .ok (0, started) ∧
      getTemplate started = some block ∧ BuiltTemplate config sensor 1 block ∧
      walkTemplate config sensorPos block 0 = .ok walk ∧
      getAggrTemplate config sensor heap memory sensorPos Library.initial initial =
        .ok (template, library, { initial with
          aggrFieldLen := walk.fieldLen, payloadExtrPos := walk.payloadExtrPos
          aggrDataBuf := some (malloc maxMsgSize memory) }) ∧
      walk.payloadExtrPos.toNat = fieldOffset sensor sensorPos ∧ walk.fieldLen = sensor[sensorPos].fieldLen := by
  have dataSmall := exactDataSize_lt config short supported
  obtain ⟨block, data, initialized, built, -⟩ := initializeTinyipfix_allocates config heap Library.initial short
    (by rw [Nat.mod_eq_of_lt dataSmall, exactDataSize]; omega)
  obtain ⟨front, start, shape⟩ := builtTemplate_records built
  have narrow : (sensor.map fun rec => rec.fieldLen.toNat).sum < 65536 := by
    rw [exactDataSize] at dataSmall
    omega
  obtain ⟨walk, walks, walked⟩ := walkTemplate_ok shape start (builtTemplate_lt built short) short narrow inside
  obtain ⟨template, library, edited, -⟩ := getAggrTemplate_edits heap memory inside initialized rfl shape start walks
    walked.placed
  obtain ⟨width, -⟩ := walked.last sensorPos rfl inside
  refine ⟨_, block, walk, template, library, initialized, rfl, built, walks, edited, ?_, width⟩
  have added := walked.added
  rw [fieldOffset_succ inside, width] at added
  omega

end Walk

section Extract
variable {config : HeaderConfig} {sensor : List TemplateRec}

private theorem dataBytes_split (supported : Supported sensor) (readings : Nat → UInt64) {index : Nat}
    (inside : index < sensor.length) :
    ∃ before after, dataBytes sensor readings =
        before ++ encode sensor[index].fieldLen.toNat (readings index).toNat ++ after ∧
      before.length = fieldOffset sensor index := by
  have parts : sensor = sensor.take index ++ sensor[index] :: sensor.drop (index + 1) := by simp
  have earlier : Supported (sensor.take index) := fun rec member => supported rec (List.mem_of_mem_take member)
  have field : fieldBytes sensor[index].fieldLen (readings index) =
      encode sensor[index].fieldLen.toNat (readings index).toNat := by
    rw [fieldBytes, if_pos (supported _ (List.getElem_mem inside))]
  have position : 0 + (sensor.take index).length = index := by
    rw [Nat.zero_add, List.length_take]
    omega
  refine ⟨dataBytes (sensor.take index) readings, ((sensor.drop (index + 1)).zipIdx (index + 1)).flatMap
    fun entry => fieldBytes entry.1.fieldLen (readings entry.2), ?_, ?_⟩
  · conv => lhs; rw [parts]
    rw [dataBytes, List.zipIdx_append, List.flatMap_append, List.zipIdx_cons, List.flatMap_cons, position, ← field,
      List.append_assoc]
    rfl
  · rw [dataBytes_length earlier, List.map_take]
    rfl

/-- The selected field of a data message is the reading of the selected record. -/
theorem contains_reading (supported : Supported sensor)
    (fits : exactDataSize config sensor ≤ maxMsgSize) {sensorPos : Nat} (inside : sensorPos < sensor.length)
    {position : UInt16} (placed : position.toNat = fieldOffset sensor sensorPos) (served : Nat) (readings : Nat → UInt64)
    {datagram : Datagram} (received : datagram.data.bytes = dataMessage config sensor served readings) :
    Contains config position sensor[sensorPos].fieldLen datagram ∧
      fieldValue config position sensor[sensorPos].fieldLen datagram = reading sensor[sensorPos] (readings sensorPos) := by
  obtain ⟨before, after, split, length⟩ := dataBytes_split supported readings inside
  have headerLength := builtHeader_length config (UInt16.ofNat (served % seqModulus config)) (dataHeader_accepted fits)
  constructor
  · have part : fieldOffset sensor (sensorPos + 1) ≤ _ := offset_le_sum _ _
    rw [fieldOffset_succ inside] at part
    rw [Contains, placed, Region.size, received, dataMessage_length config supported fits, exactDataSize]
    omega
  · have field : selected config position sensor[sensorPos].fieldLen datagram =
        encode sensor[sensorPos].fieldLen.toNat (readings sensorPos).toNat := by
      rw [selected, received, dataMessage, split, placed, ← length, ← headerLength, List.append_assoc before,
        ← List.append_assoc, ← List.length_append, List.drop_left, List.take_left' (encode_length _ _)]
    rw [fieldValue, field, decode_encode, reading]

end Extract

/-- The aggregator extracts what the collector measured: the walk stays inside the
template, ends at the field asked for, and the value decoded from any data message of a
collector with the same table is the reading delivered for it. It is this value that a
call folds, whatever arrived before. -/
theorem extracts_reading (overshift : Overshift) (config : HeaderConfig) (sensor : List TemplateRec)
    (supported : Supported sensor) (templateFits : exactTemplateSize config sensor 1 ≤ maxMsgSize)
    (dataFits : exactDataSize config sensor ≤ maxMsgSize) (sensorPos : Nat) (inside : sensorPos < sensor.length)
    (narrow : sensor[sensorPos].fieldLen.toNat ≤ 4) (heap collectorHeap : Heap) (memory : Nat → UInt8) :
    ∃ started block walk template library state collector,
      initializeTinyipfix config sensor heap templateReplica Library.initial = .ok (0, started) ∧
      getTemplate started = some block ∧ block.size = exactTemplateSize config sensor 1 ∧
      walkTemplate config sensorPos block 0 = .ok walk ∧
      getAggrTemplate config sensor heap memory sensorPos Library.initial initial = .ok (template, library, state) ∧
      state.payloadExtrPos.toNat = ((sensor.take sensorPos).map fun rec => rec.fieldLen.toNat).sum ∧
      state.aggrFieldLen = sensor[sensorPos].fieldLen ∧
      initializeTinyipfix config sensor collectorHeap 1 Library.initial = .ok (0, collector) ∧
      ∀ calls, (∀ request ∈ calls, request.Getter) → ∃ current replies,
        run (call config sensor) calls collector = .ok (current, replies) ∧
        ∀ readings, ∃ message after, getData config sensor readings current = .ok (some message, after) ∧
          ∀ datagram : Datagram, datagram.data.bytes = message.bytes →
            ∃ decoding, convert overshift config datagram state = .ok decoding ∧
              decoding.converted.toNat = reading sensor[sensorPos] (readings sensorPos) ∧
              ∀ aggrFunc degree before, ∃ reached sent outcome,
                run (receiver (step overshift aggrFunc config degree)) before state = .ok (reached, sent) ∧
                calcAggrPayload overshift aggrFunc config degree datagram reached = .ok outcome ∧
                Takes aggrFunc config degree reached decoding.converted outcome := by
  have short := short_of_fits templateFits (by omega)
  obtain ⟨started, block, walk, template, library, initialized, handed, built, walks, edited, position, width⟩ :=
    getAggrTemplate_selects config supported short inside heap memory
  obtain ⟨collector, collecting, serving⟩ := serving_initially config short dataFits collectorHeap
  have summed : fieldOffset sensor sensorPos = ((sensor.take sensorPos).map fun rec => rec.fieldLen.toNat).sum := by
    rw [List.map_take]
    rfl
  refine ⟨started, block, walk, template, library, _, collector, initialized, handed, built.size, walks, edited,
    position.trans summed, width, collecting, ?_⟩
  intro calls getters
  obtain ⟨current, replies, executed, kept, -⟩ := run_serves config short dataFits supported serving calls getters
  refine ⟨current, replies, executed, ?_⟩
  intro readings
  obtain ⟨message, after, served, whole, -⟩ := getData_message config short dataFits supported readings kept
  refine ⟨message, after, served, ?_⟩
  intro datagram received
  obtain ⟨contains, value⟩ := contains_reading supported dataFits inside position _ readings (received.trans whole)
  rw [← width] at narrow contains value
  have short : walk.fieldLen.toNat < 256 := Nat.lt_of_le_of_lt narrow (by decide)
  obtain ⟨decoding, decoded, same⟩ :=
    convert_ok overshift (ready walk.payloadExtrPos walk.fieldLen memory) narrow contains
  refine ⟨decoding, decoded, same.trans value, ?_⟩
  intro aggrFunc degree before
  obtain ⟨reached, sent, executed, ⟨placed, wide⟩, buf, held, size⟩ :=
    run_defined overshift aggrFunc config degree walk.payloadExtrPos short memory before
  rw [← placed, ← wide] at contains
  obtain ⟨outcome, called, takes⟩ := calcAggrPayload_takes overshift aggrFunc config degree
    (by rw [wide]; exact narrow) held size contains
  refine ⟨reached, sent, outcome, executed, called, ?_⟩
  have folded : converted config walk.payloadExtrPos walk.fieldLen datagram = decoding.converted :=
    (congrArg UInt32.ofNat same.symm).trans UInt32.ofNat_toNat
  rw [placed, wide, folded] at takes
  exact takes

theorem sample_time : ∃ template library state collector,
    getAggrTemplate HeaderConfig.sky initTemplate ⟨fun _ => 3, fun _ => 4⟩ (fun _ => 5) timePos Library.initial initial =
      .ok (template, library, state) ∧
    state.payloadExtrPos.toNat = 10 ∧ state.aggrFieldLen = 4 ∧
    initializeTinyipfix HeaderConfig.sky initTemplate ⟨fun _ => 1, fun _ => 2⟩ 1 Library.initial = .ok (0, collector) ∧
    ∃ current replies, run (call HeaderConfig.sky initTemplate) [.getTemplate, .getData fun _ => 9] collector =
        .ok (current, replies) ∧
      ∃ message after, getData HeaderConfig.sky initTemplate (fun _ => 0x01020304) current = .ok (some message, after) ∧
        ∀ datagram : Datagram, datagram.data.bytes = message.bytes →
          ∃ decoding, convert ⟨fun _ _ => 0, fun _ _ => 0⟩ HeaderConfig.sky datagram state = .ok decoding ∧
            decoding.converted.toNat = 0x01020304 ∧ ∃ reached sent outcome,
              run (receiver (step ⟨fun _ _ => 0, fun _ _ => 0⟩ .max HeaderConfig.sky 2)) [datagram] state =
                .ok (reached, sent) ∧
              calcAggrPayload ⟨fun _ _ => 0, fun _ _ => 0⟩ .max HeaderConfig.sky 2 datagram reached = .ok outcome ∧
              Takes .max HeaderConfig.sky 2 reached decoding.converted outcome := by
  obtain ⟨started, block, walk, template, library, state, collector, -, -, -, -, edited, position, width, collecting,
    measured⟩ := extracts_reading ⟨fun _ _ => 0, fun _ _ => 0⟩ HeaderConfig.sky initTemplate (by decide) (by decide)
      (by decide) timePos (by decide) (by decide) ⟨fun _ => 3, fun _ => 4⟩ ⟨fun _ => 1, fun _ => 2⟩ fun _ => 5
  obtain ⟨current, replies, executed, answered⟩ := measured [.getTemplate, .getData fun _ => 9] (by simp [Call.Getter])
  obtain ⟨message, after, served, extracted⟩ := answered fun _ => 0x01020304
  refine ⟨template, library, state, collector, edited, position, width, collecting, current, replies, executed, message,
    after, served, fun datagram received => ?_⟩
  obtain ⟨decoding, decoded, value, taken⟩ := extracted datagram received
  exact ⟨decoding, decoded, value, taken .max 2 [datagram]⟩

end TinyIpfix.DataAggr
