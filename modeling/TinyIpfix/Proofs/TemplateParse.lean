import TinyIpfix.Lib.Layout
import TinyIpfix.Proofs.TemplateCodec

/-! A template as a receiver of it reads it. The parser knows the format only; that it
gives the table back is what makes the template message correct. -/

namespace TinyIpfix
open CMem Endian Layout

/-- A record as the format describes it: the enterprise number is there exactly if the
top bit of the element id is set. -/
structure ParsedRecord where
  elementId : Nat
  fieldLen : Nat
  enterpriseNum : Option Nat
  deriving Repr, DecidableEq

structure ParsedTemplate where
  header : HeaderFields
  setId : Nat
  fieldCount : Nat
  records : List ParsedRecord
  deriving Repr, DecidableEq

def parseRecord : List UInt8 → Option (ParsedRecord × List UInt8)
  | idHigh :: idLow :: lenHigh :: lenLow :: rest =>
    let elementId := decode [idHigh, idLow]
    let fieldLen := decode [lenHigh, lenLow]
    if 32768 ≤ elementId then
      match rest with
      | first :: second :: third :: fourth :: rest =>
        some (⟨elementId, fieldLen, some (decode [first, second, third, fourth])⟩, rest)
      | _ => none
    else some (⟨elementId, fieldLen, none⟩, rest)
  | _ => none

def parseTemplate (config : HeaderConfig) (bytes : List UInt8) : Option ParsedTemplate := do
  let header ← readHeader (bytes.take config.msgHeaderSize)
  match bytes.drop config.msgHeaderSize with
  | setHigh :: setLow :: countHigh :: countLow :: rest =>
    let records ← decodeEach parseRecord rest.length rest
    return ⟨header, decode [setHigh, setLow], decode [countHigh, countLow], records⟩
  | _ => none

/-- What a record of the table should be read as. -/
def describe (rec : TemplateRec) : ParsedRecord where
  elementId := rec.elementId.toNat
  fieldLen := rec.fieldLen.toNat
  enterpriseNum := if hasEnterpriseBit rec.elementId then some rec.enterpriseNum.toNat else none

private theorem hasEnterpriseBit_iff (elementId : UInt16) : hasEnterpriseBit elementId = true ↔ 32768 ≤ elementId.toNat := by
  have small := elementId.toNat_lt
  have whole := Nat.div_add_mod elementId.toNat (2 ^ 15)
  have low := Nat.mod_lt elementId.toNat (show 2 ^ 15 > 0 by decide)
  rw [hasEnterpriseBit, beq_iff_eq, ← UInt16.toNat_inj, UInt16.toNat_or]
  constructor
  · intro same
    by_contra unset
    have joined := Nat.two_pow_add_eq_or_of_lt (i := 15) (b := elementId.toNat) (by omega) 1
    rw [Nat.or_comm, Nat.mul_one] at joined
    have value : elementId.toNat ||| (32768 : UInt16).toNat = elementId.toNat ||| 2 ^ 15 := rfl
    rw [value, ← joined] at same
    omega
  · intro set
    have one : elementId.toNat / 2 ^ 15 = 1 := by omega
    have joined := Nat.two_pow_add_eq_or_of_lt (i := 15) low 1
    rw [one] at whole
    have parts : elementId.toNat = 2 ^ 15 * 1 ||| elementId.toNat % 2 ^ 15 := by rw [← joined, whole]
    rw [parts, Nat.or_right_comm]
    rfl

private theorem encode_two (value : Nat) : encode 2 value = [UInt8.ofNat (value / 256), UInt8.ofNat value] := by
  simp [encode]

private theorem encode_four (value : Nat) : encode 4 value =
    [UInt8.ofNat (value / 16777216), UInt8.ofNat (value / 65536), UInt8.ofNat (value / 256), UInt8.ofNat value] := by
  simp [encode]

private theorem parseRecord_recordBytes (rec : TemplateRec) (rest : List UInt8) :
    parseRecord (recordBytes rec ++ rest) = some (describe rec, rest) := by
  have elementId := decode_encode_of_lt 2 rec.elementId.toNat_lt
  have fieldLen := decode_encode_of_lt 2 rec.fieldLen.toNat_lt
  have enterpriseNum := decode_encode_of_lt 4 rec.enterpriseNum.toNat_lt
  simp only [encode_two, encode_four] at elementId fieldLen enterpriseNum
  by_cases enterprise : hasEnterpriseBit rec.elementId = true
  · have set := (hasEnterpriseBit_iff _).mp enterprise
    simp only [recordBytes, describe, enterprise, ↓reduceIte, encode_two, encode_four, List.cons_append, List.nil_append,
      parseRecord, elementId, fieldLen, enterpriseNum, set]
  · have unset : ¬ 32768 ≤ rec.elementId.toNat := fun set => enterprise ((hasEnterpriseBit_iff _).mpr set)
    simp only [recordBytes, describe, enterprise, Bool.false_eq_true, ↓reduceIte, encode_two, List.cons_append,
      List.nil_append, parseRecord, elementId, fieldLen, unset]

private theorem recordBytes_ne_nil (rec : TemplateRec) : recordBytes rec ≠ [] := by
  simp [recordBytes, encode]

private theorem tableBytes_replicate (sensor : List TemplateRec) (degree : Nat) :
    (List.replicate degree (tableBytes sensor)).flatten = (List.replicate degree sensor).flatten.flatMap recordBytes := by
  induction degree with
  | zero => rfl
  | succ degree ih =>
    rw [List.replicate_succ, List.replicate_succ, List.flatten_cons, List.flatten_cons, List.flatMap_append, ih,
      tableBytes]

theorem parseTemplate_parts (config : HeaderConfig) {front : List UInt8} (length : front.length = config.msgHeaderSize)
    {header : HeaderFields} (read : readHeader front = some header) {setId count : Nat} (setIdSmall : setId < 256 ^ 2)
    (countSmall : count < 256 ^ 2) (records : List TemplateRec) :
    parseTemplate config (front ++ (encode 2 setId ++ encode 2 count ++ records.flatMap recordBytes)) =
      some ⟨header, setId, count, records.map describe⟩ := by
  have setIdRead := decode_encode_of_lt 2 setIdSmall
  have countRead := decode_encode_of_lt 2 countSmall
  have enough : records.length ≤ (records.flatMap recordBytes).length := by
    have total := length_le_tableSize records
    rw [← tableBytes, tableBytes_length]
    omega
  have decoded := decodeEach_flatMap parseRecord_recordBytes recordBytes_ne_nil records enough
  rw [parseTemplate, List.take_left' length, List.drop_left' length, read]
  rw [encode_two] at setIdRead countRead ⊢
  simp only [encode_two, List.cons_append, List.nil_append, decoded, setIdRead, countRead, Option.bind_eq_bind,
    Option.bind_some]
  rfl

theorem parseTemplate_templateMessage (config : HeaderConfig) (sensor : List TemplateRec) {degree : Nat}
    (fits : exactTemplateSize config sensor degree ≤ maxMsgSize) :
    ∃ header, readHeader (builtHeader config templateSetId (UInt16.ofNat (exactTemplateSize config sensor degree)) 0xFFFF) =
        some header ∧ header.length = exactTemplateSize config sensor degree ∧
      parseTemplate config (templateMessage config sensor degree) =
        some ⟨header, dataSetId.toNat, sensor.length * degree, (List.replicate degree sensor).flatten.map describe⟩ := by
  have accepted := templateHeader_accepted fits
  have headerLength := builtHeader_length config 0xFFFF accepted
  have read := readHeader_headerBytes config 0xFFFF accepted
  rw [← builtHeader_eq config 0xFFFF accepted] at read
  have small : exactTemplateSize config sensor degree < 65536 := by simp only [maxMsgSize] at fits; omega
  have records : sensor.length * degree ≤ degree * tableSize sensor := by
    rw [Nat.mul_comm]
    apply Nat.mul_le_mul_left
    have table := length_le_tableSize sensor
    omega
  have counted : sensor.length * degree < 256 ^ 2 := by
    rw [exactTemplateSize] at small
    omega
  refine ⟨_, read, UInt16.toNat_ofNat_of_lt' small, ?_⟩
  rw [templateMessage, templateBody, tableBytes_replicate]
  exact parseTemplate_parts config headerLength read dataSetId.toNat_lt counted _

/-- A template round-trips through its format. In every block of the computed size the
offset ends exactly at that size, and the message parses as `degAggr` copies of the table. -/
theorem template_reads_back (config : HeaderConfig) (sensor : List TemplateRec) (degAggr : UInt8)
    (fits : exactTemplateSize config sensor degAggr.toNat ≤ maxMsgSize) :
    ∃ size, calcTemplateSize config sensor degAggr = .ok size ∧
      size.toNat = exactTemplateSize config sensor degAggr.toNat ∧
      ∀ templateBuf : Region, templateBuf.size = size.toNat → ∃ headed cursor parsed,
        buildMsgHeader config templateBuf templateSetId size 0xFFFF = .ok (0, headed) ∧
        fillTemplate config sensor headed degAggr = .ok cursor ∧ cursor.tmpLen = size ∧
        buildTemplate config sensor size templateBuf degAggr = .ok (0, cursor.buf) ∧
        cursor.buf.size = size.toNat ∧ parseTemplate config cursor.buf.bytes = some parsed ∧
        parsed.header.length = size.toNat ∧ parsed.setId = dataSetId.toNat ∧
        parsed.fieldCount = sensor.length * degAggr.toNat ∧
        parsed.records = (List.replicate degAggr.toNat sensor).flatten.map describe := by
  have small : exactTemplateSize config sensor degAggr.toNat < 65536 := by simp only [maxMsgSize] at fits; omega
  have value := UInt16.toNat_ofNat_of_lt' small
  refine ⟨_, calcTemplateSize_eq config degAggr (short_of_fits fits), value, ?_⟩
  intro templateBuf length
  rw [value] at length ⊢
  have accepted := templateHeader_accepted fits
  have room : config.msgHeaderSize ≤ templateBuf.size := by rw [length, exactTemplateSize]; omega
  have headed := buildMsgHeader_ok config templateBuf 0xFFFF accepted room
  have sized := headed_size config templateBuf 0xFFFF accepted room
  obtain ⟨cursor, filled, fills⟩ := fillTemplate_fills config (short_of_fits fits) (List.prefix_append _ _)
    (builtHeader_length config 0xFFFF accepted) (by rw [sized, length]; exact small) (by rw [sized, length])
  have total := templateMessage_length config fits
  have content : cursor.buf.bytes = templateMessage config sensor degAggr.toNat :=
    fills.exact (total.trans (sized.trans length).symm)
  obtain ⟨header, -, headerLength, parsed⟩ := parseTemplate_templateMessage config sensor fits
  refine ⟨_, cursor, _, headed, filled, ?_, ?_, fills.sized.trans (sized.trans length), by rw [content]; exact parsed,
    headerLength, rfl, rfl, rfl⟩
  · apply UInt16.toNat_inj.mp
    rw [fills.placed, value]
    exact total
  · simp only [buildTemplate, headed, ok_bind, isMinusOne_eq_false, Bool.false_eq_true, ↓reduceIte, filled, pure_ok]

theorem sample_template : ∃ size, calcTemplateSize ⟨true, true⟩ (setFields 0 0x0052 1 0 :: initTemplate) 3 = .ok size ∧
    size.toNat = 213 ∧ ∀ templateBuf : Region, templateBuf.size = size.toNat → ∃ headed cursor parsed,
      buildMsgHeader ⟨true, true⟩ templateBuf templateSetId size 0xFFFF = .ok (0, headed) ∧
      fillTemplate ⟨true, true⟩ (setFields 0 0x0052 1 0 :: initTemplate) headed 3 = .ok cursor ∧ cursor.tmpLen = size ∧
      buildTemplate ⟨true, true⟩ (setFields 0 0x0052 1 0 :: initTemplate) size templateBuf 3 = .ok (0, cursor.buf) ∧
      cursor.buf.size = size.toNat ∧ parseTemplate ⟨true, true⟩ cursor.buf.bytes = some parsed ∧
      parsed.header.length = size.toNat ∧ parsed.setId = 256 ∧ parsed.fieldCount = 27 ∧
      parsed.records = (List.replicate 3 (setFields 0 0x0052 1 0 :: initTemplate)).flatten.map describe :=
  template_reads_back ⟨true, true⟩ (setFields 0 0x0052 1 0 :: initTemplate) 3 (by decide)

end TinyIpfix
