import TinyIpfix.Proofs.DataAggrExtract
import TinyIpfix.Proofs.TemplateParse

/-! The template of data aggregation, edited in place to the one record that is left. Of
the two length bytes only the low one is set. -/

namespace TinyIpfix.DataAggr
open CMem Endian

/-- The message announces exactly this record, under the header a template of its length
would be built with. -/
structure AnnouncesField (config : HeaderConfig) (rec : TemplateRec) (template : Region) : Prop where
  record : (template.bytes.drop (recordsStart config)).take (recordSize rec) = recordBytes rec
  parsed : ∃ header, parseTemplate config (template.bytes.take (recordsStart config + recordSize rec)) =
      some ⟨header, dataSetId.toNat, 1, [describe rec]⟩ ∧
    header.length = config.msgHeaderSize + setHeaderSize + (if hasEnterpriseBit rec.elementId then 8 else 4) ∧
    readHeader (builtHeader config templateSetId (UInt16.ofNat header.length) 0xFFFF) = some header

section Edited
variable {config : HeaderConfig} {sensor : List TemplateRec}

theorem announcedSize_le (config : HeaderConfig) (rec : TemplateRec) : recordsStart config + recordSize rec ≤ 17 := by
  have bounds := config.msgHeaderSize_bounds
  unfold recordsStart recordSize setHeaderSize
  split <;> omega

theorem edit_headers (header : List UInt8) (headerLength : header.length = config.msgHeaderSize) {count : Nat}
    (short : count < 256) (byte : UInt8) :
    ((header ++ (encode 2 dataSetId.toNat ++ encode 2 count)).set 1 byte).set (recordsStart config - 1) numberOfAggrFields =
      header.set 1 byte ++ (encode 2 dataSetId.toNat ++ encode 2 1) := by
  have bounds := config.msgHeaderSize_bounds
  have last : recordsStart config - 1 - (header.set 1 byte).length = 3 := by
    rw [List.length_set, headerLength, recordsStart, setHeaderSize]
    omega
  have high : UInt8.ofNat (count / 256) = 0 := by rw [Nat.div_eq_of_lt short]; rfl
  rw [List.set_append_left _ _ (by omega), List.set_append_right _ _ (by
    rw [List.length_set, headerLength, recordsStart, setHeaderSize]
    omega), last]
  simp [encode, high, numberOfAggrFields]

/-- The header of a collector's template with one byte of its length set. -/
def editedHeader (config : HeaderConfig) (sensor : List TemplateRec) (announced : Nat) : List UInt8 :=
  (builtHeader config templateSetId (UInt16.ofNat (exactTemplateSize config sensor 1)) 0xFFFF).set 1 (UInt8.ofNat announced)

private theorem editedHeader_length (fits : exactTemplateSize config sensor 1 ≤ maxMsgSize) (announced : Nat) :
    (editedHeader config sensor announced).length = config.msgHeaderSize := by
  rw [editedHeader, List.length_set, builtHeader_length config _ (templateHeader_accepted fits)]

private theorem read_editedHeader (fits : exactTemplateSize config sensor 1 ≤ maxMsgSize) (announced : Nat)
    (small : announced < 256) :
    ∃ header, readHeader (editedHeader config sensor announced) = some header ∧
      header.length = exactTemplateSize config sensor 1 / 256 * 256 + announced ∧
      (readHeader (builtHeader config templateSetId (UInt16.ofNat announced) 0xFFFF) = some header ↔
        header.length = announced) := by
  have accepted := templateHeader_accepted fits
  have value : (UInt16.ofNat (exactTemplateSize config sensor 1)).toNat = exactTemplateSize config sensor 1 :=
    UInt16.toNat_ofNat_of_lt' (by simp only [UInt16.size, maxMsgSize] at fits ⊢; omega)
  have anew := readHeader_headerBytes config 0xFFFF
    (templateHeader_accepted (show announced ≤ maxMsgSize by rw [maxMsgSize]; omega))
  have announcedValue : (UInt16.ofNat announced).toNat = announced :=
    UInt16.toNat_ofNat_of_lt' (by simp only [UInt16.size]; omega)
  have patched := readHeader_second (readHeader_headerBytes config 0xFFFF accepted) (UInt8.ofNat announced)
  rw [UInt8.toNat_ofNat_of_lt' (by simp only [UInt8.size]; omega), value] at patched
  rw [announcedValue] at anew
  refine ⟨_, by rw [editedHeader, builtHeader_eq config 0xFFFF accepted]; exact patched, rfl, ?_⟩
  rw [builtHeader_eq config 0xFFFF (templateHeader_accepted (show announced ≤ maxMsgSize by rw [maxMsgSize]; omega)), anew]
  constructor
  · intro same
    rw [Option.some.injEq] at same
    exact (congrArg HeaderFields.length same).symm
  · intro same
    simp only [Option.some.injEq, HeaderFields.mk.injEq, true_and, and_true]
    exact same.symm

/-- A message that starts with the edited headers and a record is read as a template of
that record. -/
theorem edited_reads (fits : exactTemplateSize config sensor 1 ≤ maxMsgSize) {header : HeaderFields} {announced : Nat}
    (read : readHeader (editedHeader config sensor announced) = some header) {rec : TemplateRec} {template : Region}
    (starts : editedHeader config sensor announced ++ (encode 2 dataSetId.toNat ++ encode 2 1) ++ recordBytes rec <+:
      template.bytes) :
    (template.bytes.drop (recordsStart config)).take (recordSize rec) = recordBytes rec ∧
      parseTemplate config (template.bytes.take (recordsStart config + recordSize rec)) =
        some ⟨header, dataSetId.toNat, 1, [describe rec]⟩ := by
  have headerLength := editedHeader_length fits announced
  have frontLength := recordsStart_eq headerLength 1
  have parsed := parseTemplate_parts config headerLength read dataSetId.toNat_lt (by decide : 1 < 256 ^ 2) [rec]
  rw [List.flatMap_singleton, ← List.append_assoc] at parsed
  obtain ⟨rest, shape⟩ := starts
  constructor
  · rw [← shape, List.append_assoc, List.drop_left' frontLength]
    exact List.take_left' (recordBytes_length rec)
  · rw [← shape, List.take_left' (by rw [List.length_append, frontLength, recordBytes_length])]
    exact parsed

/-- Only templates that were shorter than 256 bytes before are announced with the right
length. -/
theorem edited_announces_iff (fits : exactTemplateSize config sensor 1 ≤ maxMsgSize) {rec : TemplateRec}
    {template : Region}
    (starts : editedHeader config sensor (recordsStart config + recordSize rec) ++
      (encode 2 dataSetId.toNat ++ encode 2 1) ++ recordBytes rec <+: template.bytes) :
    AnnouncesField config rec template ↔ exactTemplateSize config sensor 1 < 256 := by
  have small := announcedSize_le config rec
  obtain ⟨header, read, length, anew⟩ :=
    read_editedHeader fits (recordsStart config + recordSize rec) (by omega)
  obtain ⟨record, parsed⟩ := edited_reads fits read starts
  have size : config.msgHeaderSize + setHeaderSize + (if hasEnterpriseBit rec.elementId then 8 else 4) =
      recordsStart config + recordSize rec := rfl
  constructor
  · rintro ⟨-, other, parsedOther, otherLength, -⟩
    rw [parsed] at parsedOther
    cases parsedOther
    rw [length, size] at otherLength
    omega
  · intro low
    have exactly : header.length = recordsStart config + recordSize rec := by rw [length]; omega
    refine ⟨record, header, parsed, exactly.trans size.symm, ?_⟩
    rw [exactly]
    exact anew.mpr exactly

end Edited

/-- Start-up of the data aggregation leaves a template that announces the field. -/
def Announces (config : HeaderConfig) (sensor : List TemplateRec) (heap : Heap) (memory : Nat → UInt8) (sensorPos : Nat)
    (rec : TemplateRec) : Prop :=
  ∃ template library state, getAggrTemplate config sensor heap memory sensorPos Library.initial initial =
    .ok (template, library, state) ∧ AnnouncesField config rec template

private theorem announces_allocated_iff (config : HeaderConfig) {sensor : List TemplateRec}
    (fits : exactTemplateSize config sensor 1 ≤ maxMsgSize) {sensorPos : Nat} (inside : sensorPos < sensor.length)
    (heap : Heap) (memory : Nat → UInt8) (room : config.msgHeaderSize ≤ exactDataSize config sensor % 65536) :
    Announces config sensor heap memory sensorPos sensor[sensorPos] ↔ exactTemplateSize config sensor 1 < 256 := by
  have short := short_of_fits fits (by omega)
  have headerLength := builtHeader_length config 0xFFFF (templateHeader_accepted fits)
  obtain ⟨block, data, initialized, built, -⟩ :=
    initializeTinyipfix_allocates config heap Library.initial short room
  have start := recordsStart_eq headerLength sensor.length
  have shape := (built.whole fits).trans (templateMessage_records config sensor)
  obtain ⟨walk, walks, placed⟩ := walkTemplate_places shape start (builtTemplate_lt built short) short inside
  obtain ⟨template, library, edited, starts⟩ :=
    getAggrTemplate_edits heap memory inside initialized rfl shape start walks placed
  rw [edit_headers _ headerLength short] at starts
  have announces := edited_announces_iff fits starts
  constructor
  · rintro ⟨same, other, state, again, announced⟩
    rw [edited] at again
    cases again
    exact announces.mp announced
  · intro low
    exact ⟨template, library, _, edited, announces.mpr low⟩

/-- The edited template announces the selected field exactly if the template it was made
from has at most 255 bytes, in an initialisation that stays inside its buffers. -/
theorem announces_field_iff (config : HeaderConfig) (sensor : List TemplateRec)
    (fits : exactTemplateSize config sensor 1 ≤ maxMsgSize) (sensorPos : Nat) (inside : sensorPos < sensor.length)
    (heap : Heap) (memory : Nat → UInt8) :
    Announces config sensor heap memory sensorPos sensor[sensorPos] ↔
      exactTemplateSize config sensor 1 < 256 ∧ config.msgHeaderSize ≤ exactDataSize config sensor % 65536 := by
  by_cases room : config.msgHeaderSize ≤ exactDataSize config sensor % 65536
  · rw [announces_allocated_iff config fits inside heap memory room]
    exact (and_iff_left room).symm
  · obtain ⟨fault, outside⟩ := initializeTinyipfix_outside config heap Library.initial (short_of_fits fits (by omega))
      (Nat.lt_of_not_le room)
    constructor
    · rintro ⟨template, library, state, edited, -⟩
      obtain ⟨result, initialized, -⟩ := bind_inv edited
      rw [templateReplica, outside] at initialized
      cases initialized
    · rintro ⟨-, enough⟩
      exact absurd enough room

theorem sample_announced : Announces HeaderConfig.sky initTemplate ⟨fun _ => 1, fun _ => 2⟩ (fun _ => 3) 1
    (setFields 1 0x80A1 2 0xF0AA00AA) :=
  (announces_field_iff HeaderConfig.sky initTemplate (by decide) 1 (by decide) ⟨fun _ => 1, fun _ => 2⟩ fun _ => 3).mpr
    (by decide)

/-- The template of 32 records with the enterprise bit has 263 bytes; the one record left
of it is announced with a length of 271. -/
theorem edited_length_wrong : ¬ Announces HeaderConfig.sky (List.replicate 32 (setFields 1 0x80A0 2 0xF0AA00AA))
    ⟨fun _ => 0, fun _ => 0⟩ (fun _ => 0) 0 (setFields 1 0x80A0 2 0xF0AA00AA) := by
  intro announced
  have fits : exactTemplateSize HeaderConfig.sky (List.replicate 32 (setFields 1 0x80A0 2 0xF0AA00AA)) 1 ≤ maxMsgSize := by
    decide
  have low := (announces_allocated_iff HeaderConfig.sky fits (show 0 < _ by decide) ⟨fun _ => 0, fun _ => 0⟩ (fun _ => 0)
    (by decide)).mp announced
  exact absurd low (by decide)

end TinyIpfix.DataAggr
