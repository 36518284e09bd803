import TinyIpfix.Template
import TinyIpfix.Proofs.HeaderCodec

/-! What the template functions compute: the exact size of a template, and the bytes
of its records behind the message header. -/

namespace TinyIpfix
open CMem CLoop Endian

def recordSize (rec : TemplateRec) : Nat :=
  if hasEnterpriseBit rec.elementId then 8 else 4

def tableSize (sensor : List TemplateRec) : Nat :=
  (sensor.map recordSize).sum

/-- The size of a template computed without wrap. -/
def exactTemplateSize (config : HeaderConfig) (sensor : List TemplateRec) (degree : Nat) : Nat :=
  config.msgHeaderSize + setHeaderSize + degree * tableSize sensor

def recordBytes (rec : TemplateRec) : List UInt8 :=
  encode 2 rec.elementId.toNat ++ encode 2 rec.fieldLen.toNat ++
    if hasEnterpriseBit rec.elementId then encode 4 rec.enterpriseNum.toNat else []

def tableBytes (sensor : List TemplateRec) : List UInt8 :=
  sensor.flatMap recordBytes

def templateBody (sensor : List TemplateRec) (degree : Nat) : List UInt8 :=
  encode 2 dataSetId.toNat ++ encode 2 (sensor.length * degree) ++ (List.replicate degree (tableBytes sensor)).flatten

private theorem switchEndian16_toNat (n : UInt16) : (switchEndian16 n).toNat = n.toNat % 256 * 256 + n.toNat / 256 := by
  have small := n.toNat_lt
  have joined := shiftLeft_or (n.toNat % 256) 8 (show n.toNat / 256 < 256 by omega)
  have wrapped : n.toNat <<< 8 % 65536 = (n.toNat % 256) <<< 8 := by
    rw [Nat.shiftLeft_eq, Nat.shiftLeft_eq]
    omega
  simp only [switchEndian16, UInt16.toNat_or, UInt16.toNat_shiftLeft, UInt16.toNat_shiftRight, UInt16.reduceToNat,
    Nat.reduceMod, Nat.reducePow, wrapped, Nat.shiftRight_eq_div_pow]
  exact joined

theorem stored16_switchEndian16 (n : UInt16) : stored16 (switchEndian16 n) = encode 2 n.toNat := by
  have small := n.toNat_lt
  have high : (n.toNat % 256 * 256 + n.toNat / 256) / 256 = n.toNat % 256 := by omega
  have low : (n.toNat % 256 * 256 + n.toNat / 256) % 256 = n.toNat / 256 := by omega
  rw [stored16_eq, switchEndian16_toNat]
  simp only [encode, List.reverse_cons, List.reverse_nil, List.nil_append, List.cons_append, List.cons.injEq,
    ← UInt8.toNat_inj, UInt8.toNat_ofNat', Nat.reducePow, Nat.div_one, high, low, and_true]
  omega

theorem stored32_switchEndian32 (n : UInt32) : stored32 (switchEndian32 n) = encode 4 n.toNat := by
  have high : encode 2 (n >>> 16).toUInt16.toNat = encode 2 (n.toNat / 256 ^ 2) := by
    rw [← encode_mod 2 (n.toNat / 256 ^ 2)]
    simp [Nat.shiftRight_eq_div_pow]
  have low : encode 2 n.toUInt16.toNat = encode 2 n.toNat := encode_mod 2 n.toNat
  rw [switchEndian32, stored32_join, stored16_switchEndian16, stored16_switchEndian16, encode_append 2 2, high, low]

theorem stored64_switchEndian64 (n : UInt64) : stored64 (switchEndian64 n) = encode 8 n.toNat := by
  have high : encode 4 (n >>> 32).toUInt32.toNat = encode 4 (n.toNat / 256 ^ 4) := by
    rw [← encode_mod 4 (n.toNat / 256 ^ 4)]
    simp [Nat.shiftRight_eq_div_pow]
  have low : encode 4 n.toUInt32.toNat = encode 4 n.toNat := encode_mod 4 n.toNat
  rw [switchEndian64, stored64_join, stored32_switchEndian32, stored32_switchEndian32, encode_append 4 4, high, low]

@[simp] theorem recordBytes_length (rec : TemplateRec) : (recordBytes rec).length = recordSize rec := by
  unfold recordBytes recordSize
  split <;> simp

theorem tableBytes_length (sensor : List TemplateRec) : (tableBytes sensor).length = tableSize sensor := by
  simp [tableBytes, tableSize, List.length_flatMap]

theorem length_le_tableSize (sensor : List TemplateRec) : 4 * sensor.length ≤ tableSize sensor := by
  induction sensor with
  | nil => simp [tableSize]
  | cons rec sensor ih =>
    have single : 4 ≤ recordSize rec := by
      unfold recordSize
      split <;> omega
    simp only [tableSize, List.map_cons, List.sum_cons, List.length_cons] at ih ⊢
    omega

theorem tableSize_le_length (sensor : List TemplateRec) : tableSize sensor ≤ 8 * sensor.length := by
  induction sensor with
  | nil => simp [tableSize]
  | cons rec sensor ih =>
    have single : recordSize rec ≤ 8 := by
      unfold recordSize
      split <;> omega
    simp only [tableSize, List.map_cons, List.sum_cons, List.length_cons] at ih ⊢
    omega

@[simp] theorem templateBody_length (sensor : List TemplateRec) (degree : Nat) :
    (templateBody sensor degree).length = setHeaderSize + degree * tableSize sensor := by
  simp [templateBody, tableBytes_length, setHeaderSize, ← Nat.add_assoc]

section Size

/-- What a record adds to the size inside the nested loop. -/
private def enterpriseSize (rec : TemplateRec) : Nat :=
  if hasEnterpriseBit rec.elementId then 4 else 0

private theorem tableSize_split (sensor : List TemplateRec) :
    tableSize sensor = (sensor.map enterpriseSize).sum + 4 * sensor.length := by
  induction sensor with
  | nil => rfl
  | cons rec sensor ih =>
    have single : recordSize rec = enterpriseSize rec + 4 := by
      unfold recordSize enterpriseSize
      split <;> rfl
    simp only [tableSize, List.map_cons, List.sum_cons, List.length_cons] at ih ⊢
    omega

private theorem inner_size {sensor : List TemplateRec} (short : sensor.length < 256) (start : UInt16) :
    forEach sensor (fun rec templateSize =>
      if hasEnterpriseBit rec.elementId then .ok (templateSize + 4) else .ok templateSize) start =
      .ok (start + UInt16.ofNat (sensor.map enterpriseSize).sum) := by
  rw [forEach_total (fun size rec => size + UInt16.ofNat (enterpriseSize rec)) short]
  · congr 1
    clear short
    induction sensor generalizing start with
    | nil => simp
    | cons rec sensor ih =>
      rw [List.foldl_cons, ih, List.map_cons, List.sum_cons, UInt16.ofNat_add, UInt16.add_assoc]
  · intro rec _ size
    unfold enterpriseSize
    split <;> simp

/-- The size the code computes is the exact one, in sixteen bits. -/
theorem calcTemplateSize_eq (config : HeaderConfig) {sensor : List TemplateRec} (degAggr : UInt8)
    (short : 0 < degAggr.toNat → sensor.length < 256) :
    calcTemplateSize config sensor degAggr = .ok (UInt16.ofNat (exactTemplateSize config sensor degAggr.toNat)) := by
  have outer : ∀ start : UInt16, ∀ count,
      (List.range count).foldl (fun size _ => size + UInt16.ofNat (sensor.map enterpriseSize).sum) start =
        start + UInt16.ofNat (count * (sensor.map enterpriseSize).sum) := by
    intro start count
    induction count with
    | zero => simp
    | succ count ih =>
      rw [List.range_succ, List.foldl_append, ih, List.foldl_cons, List.foldl_nil, Nat.succ_mul, UInt16.ofNat_add,
        UInt16.add_assoc]
  rw [calcTemplateSize, forEach_total (fun size _ => size + UInt16.ofNat (sensor.map enterpriseSize).sum)
    (by simpa using degAggr.toNat_lt) ?_, outer]
  simp only [ok_bind, pure_ok, ← UInt16.ofNat_add]
  · congr 2
    rw [exactTemplateSize, tableSize_split]
    ring
  · intro index member size
    have positive := List.mem_range.mp member
    exact inner_size (short (by omega)) size

end Size

/-- The cursor stands behind `front`, with which the buffer starts. -/
structure Filled (size : Nat) (front : List UInt8) (cursor : Cursor) : Prop where
  starts : front <+: cursor.buf.bytes
  placed : cursor.tmpLen.toNat = front.length
  sized : cursor.buf.size = size

section Fill
variable {size : Nat} {front : List UInt8} {cursor : Cursor}

theorem Filled.behind_header {config : HeaderConfig} {buf : Region} {header : List UInt8} (starts : header <+: buf.bytes)
    (headerLength : header.length = config.msgHeaderSize) :
    Filled buf.size header ⟨buf, UInt16.ofNat config.msgHeaderSize⟩ :=
  ⟨starts, config.msgHeaderSize_toNat.trans headerLength.symm, rfl⟩

theorem Filled.append (filled : Filled size front cursor) (small : size < 65536) (source : List UInt8)
    (room : front.length + source.length ≤ size) :
    ∃ next, cursor.append source = .ok next ∧ Filled size (front ++ source) next := by
  obtain ⟨buf, written, holds, kept, -⟩ := Region.write_extends _ filled.starts (by rw [filled.sized]; exact room)
  refine ⟨⟨buf, cursor.tmpLen + UInt16.ofNat source.length⟩, ?_, holds, ?_, kept.trans filled.sized⟩
  · rw [Cursor.append, filled.placed, written]
    rfl
  · rw [UInt16.toNat_add, filled.placed, UInt16.toNat_ofNat', Nat.add_mod_mod, List.length_append]
    exact Nat.mod_eq_of_lt (by omega)

private theorem buildTemplateRecord_fills (filled : Filled size front cursor) (small : size < 65536) (rec : TemplateRec)
    (room : front.length + recordSize rec ≤ size) :
    ∃ next, buildTemplateRecord rec cursor = .ok next ∧ Filled size (front ++ recordBytes rec) next := by
  unfold recordSize at room
  unfold buildTemplateRecord recordBytes
  simp only [stored16_switchEndian16, stored32_switchEndian32]
  obtain ⟨first, wroteId, afterId⟩ := filled.append small (encode 2 rec.elementId.toNat)
    (by rw [encode_length]; split at room <;> omega)
  obtain ⟨second, wroteLen, afterLen⟩ := afterId.append small (encode 2 rec.fieldLen.toNat)
    (by simp only [List.length_append, encode_length]; split at room <;> omega)
  simp only [wroteId, wroteLen, ok_bind]
  split at room
  next enterprise =>
    obtain ⟨third, wroteNum, afterNum⟩ := afterLen.append small (encode 4 rec.enterpriseNum.toNat)
      (by simp only [List.length_append, encode_length]; omega)
    refine ⟨third, by rw [if_pos enterprise, wroteNum], ?_⟩
    rw [if_pos enterprise, ← List.append_assoc, ← List.append_assoc]
    exact afterNum
  next plain =>
    refine ⟨second, by rw [if_neg plain]; rfl, ?_⟩
    rw [if_neg plain, List.append_nil, ← List.append_assoc]
    exact afterLen

private theorem buildTable_fills (filled : Filled size front cursor) (small : size < 65536) {sensor : List TemplateRec}
    (short : sensor.length < 256) (room : front.length + tableSize sensor ≤ size) :
    ∃ next, forEach sensor buildTemplateRecord cursor = .ok next ∧ Filled size (front ++ tableBytes sensor) next := by
  refine forEach_invariant (fun done current => Filled size (front ++ tableBytes done) current) short
    (by simpa [tableBytes] using filled) ?_
  intro before rec after shape current held
  have part : (front ++ tableBytes before).length + recordSize rec ≤ size := by
    rw [shape] at room
    simp only [List.length_append, tableBytes_length, tableSize, List.map_append, List.map_cons, List.sum_append,
      List.sum_cons] at room ⊢
    omega
  obtain ⟨next, built, fills⟩ := buildTemplateRecord_fills held small rec part
  refine ⟨next, built, ?_⟩
  simpa [tableBytes] using fills

theorem Filled.exact (filled : Filled size front cursor) (covers : front.length = size) : cursor.buf.bytes = front :=
  (filled.starts.eq_of_length (covers.trans filled.sized.symm)).symm

theorem fillTemplate_fills (config : HeaderConfig) {sensor : List TemplateRec} {degAggr : UInt8}
    (short : 0 < degAggr.toNat → sensor.length < 256) {buf : Region} {header : List UInt8} (starts : header <+: buf.bytes)
    (headerLength : header.length = config.msgHeaderSize) (small : buf.size < 65536)
    (room : exactTemplateSize config sensor degAggr.toNat ≤ buf.size) :
    ∃ cursor, fillTemplate config sensor buf degAggr = .ok cursor ∧
      Filled buf.size (header ++ templateBody sensor degAggr.toNat) cursor := by
  have bounds := config.msgHeaderSize_bounds
  have degreeSmall := degAggr.toNat_lt
  have product : sensor.length * degAggr.toNat ≤ 255 * 255 := by
    rcases Nat.eq_zero_or_pos degAggr.toNat with none | positive
    · simp [none]
    · exact Nat.mul_le_mul (by have table := short positive; omega) (by omega)
  rw [exactTemplateSize, setHeaderSize] at room
  obtain ⟨first, wroteId, afterId⟩ := (Filled.behind_header starts headerLength).append small (encode 2 dataSetId.toNat)
    (by rw [encode_length]; omega)
  obtain ⟨second, wroteCount, afterCount⟩ := afterId.append small (encode 2 (sensor.length * degAggr.toNat))
    (by simp only [List.length_append, encode_length]; omega)
  have count : (UInt16.ofNat (sensor.length * degAggr.toNat)).toNat = sensor.length * degAggr.toNat :=
    UInt16.toNat_ofNat_of_lt' (by simp only [UInt16.size]; omega)
  obtain ⟨final, repeated, fills⟩ : ∃ final,
      forEach (List.range degAggr.toNat) (fun _ cursor => forEach sensor buildTemplateRecord cursor) second = .ok final ∧
      Filled buf.size (header ++ encode 2 dataSetId.toNat ++ encode 2 (sensor.length * degAggr.toNat) ++
        (List.replicate degAggr.toNat (tableBytes sensor)).flatten) final := by
    refine forEach_range (fun count current => Filled buf.size (header ++ encode 2 dataSetId.toNat ++
      encode 2 (sensor.length * degAggr.toNat) ++ (List.replicate count (tableBytes sensor)).flatten) current)
      degreeSmall (by simpa using afterCount) ?_
    intro index earlier current held
    have copies : (index + 1) * tableSize sensor ≤ degAggr.toNat * tableSize sensor := Nat.mul_le_mul_right _ earlier
    obtain ⟨next, built, extended⟩ := buildTable_fills held small (short (by omega)) (by
      simp only [List.length_append, encode_length, headerLength, List.length_flatten, List.map_replicate,
        tableBytes_length, List.sum_replicate_nat]
      rw [Nat.succ_mul] at copies
      omega)
    refine ⟨next, built, ?_⟩
    simpa [List.replicate_succ'] using extended
  refine ⟨final, ?_, ?_⟩
  · simp only [fillTemplate, stored16_switchEndian16, count, wroteId, wroteCount, ok_bind]
    exact repeated
  · simpa [templateBody] using fills

end Fill

/-- The template message, when its header is accepted. -/
def templateMessage (config : HeaderConfig) (sensor : List TemplateRec) (degree : Nat) : List UInt8 :=
  builtHeader config templateSetId (UInt16.ofNat (exactTemplateSize config sensor degree)) 0xFFFF ++
    templateBody sensor degree

theorem templateMessage_length (config : HeaderConfig) {sensor : List TemplateRec} {degree : Nat}
    (fits : exactTemplateSize config sensor degree ≤ maxMsgSize) :
    (templateMessage config sensor degree).length = exactTemplateSize config sensor degree := by
  rw [templateMessage, List.length_append, builtHeader_length config _ (templateHeader_accepted fits),
    templateBody_length, exactTemplateSize, Nat.add_assoc]

/-- A finished template. Without an accepted header its first bytes are whatever the block
held. -/
structure BuiltTemplate (config : HeaderConfig) (sensor : List TemplateRec) (degree : Nat) (template : Region) :
    Prop where
  filled : ∃ header, header.length = config.msgHeaderSize ∧ template.bytes = header ++ templateBody sensor degree
  whole : exactTemplateSize config sensor degree ≤ maxMsgSize → template.bytes = templateMessage config sensor degree

theorem BuiltTemplate.size {config : HeaderConfig} {sensor : List TemplateRec} {degree : Nat} {template : Region}
    (built : BuiltTemplate config sensor degree template) : template.size = exactTemplateSize config sensor degree := by
  obtain ⟨header, length, bytes⟩ := built.filled
  rw [Region.size, bytes, List.length_append, length, templateBody_length, exactTemplateSize, Nat.add_assoc]

theorem buildTemplate_ok (config : HeaderConfig) {sensor : List TemplateRec} (degAggr : UInt8)
    (short : 0 < degAggr.toNat → sensor.length < 256) (buf : Region)
    (size : buf.size = exactTemplateSize config sensor degAggr.toNat)
    (small : exactTemplateSize config sensor degAggr.toNat < 65536) :
    ∃ after, buildTemplate config sensor (UInt16.ofNat (exactTemplateSize config sensor degAggr.toNat)) buf degAggr =
        .ok (0, after) ∧ BuiltTemplate config sensor degAggr.toNat after := by
  have room : config.msgHeaderSize ≤ buf.size := by rw [size, exactTemplateSize]; omega
  have covers : ∀ header : List UInt8, header.length = config.msgHeaderSize →
      (header ++ templateBody sensor degAggr.toNat).length = buf.size := by
    intro header length
    rw [List.length_append, length, templateBody_length, size, exactTemplateSize, Nat.add_assoc]
  by_cases fits : exactTemplateSize config sensor degAggr.toNat ≤ maxMsgSize
  · have accepted := templateHeader_accepted fits
    have sized := headed_size config buf 0xFFFF accepted room
    have headerLength := builtHeader_length config 0xFFFF accepted
    obtain ⟨cursor, filled, fills⟩ := fillTemplate_fills config short (List.prefix_append _ _) headerLength
      (by rw [sized, size]; exact small) (by rw [sized, size])
    have content := fills.exact ((covers _ headerLength).trans sized.symm)
    refine ⟨cursor.buf, ?_, ⟨_, headerLength, content⟩, fun _ => content⟩
    simp only [buildTemplate, buildMsgHeader_ok config buf 0xFFFF accepted room, ok_bind, isMinusOne_eq_false,
      Bool.false_eq_true, ↓reduceIte, filled, pure_ok]
  · have rejected : ¬ Accepted templateSetId (UInt16.ofNat (exactTemplateSize config sensor degAggr.toNat)) := by
      rintro ⟨-, accepted⟩
      rw [UInt16.toNat_ofNat_of_lt' small] at accepted
      exact fits accepted
    have headerLength : (buf.bytes.take config.msgHeaderSize).length = config.msgHeaderSize := by
      rw [List.length_take]
      exact Nat.min_eq_left room
    obtain ⟨cursor, filled, fills⟩ := fillTemplate_fills config short (List.take_prefix _ _) headerLength
      (by rw [size]; exact small) (Nat.le_of_eq size.symm)
    refine ⟨cursor.buf, ?_, ⟨_, headerLength, fills.exact (covers _ headerLength)⟩, fun accepted => absurd accepted fits⟩
    simp only [buildTemplate, buildMsgHeader_rejects config buf 0xFFFF rejected, ok_bind, isMinusOne_eq_false,
      Bool.false_eq_true, ↓reduceIte, filled, pure_ok]

/-- A table with an accepted template is short enough for the loops over it. -/
theorem short_of_fits {config : HeaderConfig} {sensor : List TemplateRec} {degree : Nat}
    (fits : exactTemplateSize config sensor degree ≤ maxMsgSize) (positive : 0 < degree) : sensor.length < 256 := by
  have records := length_le_tableSize sensor
  have copies : tableSize sensor ≤ degree * tableSize sensor := Nat.le_mul_of_pos_left _ positive
  simp only [exactTemplateSize, maxMsgSize] at fits
  omega

theorem calcTemplateSize_endless (config : HeaderConfig) {sensor : List TemplateRec} (long : 256 ≤ sensor.length)
    {degAggr : UInt8} (positive : 0 < degAggr.toNat) : calcTemplateSize config sensor degAggr = .error .endlessLoop := by
  obtain ⟨count, shape⟩ : ∃ count, List.range degAggr.toNat = 0 :: count := by
    obtain ⟨less, equal⟩ := Nat.exists_eq_add_of_lt positive
    rw [equal, List.range_succ_eq_map]
    exact ⟨_, rfl⟩
  rw [calcTemplateSize, forEach, if_pos (by simpa using degAggr.toNat_lt), shape, List.foldlM_cons,
    forEach_long long]
  rfl

section History
variable {header : List UInt8} {size written : Nat} {cursor next : Cursor}

/-- A cursor that has come to `written` inside its buffer, without touching the header. -/
structure Advanced (header : List UInt8) (size written : Nat) (cursor : Cursor) : Prop where
  starts : header <+: cursor.buf.bytes
  behind : header.length ≤ written
  placed : cursor.tmpLen.toNat = written
  inside : written ≤ size
  sized : cursor.buf.size = size

theorem append_advances (small : size < 65536) (advanced : Advanced header size written cursor) {source : List UInt8}
    (appended : cursor.append source = .ok next) : Advanced header size (written + source.length) next := by
  obtain ⟨starts, behind, placed, -, sized⟩ := advanced
  obtain ⟨buf, stored, rest⟩ := bind_inv appended
  cases rest
  have room := (Region.write_ok_iff _ _ _).mp ⟨buf, stored⟩
  rw [placed, sized] at room
  refine ⟨Region.write_behind starts (by rw [placed]; exact behind) stored, Nat.le_add_right_of_le behind, ?_, room,
    (Region.write_size stored).trans sized⟩
  rw [UInt16.toNat_add, placed, UInt16.toNat_ofNat', Nat.add_mod_mod]
  exact Nat.mod_eq_of_lt (by omega)

private theorem buildTemplateRecord_advances (small : size < 65536) (advanced : Advanced header size written cursor)
    {rec : TemplateRec} (built : buildTemplateRecord rec cursor = .ok next) :
    Advanced header size (written + recordSize rec) next := by
  obtain ⟨afterId, wroteElement, remaining⟩ := bind_inv built
  obtain ⟨afterLen, wroteLen, rest⟩ := bind_inv remaining
  have fields := append_advances small (append_advances small advanced wroteElement) wroteLen
  unfold recordSize
  split at rest
  next enterprise =>
    rw [if_pos enterprise]
    exact append_advances small fields rest
  next plain =>
    cases rest
    rw [if_neg plain]
    exact fields

private theorem buildTable_advances (small : size < 65536) (advanced : Advanced header size written cursor)
    {sensor : List TemplateRec} (built : forEach sensor buildTemplateRecord cursor = .ok next) :
    Advanced header size (written + tableSize sensor) next := by
  refine forEach_history (fun done current => Advanced header size (written + tableSize done) current) advanced ?_ built
  intro before rec after _ current following held record
  have more := buildTemplateRecord_advances small held record
  rw [tableSize, List.map_append, List.sum_append, List.map_singleton, List.sum_singleton, ← Nat.add_assoc]
  exact more

/-- A template that is filled leaves the header in place and needs its exact size, also
when less was computed for it. -/
theorem fillTemplate_advances {config : HeaderConfig} {sensor : List TemplateRec} {buf : Region} {degAggr : UInt8}
    (starts : header <+: buf.bytes) (headerLength : header.length = config.msgHeaderSize) (small : buf.size < 65536)
    (filled : fillTemplate config sensor buf degAggr = .ok cursor) :
    Advanced header buf.size (exactTemplateSize config sensor degAggr.toNat) cursor := by
  have begun : Advanced header buf.size config.msgHeaderSize ⟨buf, UInt16.ofNat config.msgHeaderSize⟩ :=
    ⟨starts, Nat.le_of_eq headerLength, config.msgHeaderSize_toNat, by rw [← headerLength]; exact starts.length_le, rfl⟩
  obtain ⟨first, wroteId, remaining⟩ := bind_inv filled
  obtain ⟨second, wroteCount, repeated⟩ := bind_inv remaining
  have headed := append_advances small (append_advances small begun wroteId) wroteCount
  have final : Advanced header buf.size
      (config.msgHeaderSize + 2 + 2 + (List.range degAggr.toNat).length * tableSize sensor) cursor := by
    refine forEach_history (fun done current => Advanced header buf.size
      (config.msgHeaderSize + 2 + 2 + done.length * tableSize sensor) current) (by simpa using headed) ?_ repeated
    intro before index after _ current next held table
    have more := buildTable_advances small held table
    rw [List.length_append, List.length_singleton, Nat.succ_mul, ← Nat.add_assoc]
    exact more
  rw [List.length_range] at final
  exact final

end History

end TinyIpfix
