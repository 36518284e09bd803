import TinyIpfix.Header
import TinyIpfix.Lib.Endian
import Mathlib.Tactic.IntervalCases

/-! What `build_msg_header` writes, and what a reader of its layout gets back. The set
id shares the first byte with the flags and the length; the two extended layouts
or it in twice. -/

namespace TinyIpfix
open CMem

/-- The arguments the check at the head of `buildMsgHeader` lets through. -/
def Accepted (setId length : UInt16) : Prop :=
  setId.toNat ≤ maxSetId ∧ length.toNat ≤ maxMsgSize

instance (setId length : UInt16) : Decidable (Accepted setId length) :=
  inferInstanceAs (Decidable (_ ∧ _))

def flagBits (config : HeaderConfig) : UInt8 :=
  if config.extendedHeaderSetId then
    if config.extendedHeaderSeq then 0xc0 else 0x80
  else
    if config.extendedHeaderSeq then 0x40 else 0

def firstByte (config : HeaderConfig) (setId length : UInt16) : UInt8 :=
  ((if setId < 16 then (setId <<< 2).toUInt8 else 0) ||| (length >>> 8).toUInt8 ||| flagBits config) |||
    if config.extendedHeaderSetId then ((setId >>> 8) <<< 2).toUInt8 else 0

def sequenceBytes (config : HeaderConfig) (seqNum : UInt16) : List UInt8 :=
  if config.extendedHeaderSeq then [(seqNum >>> 8).toUInt8, seqNum.toUInt8] else [seqNum.toUInt8]

def headerBytes (config : HeaderConfig) (setId length seqNum : UInt16) : List UInt8 :=
  firstByte config (shortcut setId) length :: length.toUInt8 :: sequenceBytes config seqNum ++
    if config.extendedHeaderSetId then [(shortcut setId).toUInt8] else []

theorem headerBytes_length (config : HeaderConfig) (setId length seqNum : UInt16) :
    (headerBytes config setId length seqNum).length = config.msgHeaderSize := by
  obtain ⟨sequence, identifier⟩ := config
  cases sequence <;> cases identifier <;> rfl

private theorem valid_of_accepted {setId length : UInt16} (seqNum : UInt16) (accepted : Accepted setId length) :
    ¬ (setId.toNat > maxSetId ∨ seqNum.toNat > maxSeqNum ∨ length.toNat > maxMsgSize) := by
  have small := seqNum.toNat_lt
  simp only [Accepted, maxSetId, maxMsgSize, maxSeqNum] at accepted ⊢
  omega

private theorem exists_cons {bytes : List UInt8} {count : Nat} (room : count + 1 ≤ bytes.length) :
    ∃ byte rest, bytes = byte :: rest ∧ count ≤ rest.length := by
  cases bytes with
  | nil => simp at room
  | cons byte rest => exact ⟨byte, rest, rfl, by simpa using room⟩

private theorem store_short {β : Type} (setId : UInt16) (first : UInt8) (rest : List UInt8) (beyond : Nat → UInt8)
    (next : Region → Checked β) :
    ((⟨first :: rest, beyond⟩ : Region).store 0 0 >>= fun buf =>
      if setId < 16 then buf.storeOr 0 (setId <<< 2).toUInt8 >>= next else pure buf >>= next) =
    next ⟨(if setId < 16 then (setId <<< 2).toUInt8 else 0) :: rest, beyond⟩ := by
  by_cases short : setId < 16
  · simp [Region.store_eq, Region.storeOr_eq, Region.byteAt, short]
  · simp [Region.store_eq, short]

private theorem buildMsgHeader_writes (config : HeaderConfig) (buf : Region) (setId length seqNum : UInt16)
    (accepted : Accepted setId length) (room : config.msgHeaderSize ≤ buf.size) :
    buildMsgHeader config buf setId length seqNum =
      .ok (0, ⟨headerBytes config setId length seqNum ++ buf.bytes.drop config.msgHeaderSize, buf.beyond⟩) := by
  rw [buildMsgHeader, if_neg (valid_of_accepted seqNum accepted)]
  obtain ⟨bytes, beyond⟩ := buf
  obtain ⟨sequence, identifier⟩ := config
  have covered : 3 ≤ bytes.length := by
    have bounds := HeaderConfig.msgHeaderSize_bounds ⟨sequence, identifier⟩
    exact bounds.1.trans room
  obtain ⟨first, behindFirst, rfl, more⟩ := exists_cons covered
  obtain ⟨second, behindSecond, rfl, most⟩ := exists_cons more
  obtain ⟨third, rest, rfl, -⟩ := exists_cons most
  simp only
  rw [store_short]
  cases identifier <;> cases sequence
  · simp [HeaderConfig.msgHeaderSize, headerBytes, firstByte, sequenceBytes, flagBits, Region.store_eq,
      Region.storeOr_eq, Region.byteAt]
  · have extended : 1 ≤ rest.length := by simpa [HeaderConfig.msgHeaderSize, Region.size] using room
    obtain ⟨fourth, rest, rfl, -⟩ := exists_cons extended
    simp [HeaderConfig.msgHeaderSize, headerBytes, firstByte, sequenceBytes, flagBits, Region.store_eq,
      Region.storeOr_eq, Region.byteAt]
  · have extended : 1 ≤ rest.length := by simpa [HeaderConfig.msgHeaderSize, Region.size] using room
    obtain ⟨fourth, rest, rfl, -⟩ := exists_cons extended
    simp [HeaderConfig.msgHeaderSize, headerBytes, firstByte, sequenceBytes, flagBits, Region.store_eq,
      Region.storeOr_eq, Region.byteAt]
  · have extended : 2 ≤ rest.length := by simpa [HeaderConfig.msgHeaderSize, Region.size] using room
    obtain ⟨fourth, behindFourth, rfl, last⟩ := exists_cons extended
    obtain ⟨fifth, rest, rfl, -⟩ := exists_cons last
    simp [HeaderConfig.msgHeaderSize, headerBytes, firstByte, sequenceBytes, flagBits, Region.store_eq,
      Region.storeOr_eq, Region.byteAt]

theorem builtHeader_eq (config : HeaderConfig) {setId length : UInt16} (seqNum : UInt16)
    (accepted : Accepted setId length) :
    builtHeader config setId length seqNum = headerBytes config setId length seqNum := by
  rw [builtHeader, buildMsgHeader_writes config _ setId length seqNum accepted (by simp [Region.size])]
  simp

theorem builtHeader_length (config : HeaderConfig) {setId length : UInt16} (seqNum : UInt16)
    (accepted : Accepted setId length) : (builtHeader config setId length seqNum).length = config.msgHeaderSize := by
  rw [builtHeader_eq config seqNum accepted, headerBytes_length]

theorem buildMsgHeader_ok (config : HeaderConfig) (buf : Region) {setId length : UInt16} (seqNum : UInt16)
    (accepted : Accepted setId length) (room : config.msgHeaderSize ≤ buf.size) :
    buildMsgHeader config buf setId length seqNum =
      .ok (0, ⟨builtHeader config setId length seqNum ++ buf.bytes.drop config.msgHeaderSize, buf.beyond⟩) := by
  rw [builtHeader_eq config seqNum accepted, buildMsgHeader_writes config buf setId length seqNum accepted room]

theorem headed_size (config : HeaderConfig) (buf : Region) {setId length : UInt16} (seqNum : UInt16)
    (accepted : Accepted setId length) (room : config.msgHeaderSize ≤ buf.size) :
    (⟨builtHeader config setId length seqNum ++ buf.bytes.drop config.msgHeaderSize, buf.beyond⟩ : Region).size =
      buf.size := by
  simp only [Region.size, List.length_append, List.length_drop, builtHeader_length config seqNum accepted] at room ⊢
  omega

theorem buildMsgHeader_rejects (config : HeaderConfig) (buf : Region) {setId length : UInt16} (seqNum : UInt16)
    (rejected : ¬ Accepted setId length) : buildMsgHeader config buf setId length seqNum = .ok (errorCode, buf) := by
  apply if_pos
  simp only [Accepted] at rejected
  omega

private theorem accepted_of_small {setId : UInt16} {length : Nat} (identified : setId.toNat ≤ maxSetId)
    (small : length ≤ maxMsgSize) : Accepted setId (UInt16.ofNat length) := by
  refine ⟨identified, ?_⟩
  simp only [maxMsgSize] at small
  rw [UInt16.toNat_ofNat_of_lt' (by simp only [UInt16.size]; omega)]
  exact small

theorem dataHeader_accepted {length : Nat} (small : length ≤ maxMsgSize) : Accepted dataSetId (UInt16.ofNat length) :=
  accepted_of_small (by decide) small

theorem templateHeader_accepted {length : Nat} (small : length ≤ maxMsgSize) :
    Accepted templateSetId (UInt16.ofNat length) :=
  accepted_of_small (by decide) small

theorem buildMsgHeader_outside (config : HeaderConfig) (buf : Region) {setId length : UInt16} (seqNum : UInt16)
    (accepted : Accepted setId length) (small : buf.size < config.msgHeaderSize) :
    ∃ fault, buildMsgHeader config buf setId length seqNum = .error fault := by
  rw [buildMsgHeader, if_neg (valid_of_accepted seqNum accepted)]
  obtain ⟨bytes, beyond⟩ := buf
  obtain ⟨sequence, identifier⟩ := config
  rcases bytes with _ | ⟨first, _ | ⟨second, _ | ⟨third, rest⟩⟩⟩
  · exact ⟨_, by simp [Region.store_eq]; rfl⟩
  · simp only
    rw [store_short]
    exact ⟨_, by simp [Region.store_eq, Region.storeOr_eq]; rfl⟩
  · simp only
    rw [store_short]
    exact ⟨_, by simp [Region.store_eq, Region.storeOr_eq]; rfl⟩
  · -- Only an extended header can be too large for three bytes.
    simp only
    rw [store_short]
    simp only [Region.size, List.length_cons] at small
    cases identifier <;> cases sequence
    · exact absurd small (by simp only [HeaderConfig.msgHeaderSize]; simp)
    · have none : rest = [] := List.length_eq_zero_iff.mp (by simp [HeaderConfig.msgHeaderSize] at small; omega)
      subst none
      simp [HeaderConfig.msgHeaderSize, Region.store_eq, Region.storeOr_eq]
    · have none : rest = [] := List.length_eq_zero_iff.mp (by simp [HeaderConfig.msgHeaderSize] at small; omega)
      subst none
      simp [HeaderConfig.msgHeaderSize, Region.store_eq, Region.storeOr_eq]
    · rcases rest with _ | ⟨fourth, _ | ⟨fifth, rest⟩⟩
      · simp [HeaderConfig.msgHeaderSize, Region.store_eq, Region.storeOr_eq]
      · simp [HeaderConfig.msgHeaderSize, Region.store_eq, Region.storeOr_eq]
      · simp only [HeaderConfig.msgHeaderSize, List.length_cons, ↓reduceIte] at small
        omega

/-- The bits of the set id that end up in bits 5 to 2 of the first byte. -/
def setIdField (config : HeaderConfig) (setId : UInt16) : Nat :=
  if setId < 16 then setId.toNat
  else if config.extendedHeaderSetId then setId.toNat / 256
  else 0

private theorem shift_field {field : UInt16} (small : field < 16) :
    ((field <<< 2).toUInt8).toNat = 4 * field.toNat := by
  have bound : field.toNat < 16 := UInt16.lt_iff_toNat_lt.mp small
  simp only [UInt16.toNat_toUInt8, UInt16.toNat_shiftLeft, Nat.shiftLeft_eq, UInt16.reduceToNat,
    Nat.reduceMod, Nat.reducePow]
  omega

private theorem or_parts (high low flags : UInt8) (field length : Nat) (highIs : high.toNat = 4 * field)
    (lowIs : low.toNat = length) (fieldSmall : field < 16) (lengthSmall : length < 4)
    (flagged : flags = 0 ∨ flags = 0x40 ∨ flags = 0x80 ∨ flags = 0xc0) :
    (high ||| low ||| flags).toNat = flags.toNat + 4 * field + length := by
  have table : ∀ field : Fin 16, ∀ length : Fin 4, ∀ flags ∈ [0, 0x40, 0x80, 0xc0],
      (4 * field.val ||| length.val ||| flags) = flags + 4 * field.val + length.val := by decide
  rw [UInt8.toNat_or, UInt8.toNat_or, highIs, lowIs]
  apply table ⟨field, fieldSmall⟩ ⟨length, lengthSmall⟩
  rcases flagged with rfl | rfl | rfl | rfl <;> simp

theorem flagBits_cases (config : HeaderConfig) :
    flagBits config = 0 ∨ flagBits config = 0x40 ∨ flagBits config = 0x80 ∨ flagBits config = 0xc0 := by
  unfold flagBits
  split <;> split <;> simp

theorem firstByte_toNat (config : HeaderConfig) {setId length : UInt16} (setIdSmall : setId.toNat ≤ maxSetId)
    (lengthSmall : length.toNat ≤ maxMsgSize) :
    (firstByte config setId length).toNat =
      (flagBits config).toNat + 4 * setIdField config setId + length.toNat / 256 := by
  simp only [maxSetId, maxMsgSize] at setIdSmall lengthSmall
  have high : ∀ value : UInt16, (value >>> 8).toNat = value.toNat / 256 := by
    intro value
    simp only [UInt16.toNat_shiftRight, Nat.shiftRight_eq_div_pow, UInt16.reduceToNat, Nat.reduceMod, Nat.reducePow]
  have lengthBits : ((length >>> 8).toUInt8).toNat = length.toNat / 256 := by
    rw [UInt16.toNat_toUInt8, high]
    omega
  have highBits : (((setId >>> 8) <<< 2).toUInt8).toNat = 4 * (setId.toNat / 256) := by
    rw [shift_field (UInt16.lt_iff_toNat_lt.mpr (by rw [high]; simp; omega)), high]
  have lengthBound : length.toNat / 256 < 4 := by omega
  unfold firstByte setIdField
  by_cases short : setId < 16
  · have bound : setId.toNat < 16 := UInt16.lt_iff_toNat_lt.mp short
    have noHigh : ((setId >>> 8) <<< 2).toUInt8 = 0 := by
      apply UInt8.toNat_inj.mp
      rw [highBits]
      simp
      omega
    simp only [short, ↓reduceIte, noHigh, ite_self, UInt8.or_zero]
    exact or_parts _ _ _ _ _ (shift_field short) lengthBits bound lengthBound (flagBits_cases config)
  · simp only [short, ↓reduceIte, UInt8.zero_or]
    cases config.extendedHeaderSetId <;> simp only [Bool.false_eq_true, ↓reduceIte]
    · have zero := or_parts 0 _ (flagBits config) 0 _ rfl lengthBits (by omega) lengthBound (flagBits_cases config)
      simpa using zero
    · rw [UInt8.or_comm, ← UInt8.or_assoc]
      exact or_parts _ _ _ _ _ highBits lengthBits (by omega) lengthBound (flagBits_cases config)

theorem shortcut_le {setId : UInt16} (small : setId.toNat ≤ maxSetId) : (shortcut setId).toNat ≤ maxSetId := by
  unfold shortcut
  split
  · decide
  · split
    · decide
    · exact small

/-- The reader computes the whole length in sixteen bits and drops the high byte
when it returns. -/
theorem extrLenFromHeader_header (config : HeaderConfig) {setId length seqNum : UInt16}
    (accepted : Accepted setId length) {msg : Region} (starts : builtHeader config setId length seqNum <+: msg.bytes) :
    extrLenFromHeader msg = .ok length.toUInt8 := by
  rw [builtHeader_eq config seqNum accepted, headerBytes] at starts
  obtain ⟨rest, bytes⟩ := starts
  have first : msg.load 0 = .ok (firstByte config (shortcut setId) length) := by
    simp [Region.load, Region.byteAt, Region.size, ← bytes]
  have second : msg.load 1 = .ok length.toUInt8 := by
    simp [Region.load, Region.byteAt, Region.size, ← bytes]
  simp only [extrLenFromHeader, first, second, ok_bind, pure_ok, Except.ok.injEq]
  apply UInt8.toNat_inj.mp
  simp [Nat.shiftLeft_eq]

/-- A header as its layout describes it. -/
structure HeaderFields where
  extendedSetId : Bool
  extendedSeq : Bool
  setId : Nat
  length : Nat
  seqNum : Nat
  deriving Repr, DecidableEq

/-- Read a header by its layout, from exactly the bytes its flags call for. -/
def readHeader : List UInt8 → Option HeaderFields
  | first :: second :: rest =>
    let field := first.toNat / 4 % 16
    let length := first.toNat % 4 * 256 + second.toNat
    match first.toNat.testBit 7, first.toNat.testBit 6, rest with
    | false, false, [seq] => some ⟨false, false, field, length, seq.toNat⟩
    | false, true, [seqHigh, seqLow] => some ⟨false, true, field, length, Endian.decode [seqHigh, seqLow]⟩
    | true, false, [seq, setId] => some ⟨true, false, field * 256 + setId.toNat, length, seq.toNat⟩
    | true, true, [seqHigh, seqLow, setId] =>
      some ⟨true, true, field * 256 + setId.toNat, length, Endian.decode [seqHigh, seqLow]⟩
    | _, _, _ => none
  | _ => none

/-- The set id a reader of the layout gets. -/
def setIdRead (config : HeaderConfig) (setId : UInt16) : Nat :=
  if config.extendedHeaderSetId then setIdField config setId * 256 + setId.toNat % 256 else setIdField config setId

private theorem setIdField_lt (config : HeaderConfig) {setId : UInt16} (small : setId.toNat ≤ maxSetId) :
    setIdField config setId < 16 := by
  simp only [maxSetId] at small
  unfold setIdField
  split
  next short => exact UInt16.lt_iff_toNat_lt.mp short
  next => split <;> omega

private theorem firstByte_parts (config : HeaderConfig) {setId length : UInt16} (setIdSmall : setId.toNat ≤ maxSetId)
    (lengthSmall : length.toNat ≤ maxMsgSize) :
    (firstByte config setId length).toNat.testBit 7 = config.extendedHeaderSetId ∧
    (firstByte config setId length).toNat.testBit 6 = config.extendedHeaderSeq ∧
    (firstByte config setId length).toNat / 4 % 16 = setIdField config setId ∧
    (firstByte config setId length).toNat % 4 = length.toNat / 256 := by
  have value := firstByte_toNat config setIdSmall lengthSmall
  have field := setIdField_lt config setIdSmall
  simp only [maxMsgSize] at lengthSmall
  simp only [Nat.testBit_eq_decide_div_mod_eq]
  obtain ⟨sequence, identifier⟩ := config
  cases sequence <;> cases identifier
  all_goals
    simp only [flagBits, Bool.false_eq_true, ↓reduceIte, UInt8.reduceToNat] at value
    refine ⟨?_, ?_, by omega, by omega⟩
    · simp only [decide_eq_true_eq, decide_eq_false_iff_not]; omega
    · simp only [decide_eq_true_eq, decide_eq_false_iff_not]; omega

private theorem halves_join (value : UInt16) :
    value.toNat / 256 % 256 * 256 + value.toNat % 256 = value.toNat := by
  have small := value.toNat_lt
  omega

theorem readHeader_headerBytes (config : HeaderConfig) {setId length : UInt16} (seqNum : UInt16)
    (accepted : Accepted setId length) :
    readHeader (headerBytes config setId length seqNum) =
      some ⟨config.extendedHeaderSetId, config.extendedHeaderSeq, setIdRead config (shortcut setId), length.toNat,
        seqNum.toNat % if config.extendedHeaderSeq then 65536 else 256⟩ := by
  have whole : length.toNat / 256 * 256 + length.toNat % 256 = length.toNat := Nat.div_add_mod' _ _
  have seqWhole := halves_join seqNum
  obtain ⟨identifier, sequence, field, low⟩ := firstByte_parts config (shortcut_le accepted.1) accepted.2
  simp only [headerBytes, readHeader, List.cons_append, identifier, sequence, field, low]
  obtain ⟨extendedSeq, extendedSetId⟩ := config
  cases extendedSeq <;> cases extendedSetId
  all_goals
    simp [sequenceBytes, setIdRead, Endian.decode, whole, seqWhole, Nat.shiftRight_eq_div_pow]

theorem readHeader_second {first second : UInt8} {rest : List UInt8} {header : HeaderFields}
    (read : readHeader (first :: second :: rest) = some header) (other : UInt8) :
    readHeader (first :: other :: rest) = some { header with length := header.length / 256 * 256 + other.toNat } := by
  have small := second.toNat_lt
  have high : (first.toNat % 4 * 256 + second.toNat) / 256 = first.toNat % 4 := by omega
  simp only [readHeader] at read ⊢
  split at read
  all_goals
    cases read
  all_goals
    simp only [high]

/-- Building a header in `buf` and reading it by its layout gives the arguments back. -/
def ReadsBack (config : HeaderConfig) (buf : Region) (setId length seqNum : UInt16) : Prop :=
  ∃ after, buildMsgHeader config buf setId length seqNum = .ok (0, after) ∧
    readHeader (after.bytes.take config.msgHeaderSize) =
      some ⟨config.extendedHeaderSetId, config.extendedHeaderSeq, (shortcut setId).toNat, length.toNat,
        seqNum.toNat % if config.extendedHeaderSeq then 65536 else 256⟩

private theorem setIdRead_eq_iff (config : HeaderConfig) {setId : UInt16} (small : setId.toNat ≤ maxSetId)
    (fits : config.extendedHeaderSetId = true ∨ setId < 16) :
    setIdRead config setId = setId.toNat ↔ config.extendedHeaderSetId = false ∨ setId = 0 ∨ 16 ≤ setId := by
  have zero : setId = 0 ↔ setId.toNat = 0 := UInt16.toNat_inj.symm
  rw [UInt16.lt_iff_toNat_lt] at fits
  rw [zero, UInt16.le_iff_toNat_le]
  simp only [setIdRead, setIdField, UInt16.lt_iff_toNat_lt, UInt16.reduceToNat, maxSetId] at fits small ⊢
  cases identifier : config.extendedHeaderSetId with
  | false =>
    have short : setId.toNat < 16 := by simpa [identifier] using fits
    simp [short]
  | true =>
    simp only [↓reduceIte, Bool.true_eq_false, false_or]
    split <;> omega

/-- With the set-id extension the low nibble of a short id is or-ed into the bits that
should hold the high nibble of the long one. -/
theorem header_reads_back_iff (config : HeaderConfig) (buf : Region) (setId length seqNum : UInt16)
    (accepted : Accepted setId length) (fits : config.extendedHeaderSetId = true ∨ shortcut setId < 16)
    (room : config.msgHeaderSize ≤ buf.size) :
    ReadsBack config buf setId length seqNum ↔
      config.extendedHeaderSetId = false ∨ shortcut setId = 0 ∨ 16 ≤ shortcut setId := by
  rw [← setIdRead_eq_iff config (shortcut_le accepted.1) fits]
  have front : (headerBytes config setId length seqNum ++ buf.bytes.drop config.msgHeaderSize).take
      config.msgHeaderSize = headerBytes config setId length seqNum := by
    rw [← headerBytes_length config setId length seqNum, List.take_left]
  have read := readHeader_headerBytes config seqNum accepted
  constructor
  · rintro ⟨after, built, result⟩
    rw [buildMsgHeader_writes config buf setId length seqNum accepted room] at built
    cases built
    rw [front, read] at result
    simpa using result
  · intro same
    refine ⟨_, buildMsgHeader_writes config buf setId length seqNum accepted room, ?_⟩
    rw [front, read, same]

theorem extended_header_reads_back :
    ReadsBack ⟨true, true⟩ ⟨[9, 9, 9, 9, 9, 9], fun _ => 0⟩ 300 16 7 :=
  (header_reads_back_iff _ _ _ _ _ (by decide) (by decide) (by decide)).mpr (by decide)

/-- The id of the data sets is read as 514 under the set-id extension. -/
theorem data_header_misread : ¬ ReadsBack ⟨false, true⟩ ⟨[0, 0, 0, 0], fun _ => 0⟩ dataSetId 16 1 := by
  rintro ⟨after, built, result⟩
  cases built
  revert result
  decide

end TinyIpfix
