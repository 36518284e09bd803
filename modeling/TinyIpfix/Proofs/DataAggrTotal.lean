import TinyIpfix.Proofs.DataAggrRun

/-! Calls of data aggregation for fields of any width and datagrams of any length. Each
ends, and what it reads and shifts by depends on the selection alone. -/

namespace TinyIpfix.DataAggr
open CMem CLoop Transducer

/-- Between calls the selection is fixed and there is a buffer for the message. -/
structure Selecting (position width : UInt16) (state : State) : Prop where
  selects : state.payloadExtrPos = position ∧ state.aggrFieldLen = width
  held : ∃ buf, state.aggrDataBuf = some buf ∧ buf.size = maxMsgSize

/-- The amount by which the byte at an index is shifted, in both loops. -/
def shiftAmount (width : UInt16) (index : Nat) : Nat := 8 * (width.toNat - 1 - index)

/-- The indices read by the split and the first bytes of the field. -/
def readIndices (config : HeaderConfig) (position : UInt16) (count : Nat) : List Nat :=
  List.range config.msgHeaderSize ++ (List.range count).map fun i => config.msgHeaderSize + (position.toNat + i)

theorem convert_total (overshift : Overshift) (config : HeaderConfig) (datagram : Datagram) {state : State}
    (short : state.aggrFieldLen.toNat < 256) :
    ∃ decoding, convert overshift config datagram state = .ok decoding ∧
      decoding.reads = readIndices config state.payloadExtrPos state.aggrFieldLen.toNat ∧
      decoding.shifts = (List.range state.aggrFieldLen.toNat).map (shiftAmount state.aggrFieldLen) := by
  simp only [convert, splitHeader_eq, List.nil_append]
  refine forEach_range (fun done (decoding : Decoding) => decoding.reads = readIndices config state.payloadExtrPos done ∧
    decoding.shifts = (List.range done).map (shiftAmount state.aggrFieldLen)) short ⟨?_, rfl⟩ ?_
  · rw [readIndices, List.range_zero, List.map_nil, List.append_nil]
  · rintro index inside decoding ⟨reads, shifts⟩
    refine ⟨_, rfl, ?_, ?_⟩
    · simp only [decodeByte, readByte, shiftLeft]
      rw [reads, readIndices, readIndices, List.range_succ, List.map_append, List.append_assoc]
      rfl
    · simp only [decodeByte, readByte, shiftLeft]
      rw [shifts, List.range_succ, List.map_append]
      rfl

private theorem encode_total (overshift : Overshift) (config : HeaderConfig) {width : UInt16} (short : width.toNat < 256)
    (value : UInt32) {buf : Region} (size : buf.size = maxMsgSize) (before : Trace) :
    ∃ after trace, forEach (List.range width.toNat) (encodeByte overshift config width value) (buf, before) =
        .ok (after, trace) ∧
      after.size = maxMsgSize ∧ trace.reads = before.reads ∧
      trace.shifts = before.shifts ++ (List.range width.toNat).map (shiftAmount width) := by
  have bounds := config.msgHeaderSize_bounds
  have loop : ∃ current, forEach (List.range width.toNat) (encodeByte overshift config width value) (buf, before) =
      .ok current ∧ current.1.size = maxMsgSize ∧ current.2.reads = before.reads ∧
        current.2.shifts = before.shifts ++ (List.range width.toNat).map (shiftAmount width) := by
    refine forEach_range (fun done (current : Region × Trace) => current.1.size = maxMsgSize ∧
      current.2.reads = before.reads ∧ current.2.shifts = before.shifts ++ (List.range done).map (shiftAmount width))
      short ⟨size, rfl, by simp⟩ ?_
    rintro index inside ⟨current, trace⟩ ⟨sized, reads, shifts⟩
    obtain ⟨next, stored⟩ := (Region.write_ok_iff current (config.msgHeaderSize + index)
      [(overshift.shiftRight value (8 * (width.toNat - 1 - index))).toUInt8]).mpr
      (by rw [List.length_singleton, sized, maxMsgSize]; omega)
    refine ⟨(next, { trace with shifts := trace.shifts ++ [8 * (width.toNat - 1 - index)] }), ?_,
      (Region.write_size stored).trans sized, reads, ?_⟩
    · simp only [encodeByte, shiftRight, Region.store, stored, ok_bind, pure_ok]
    · rw [List.range_succ, List.map_append, ← List.append_assoc]
      exact congrArg (· ++ [shiftAmount width index]) shifts
  obtain ⟨⟨after, trace⟩, executed, kept⟩ := loop
  exact ⟨after, trace, executed, kept⟩

theorem encode_shifts {overshift : Overshift} {config : HeaderConfig} {width : UInt16} {value : UInt32}
    {before after : Region × Trace}
    (executed : forEach (List.range width.toNat) (encodeByte overshift config width value) before = .ok after) :
    ∀ amount ∈ after.2.shifts, amount ∈ before.2.shifts ∨ ∃ index, amount = shiftAmount width index := by
  refine forEach_history (fun _ (current : Region × Trace) => ∀ amount ∈ current.2.shifts,
    amount ∈ before.2.shifts ∨ ∃ index, amount = shiftAmount width index) (fun _ member => .inl member) ?_ executed
  intro _ index _ _ current next held stepped amount member
  obtain ⟨stored, -, last⟩ := bind_inv stepped
  cases last
  rcases List.mem_append.mp member with earlier | added
  · exact held amount earlier
  · exact .inr ⟨index, List.mem_singleton.mp added⟩

private theorem extrLenFromHeader_total {buf : Region} (room : 2 ≤ buf.size) :
    ∃ length, extrLenFromHeader buf = .ok length := by
  rw [extrLenFromHeader, Region.load_ok buf (by omega), Region.load_ok buf (by omega)]
  exact ⟨_, rfl⟩

/-- A call is defined for every datagram, reads the same indices in each, and shifts by the
amounts of both loops. -/
theorem calcAggrPayload_total (overshift : Overshift) (aggrFunc : AggrFunc) (config : HeaderConfig) (degree : Nat)
    {position width : UInt16} (short : width.toNat < 256) (datagram : Datagram) {state : State}
    (selecting : Selecting position width state) :
    ∃ outcome, calcAggrPayload overshift aggrFunc config degree datagram state = .ok outcome ∧
      Selecting position width outcome.state ∧ outcome.reads = readIndices config position width.toNat ∧
      (List.range width.toNat).map (shiftAmount width) <+: outcome.shifts := by
  have bounds := config.msgHeaderSize_bounds
  obtain ⟨⟨rfl, rfl⟩, buf, held, size⟩ := selecting
  obtain ⟨decoding, decoded, reads, shifts⟩ := convert_total overshift config datagram short
  simp only [calcAggrPayload, decoded, ok_bind]
  split
  next closes =>
    have accepted : Accepted dataSetId (UInt16.ofNat (config.msgHeaderSize + state.aggrFieldLen.toNat)) :=
      dataHeader_accepted (by rw [maxMsgSize]; omega)
    have room : config.msgHeaderSize ≤ buf.size := by rw [size, maxMsgSize]; omega
    have headed := buildMsgHeader_ok config buf state.seqNum accepted room
    have headedSize := (headed_size config buf state.seqNum accepted room).trans size
    obtain ⟨after, trace, encoded, afterSize, readsKept, shiftsAdded⟩ := encode_total overshift config short
      (finish aggrFunc degree (accumulate aggrFunc state.dataAggrState state.dataAggrStateMin decoding.converted).1)
      headedSize decoding.toTrace
    obtain ⟨length, read⟩ := extrLenFromHeader_total (show 2 ≤ after.size by rw [afterSize, maxMsgSize]; omega)
    simp only [held, deref_some, ok_bind, headed, encoded, read, pure_ok]
    refine ⟨_, rfl, ⟨⟨rfl, rfl⟩, after, rfl, afterSize⟩, readsKept.trans reads, ?_⟩
    rw [shiftsAdded, shifts]
    exact List.prefix_append _ _
  next continues =>
    refine ⟨_, rfl, ⟨⟨rfl, rfl⟩, buf, held, size⟩, reads, ?_⟩
    rw [shifts]

theorem receiver_calls {overshift : Overshift} {aggrFunc : AggrFunc} {config : HeaderConfig} {degree : Nat}
    {datagram : Datagram} (data : isTemplate datagram = false) {state : State} {outcome : Outcome}
    (executed : calcAggrPayload overshift aggrFunc config degree datagram state = .ok outcome) :
    receiver (step overshift aggrFunc config degree) datagram state = .ok (outcome.state, outcome.sent) := by
  rw [receiver_data _ data, step, executed]
  rfl

theorem run_defined (overshift : Overshift) (aggrFunc : AggrFunc) (config : HeaderConfig) (degree : Nat)
    (position : UInt16) {width : UInt16} (short : width.toNat < 256) (memory : Nat → UInt8) (datagrams : List Datagram) :
    ∃ final sent,
      run (receiver (step overshift aggrFunc config degree)) datagrams (ready position width memory) = .ok (final, sent) ∧
      Selecting position width final := by
  refine run_total (Selecting position width) ?_ datagrams ⟨⟨rfl, rfl⟩, _, rfl, malloc_size _ _⟩
  intro datagram state selecting
  cases template : isTemplate datagram with
  | true => exact ⟨state, [], receiver_template _ template state, selecting⟩
  | false =>
    obtain ⟨outcome, executed, kept, -⟩ := calcAggrPayload_total overshift aggrFunc config degree short datagram selecting
    exact ⟨outcome.state, outcome.sent, receiver_calls template executed, kept⟩

end TinyIpfix.DataAggr
