import TinyIpfix.Proofs.DataAggrCodec
import TinyIpfix.Proofs.Receiver

/-! Whole runs of data aggregation. The static variables follow a machine that collects
datagrams in windows and folds each window from the same start. -/

namespace TinyIpfix.DataAggr
open CMem CLoop Transducer Window Endian

/-- The state `getAggrTemplate` leaves for a field of this position and width. -/
def ready (position width : UInt16) (memory : Nat → UInt8) : State :=
  { initial with aggrFieldLen := width, payloadExtrPos := position, aggrDataBuf := some (malloc maxMsgSize memory) }

/-- The running state and the separate minimum after some values. -/
def folded (aggrFunc : AggrFunc) (values : List UInt32) : UInt32 × UInt32 :=
  values.foldl (fun total value => accumulate aggrFunc total.1 total.2 value) (0, 0xffff)

def converted (config : HeaderConfig) (position width : UInt16) (datagram : Datagram) : UInt32 :=
  UInt32.ofNat (fieldValue config position width datagram)

/-- The value sent for a window. -/
def emitted (aggrFunc : AggrFunc) (degree : Nat) (values : List UInt32) : UInt32 :=
  finish aggrFunc degree (folded aggrFunc values).1

/-- The message for the `index`-th window. -/
def message (config : HeaderConfig) (aggrFunc : AggrFunc) (degree : Nat) (position width : UInt16) (index : Nat)
    (datagrams : List Datagram) : Message :=
  builtHeader config dataSetId (UInt16.ofNat (config.msgHeaderSize + width.toNat)) (UInt16.ofNat index) ++
    encode width.toNat (emitted aggrFunc degree (datagrams.map (converted config position width))).toNat

/-- The state of the code while the datagrams of an open window are folded. -/
structure Folding (config : HeaderConfig) (aggrFunc : AggrFunc) (position width : UInt16) (state : State)
    (collected : Collected Datagram) : Prop where
  counted : state.aggrCount.toNat = collected.pending.length
  numbered : state.seqNum = UInt16.ofNat collected.closed
  selects : state.payloadExtrPos = position ∧ state.aggrFieldLen = width
  held : ∃ buf, state.aggrDataBuf = some buf ∧ buf.size = maxMsgSize
  total : (state.dataAggrState, state.dataAggrStateMin) =
    folded aggrFunc (collected.pending.map (converted config position width))

theorem folding_ready (config : HeaderConfig) (aggrFunc : AggrFunc) (position width : UInt16) (memory : Nat → UInt8) :
    Folding config aggrFunc position width (ready position width memory) (boundary 0) :=
  ⟨rfl, rfl, ⟨rfl, rfl⟩, ⟨_, rfl, malloc_size _ _⟩, rfl⟩

theorem folded_append (aggrFunc : AggrFunc) (values : List UInt32) (value : UInt32) :
    folded aggrFunc (values ++ [value]) =
      accumulate aggrFunc (folded aggrFunc values).1 (folded aggrFunc values).2 value := by
  simp [folded]

theorem fieldHeader_accepted (config : HeaderConfig) {width : UInt16} (narrow : width.toNat ≤ 4) :
    Accepted dataSetId (UInt16.ofNat (config.msgHeaderSize + width.toNat)) := by
  have bounds := config.msgHeaderSize_bounds
  exact dataHeader_accepted (by rw [maxMsgSize]; omega)

theorem message_length (config : HeaderConfig) (aggrFunc : AggrFunc) (degree : Nat) (position : UInt16) {width : UInt16}
    (narrow : width.toNat ≤ 4) (index : Nat) (datagrams : List Datagram) :
    (message config aggrFunc degree position width index datagrams).length = config.msgHeaderSize + width.toNat := by
  rw [message, List.length_append, builtHeader_length config _ (fieldHeader_accepted config narrow), encode_length]

private theorem close_window (overshift : Overshift) (config : HeaderConfig) {width : UInt16} (narrow : width.toNat ≤ 4)
    (seqNum : UInt16) (value : UInt32) {buf : Region} (size : buf.size = maxMsgSize) (before : Trace) :
    ∃ headed after trace, buildMsgHeader config buf dataSetId (UInt16.ofNat (config.msgHeaderSize + width.toNat)) seqNum =
        .ok (0, headed) ∧
      forEach (List.range width.toNat) (encodeByte overshift config width value) (headed, before) = .ok (after, trace) ∧
      extrLenFromHeader after = .ok (UInt8.ofNat (config.msgHeaderSize + width.toNat)) ∧
      after.view (config.msgHeaderSize + width.toNat) =
        builtHeader config dataSetId (UInt16.ofNat (config.msgHeaderSize + width.toNat)) seqNum ++
          encode width.toNat value.toNat ∧
      after.size = maxMsgSize := by
  have bounds := config.msgHeaderSize_bounds
  have accepted := fieldHeader_accepted config narrow
  have headerLength := builtHeader_length config seqNum accepted
  have room : config.msgHeaderSize + width.toNat ≤ buf.size := by rw [size, maxMsgSize]; omega
  have sized := headed_size config buf seqNum accepted (by omega)
  obtain ⟨after, trace, executed, holds, kept⟩ := encode_ok overshift config narrow value headerLength
    (List.prefix_append _ _) (by rw [sized]; exact room) before
  have total : (builtHeader config dataSetId (UInt16.ofNat (config.msgHeaderSize + width.toNat)) seqNum ++
      encode width.toNat value.toNat).length = config.msgHeaderSize + width.toNat := by
    rw [List.length_append, headerLength, encode_length]
  refine ⟨_, after, trace, buildMsgHeader_ok config buf seqNum accepted (by omega), executed, ?_, ?_,
    kept.trans (sized.trans size)⟩
  · rw [extrLenFromHeader_header config accepted ((List.prefix_append _ _).trans holds), UInt16.toUInt8_ofNat']
  · rw [Region.view_prefix _ holds (by rw [total]), List.take_of_length_le (by rw [total])]

/-- What a call does with the value it decoded: folds it, or sends the window it completes
and starts anew. -/
structure Takes (aggrFunc : AggrFunc) (config : HeaderConfig) (degree : Nat) (state : State) (value : UInt32)
    (outcome : Outcome) : Prop where
  folds : (state.aggrCount + 1).toNat ≠ degree → outcome.sent = [] ∧ outcome.state = { state with
    aggrCount := state.aggrCount + 1
    dataAggrState := (accumulate aggrFunc state.dataAggrState state.dataAggrStateMin value).1
    dataAggrStateMin := (accumulate aggrFunc state.dataAggrState state.dataAggrStateMin value).2 }
  sends : (state.aggrCount + 1).toNat = degree →
    outcome.sent = [builtHeader config dataSetId (UInt16.ofNat (config.msgHeaderSize + state.aggrFieldLen.toNat))
        state.seqNum ++ encode state.aggrFieldLen.toNat
          (finish aggrFunc degree (accumulate aggrFunc state.dataAggrState state.dataAggrStateMin value).1).toNat] ∧
      ∃ after : Region, after.size = maxMsgSize ∧ outcome.state = { state with
        aggrDataBuf := some after, aggrCount := 0, seqNum := state.seqNum + 1
        dataAggrState := 0, dataAggrStateMin := 0xffff }

theorem calcAggrPayload_takes (overshift : Overshift) (aggrFunc : AggrFunc) (config : HeaderConfig) (degree : Nat)
    {state : State} (narrow : state.aggrFieldLen.toNat ≤ 4) {buf : Region} (held : state.aggrDataBuf = some buf)
    (size : buf.size = maxMsgSize) {datagram : Datagram}
    (contains : Contains config state.payloadExtrPos state.aggrFieldLen datagram) :
    ∃ outcome, calcAggrPayload overshift aggrFunc config degree datagram state = .ok outcome ∧
      Takes aggrFunc config degree state (converted config state.payloadExtrPos state.aggrFieldLen datagram) outcome := by
  have bounds := config.msgHeaderSize_bounds
  obtain ⟨decoding, decoded, value⟩ := convert_ok overshift state narrow contains
  have input : decoding.converted = converted config state.payloadExtrPos state.aggrFieldLen datagram := by
    rw [converted, ← value, UInt32.ofNat_toNat]
  have length : (UInt8.ofNat (config.msgHeaderSize + state.aggrFieldLen.toNat)).toUInt16.toNat =
      config.msgHeaderSize + state.aggrFieldLen.toNat := by
    rw [UInt8.toNat_toUInt16, UInt8.toNat_ofNat_of_lt' (by simp only [UInt8.size]; omega)]
  simp only [calcAggrPayload, decoded, ok_bind, input]
  split
  next closes =>
    obtain ⟨headed, after, trace, built, encoded, read, sent, afterSize⟩ := close_window overshift config narrow
      state.seqNum (finish aggrFunc degree (accumulate aggrFunc state.dataAggrState state.dataAggrStateMin
        (converted config state.payloadExtrPos state.aggrFieldLen datagram)).1) size decoding.toTrace
    simp only [held, deref_some, ok_bind, built, encoded, read, pure_ok, msgSend, ↓reduceIte, length, sent]
    exact ⟨_, rfl, fun continues => absurd closes continues, fun _ => ⟨rfl, after, afterSize, rfl⟩⟩
  next continues => exact ⟨_, rfl, fun _ => ⟨rfl, rfl⟩, fun closes => absurd closes continues⟩

theorem step_follows (overshift : Overshift) (aggrFunc : AggrFunc) (config : HeaderConfig) {degree : Nat}
    (degreeSmall : degree < 256) {position width : UInt16} (narrow : width.toNat ≤ 4) {state : State}
    {collected : Collected Datagram} (datagram : Datagram)
    (folding : Folding config aggrFunc position width state collected) (opened : collected.pending.length < degree)
    (contains : Contains config position width datagram) :
    ∃ next, step overshift aggrFunc config degree datagram state =
        .ok (next, (push degree (message config aggrFunc degree position width) datagram collected).2) ∧
      Folding config aggrFunc position width next
        (push degree (message config aggrFunc degree position width) datagram collected).1 := by
  obtain ⟨counted, numbered, ⟨rfl, rfl⟩, ⟨buf, held, size⟩, total⟩ := folding
  obtain ⟨⟨trace, next, out⟩, called, takes⟩ :=
    calcAggrPayload_takes overshift aggrFunc config degree narrow held size contains
  have counting := counter_succ counted (by omega)
  have accumulated : accumulate aggrFunc state.dataAggrState state.dataAggrStateMin
      (converted config state.payloadExtrPos state.aggrFieldLen datagram) = folded aggrFunc
      ((collected.pending ++ [datagram]).map (converted config state.payloadExtrPos state.aggrFieldLen)) := by
    rw [List.map_append, List.map_singleton, folded_append, ← total]
  refine ⟨next, ?_, ?_⟩
  · simp only [step, called, ok_bind, pure_ok, push]
    split
    next closes =>
      obtain ⟨rfl, -⟩ := takes.sends (counting.trans closes)
      rw [accumulated, numbered]
      rfl
    next continues =>
      obtain ⟨rfl, -⟩ := takes.folds (by rw [counting]; exact continues)
      rfl
  · simp only [push]
    split
    next closes =>
      obtain ⟨-, after, afterSize, rfl⟩ := takes.sends (counting.trans closes)
      refine ⟨rfl, ?_, ⟨rfl, rfl⟩, ⟨after, rfl, afterSize⟩, rfl⟩
      rw [numbered, UInt16.ofNat_add]
      rfl
    next continues =>
      obtain ⟨-, rfl⟩ := takes.folds (by rw [counting]; exact continues)
      exact ⟨counting.trans (by simp), numbered, ⟨rfl, rfl⟩, ⟨buf, held, size⟩, accumulated⟩

theorem run_follows (overshift : Overshift) (aggrFunc : AggrFunc) (config : HeaderConfig) {degree : Nat}
    (positive : 1 ≤ degree) (small : degree ≤ 255) {position width : UInt16} (narrow : width.toNat ≤ 4)
    (memory : Nat → UInt8) (datagrams : List Datagram)
    (contains : ∀ datagram ∈ datagrams, Contains config position width datagram) :
    ∃ final, run (step overshift aggrFunc config degree) datagrams (ready position width memory) =
        .ok (final, (play (push degree (message config aggrFunc degree position width)) datagrams (boundary 0)).2) ∧
      Folding config aggrFunc position width final
        (play (push degree (message config aggrFunc degree position width)) datagrams (boundary 0)).1 := by
  apply run_simulates _ (folding_ready config aggrFunc position width memory)
  intro before datagram after shape current folding
  exact step_follows overshift aggrFunc config (by omega) narrow datagram folding (pending_lt positive _ 0 before)
    (contains datagram (by simp [shape]))

/-- Every complete window is sent as one message that depends on nothing but its own
fields and its number. -/
theorem run_folds (overshift : Overshift) (aggrFunc : AggrFunc) (config : HeaderConfig) {degree : Nat}
    (positive : 1 ≤ degree) (small : degree ≤ 255) {position width : UInt16} (narrow : width.toNat ≤ 4)
    (memory : Nat → UInt8) (datagrams : List Datagram)
    (contains : ∀ datagram ∈ datagrams, Contains config position width datagram) :
    ∃ final, run (step overshift aggrFunc config degree) datagrams (ready position width memory) =
      .ok (final, (List.range (datagrams.length / degree)).map fun index =>
        message config aggrFunc degree position width index (window degree datagrams index)) := by
  obtain ⟨final, executed, -⟩ := run_follows overshift aggrFunc config positive small narrow memory datagrams contains
  refine ⟨final, ?_⟩
  rw [executed, play_push positive]
  simp only [Nat.zero_add]

theorem max_toNat (a b : UInt32) : (DataAggr.max a b).toNat = max a.toNat b.toNat := by
  unfold DataAggr.max
  split
  next greater => have less := UInt32.lt_iff_toNat_lt.mp greater; omega
  next notGreater => have less := mt UInt32.lt_iff_toNat_lt.mpr notGreater; omega

theorem min_toNat (a b : UInt32) : (DataAggr.min a b).toNat = min a.toNat b.toNat := by
  unfold DataAggr.min
  split
  next less => have below := UInt32.lt_iff_toNat_lt.mp less; omega
  next notLess => have below := mt UInt32.lt_iff_toNat_lt.mpr notLess; omega

private theorem max_right_comm (a b c : UInt32) :
    DataAggr.max (DataAggr.max a b) c = DataAggr.max (DataAggr.max a c) b := by
  apply UInt32.toNat_inj.mp
  simp only [max_toNat]
  omega

private theorem min_right_comm (a b c : UInt32) :
    DataAggr.min (DataAggr.min a b) c = DataAggr.min (DataAggr.min a c) b := by
  apply UInt32.toNat_inj.mp
  simp only [min_toNat]
  omega

private theorem add_right_comm (a b c : UInt32) : a + b + c = a + c + b := by
  rw [UInt32.add_assoc, UInt32.add_comm b, ← UInt32.add_assoc]

/-- Two values may be folded in either order, also when the sum wraps. -/
theorem accumulate_comm (aggrFunc : AggrFunc) (total : UInt32 × UInt32) (first second : UInt32) :
    accumulate aggrFunc (accumulate aggrFunc total.1 total.2 first).1 (accumulate aggrFunc total.1 total.2 first).2 second =
      accumulate aggrFunc (accumulate aggrFunc total.1 total.2 second).1 (accumulate aggrFunc total.1 total.2 second).2
        first := by
  cases aggrFunc with
  | avg => simp only [accumulate, add_right_comm total.1]
  | max => simp only [accumulate, max_right_comm total.1]
  | min => simp only [accumulate, min_right_comm total.2]

private theorem emitted_perm (aggrFunc : AggrFunc) (degree : Nat) {first second : List UInt32} (same : first.Perm second) :
    emitted aggrFunc degree first = emitted aggrFunc degree second := by
  have folds : folded aggrFunc first = folded aggrFunc second := by
    apply same.foldl_eq'
    intro left _ right _ total
    exact accumulate_comm aggrFunc total left right
  rw [emitted, emitted, folds]

private theorem message_perm (config : HeaderConfig) (aggrFunc : AggrFunc) (degree : Nat) (position width : UInt16) (index : Nat)
    {first second : List Datagram}
    (same : (first.map (selected config position width)).Perm (second.map (selected config position width))) :
    message config aggrFunc degree position width index first =
      message config aggrFunc degree position width index second := by
  have values := same.map fun bytes => UInt32.ofNat (decode bytes)
  simp only [List.map_map] at values
  rw [message, message]
  exact congrArg (fun value : UInt32 => _ ++ encode width.toNat value.toNat) (emitted_perm aggrFunc degree values)

/-- Two runs send the same message for a window in which the selected fields are the
same up to their order, whatever else they received. -/
theorem runs_agree_on_window (overshift : Overshift) (aggrFunc : AggrFunc) (config : HeaderConfig) (degree : Nat)
    (positive : 1 ≤ degree) (small : degree ≤ 255) (position width : UInt16) (narrow : width.toNat ≤ 4)
    (memory memory' : Nat → UInt8) (first second : List Datagram)
    (firstContains : ∀ datagram ∈ first, Contains config position width datagram)
    (secondContains : ∀ datagram ∈ second, Contains config position width datagram) (index : Nat)
    (firstComplete : index < first.length / degree) (secondComplete : index < second.length / degree)
    (same : ((window degree first index).map (selected config position width)).Perm
      ((window degree second index).map (selected config position width))) :
    ∃ final final' sent sent' message,
      run (step overshift aggrFunc config degree) first (ready position width memory) = .ok (final, sent) ∧
      run (step overshift aggrFunc config degree) second (ready position width memory') = .ok (final', sent') ∧
      sent[index]? = some message ∧ sent'[index]? = some message := by
  obtain ⟨final, executed⟩ := run_folds overshift aggrFunc config positive small narrow memory first firstContains
  obtain ⟨final', executed'⟩ := run_folds overshift aggrFunc config positive small narrow memory' second secondContains
  refine ⟨final, final', _, _, message config aggrFunc degree position width index (window degree first index), executed,
    executed', by simp [firstComplete], ?_⟩
  rw [message_perm config aggrFunc degree position width index same]
  simp [secondComplete]

/-- A datagram with one byte in front of the selected one. -/
def sampleField (front value : UInt8) : Datagram :=
  ⟨⟨[0x08, 0x05, 0x00, front, value], fun _ => 0⟩, by simp [Region.size], by simp [Region.size]⟩

theorem sample_runs_agree : ∃ final final' sent sent' message,
    run (step ⟨fun _ _ => 0, fun _ _ => 0⟩ .avg HeaderConfig.sky 2)
      [sampleField 0 1, sampleField 0 2, sampleField 0 7, sampleField 0 9] (ready 1 1 fun _ => 0) = .ok (final, sent) ∧
    run (step ⟨fun _ _ => 0, fun _ _ => 0⟩ .avg HeaderConfig.sky 2)
      [sampleField 3 5, sampleField 3 6, sampleField 4 9, sampleField 5 7] (ready 1 1 fun _ => 9) = .ok (final', sent') ∧
    sent[1]? = some message ∧ sent'[1]? = some message :=
  runs_agree_on_window ⟨fun _ _ => 0, fun _ _ => 0⟩ .avg HeaderConfig.sky 2 (by decide) (by decide) 1 1 (by decide)
    (fun _ => 0) (fun _ => 9) _ _ (by decide) (by decide) 1 (by decide) (by decide) (by decide)

end TinyIpfix.DataAggr
