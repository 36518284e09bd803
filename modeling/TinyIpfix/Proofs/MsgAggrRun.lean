import TinyIpfix.MsgAggr
import TinyIpfix.Proofs.HeaderCodec
import TinyIpfix.Proofs.Receiver
import Mathlib.Data.List.Flatten

/-! Whole runs of message aggregation. The buffer, the write position and the two
counters follow a machine that only collects datagrams in windows. -/

namespace TinyIpfix.MsgAggr
open CMem CLoop Transducer Window

def payload (config : HeaderConfig) (datagram : Datagram) : List UInt8 :=
  datagram.data.bytes.drop config.msgHeaderSize

def payloads (config : HeaderConfig) (datagrams : List Datagram) : List UInt8 :=
  datagrams.flatMap (payload config)

def messageLength (config : HeaderConfig) (datagrams : List Datagram) : Nat :=
  config.msgHeaderSize + (payloads config datagrams).length

def frame (config : HeaderConfig) (seqNum : UInt16) (datagrams : List Datagram) : Message :=
  builtHeader config dataSetId (UInt16.ofNat (messageLength config datagrams)) seqNum ++ payloads config datagrams

/-- The aggregated message of the `index`-th window. -/
def message (config : HeaderConfig) (index : Nat) (datagrams : List Datagram) : Message :=
  frame config (UInt16.ofNat index) datagrams

/-- The state of the code while the datagrams of an open window are pending. -/
structure Collecting (config : HeaderConfig) (state : State) (collected : Collected Datagram) : Prop where
  counted : state.aggrCount.toNat = collected.pending.length
  placed : state.position.toNat = messageLength config collected.pending
  numbered : state.seqNum = UInt16.ofNat collected.closed
  sized : state.aggrDataBuf.size = maxMsgSize
  filled : ∃ front, front.length = config.msgHeaderSize ∧
    front ++ payloads config collected.pending <+: state.aggrDataBuf.bytes

@[simp] theorem payloads_append (config : HeaderConfig) (datagrams : List Datagram) (datagram : Datagram) :
    payloads config (datagrams ++ [datagram]) = payloads config datagrams ++ payload config datagram := by
  simp [payloads]

theorem payload_length (config : HeaderConfig) (datagram : Datagram) :
    (payload config datagram).length = datagram.data.size - config.msgHeaderSize :=
  List.length_drop

theorem messageLength_append (config : HeaderConfig) (datagrams : List Datagram) (datagram : Datagram) :
    messageLength config (datagrams ++ [datagram]) =
      messageLength config datagrams + (datagram.data.size - config.msgHeaderSize) := by
  rw [messageLength, messageLength, payloads_append, List.length_append, payload_length, Nat.add_assoc]

private theorem frame_length (config : HeaderConfig) (seqNum : UInt16) {datagrams : List Datagram}
    (fits : messageLength config datagrams ≤ maxMsgSize) :
    (frame config seqNum datagrams).length = messageLength config datagrams := by
  rw [frame, List.length_append, builtHeader_length config seqNum (dataHeader_accepted fits), messageLength]

theorem position_moves (config : HeaderConfig) {position : UInt16} {datagram : Datagram}
    (headed : config.msgHeaderSize ≤ datagram.data.size)
    (room : position.toNat + (datagram.data.size - config.msgHeaderSize) ≤ maxMsgSize) :
    (position + (datagram.datalen - UInt16.ofNat config.msgHeaderSize)).toNat =
      position.toNat + (datagram.data.size - config.msgHeaderSize) := by
  have bounds := config.msgHeaderSize_bounds
  simp only [maxMsgSize] at room
  rw [UInt16.toNat_add, UInt16.toNat_sub, datagram.datalen_toNat, config.msgHeaderSize_toNat]
  omega

theorem collecting_initial (config : HeaderConfig) (beyond : Nat → UInt8) :
    Collecting config (initial config beyond) (boundary 0) := by
  have bounds := config.msgHeaderSize_bounds
  refine ⟨rfl, ?_, rfl, by simp [initial, Region.size], List.replicate config.msgHeaderSize 0, by simp, ?_⟩
  · simp only [initial, messageLength, payloads, boundary, List.flatMap_nil, List.length_nil, Nat.add_zero]
    exact config.msgHeaderSize_toNat
  · rw [payloads, boundary, List.flatMap_nil, List.append_nil, initial, List.prefix_replicate_iff]
    exact ⟨by simp [maxMsgSize]; omega, by simp⟩

private theorem copy_payload (config : HeaderConfig) {state : State} {collected : Collected Datagram} (datagram : Datagram)
    (collecting : Collecting config state collected) (headed : config.msgHeaderSize ≤ datagram.data.size)
    (fits : messageLength config (collected.pending ++ [datagram]) ≤ maxMsgSize) :
    ∃ buf front, memcpy state.aggrDataBuf state.position.toNat (splitPacket config datagram.data).payload 0
        ((datagram.datalen.toNat : Int) - config.msgHeaderSize) = .ok buf ∧
      buf.size = maxMsgSize ∧ front.length = config.msgHeaderSize ∧
      front ++ payloads config (collected.pending ++ [datagram]) <+: buf.bytes := by
  obtain ⟨front, frontLength, filled⟩ := collecting.filled
  have copied : (((datagram.datalen.toNat : Int) - config.msgHeaderSize).toNat) =
      datagram.data.size - config.msgHeaderSize := by
    rw [datagram.datalen_toNat]
    omega
  have position : state.position.toNat = (front ++ payloads config collected.pending).length := by
    rw [collecting.placed, messageLength, List.length_append, frontLength]
  have source : (splitPacket config datagram.data).payload.bytes = payload config datagram := rfl
  have sourceSize : (splitPacket config datagram.data).payload.size = datagram.data.size - config.msgHeaderSize :=
    payload_length config datagram
  rw [messageLength_append] at fits
  have room : (front ++ payloads config collected.pending).length + (payload config datagram).length ≤
      state.aggrDataBuf.size := by
    rw [← position, collecting.placed, payload_length, collecting.sized]
    exact fits
  obtain ⟨buf, written, holds, size, -⟩ := Region.write_extends _ filled room
  refine ⟨buf, front, ?_, size.trans collecting.sized, frontLength, ?_⟩
  · rw [memcpy_ok (by rw [datagram.datalen_toNat]; omega) (by rw [copied, sourceSize]; omega), copied, source,
      List.drop_zero, ← payload_length, List.take_length, position]
    exact written
  · rw [payloads_append, ← List.append_assoc]
    exact holds

private theorem write_header (config : HeaderConfig) (datagrams : List Datagram) (buf : Region) (seqNum : UInt16)
    {front : List UInt8} (fits : messageLength config datagrams ≤ maxMsgSize) (size : buf.size = maxMsgSize)
    (frontLength : front.length = config.msgHeaderSize) (filled : front ++ payloads config datagrams <+: buf.bytes) :
    ∃ after, buildMsgHeader config buf dataSetId (UInt16.ofNat (messageLength config datagrams)) seqNum = .ok (0, after) ∧
      frame config seqNum datagrams <+: after.bytes ∧ after.size = maxMsgSize := by
  have bounds := config.msgHeaderSize_bounds
  have accepted := dataHeader_accepted fits
  have room : config.msgHeaderSize ≤ buf.size := by rw [size, maxMsgSize]; omega
  refine ⟨_, buildMsgHeader_ok config buf seqNum accepted room, ?_, ?_⟩
  · obtain ⟨rest, bytes⟩ := filled
    rw [← bytes, List.append_assoc front, List.drop_left' frontLength]
    exact (List.prefix_append_right_inj _).mpr (List.prefix_append _ _)
  · rw [headed_size config buf seqNum accepted room, size]

/-- One data datagram moves the code as it moves the collecting machine. -/
theorem calcAggrPayload_follows (config : HeaderConfig) {degree : Nat} (degreeSmall : degree < 256) {state : State}
    {collected : Collected Datagram} (datagram : Datagram) (collecting : Collecting config state collected)
    (opened : collected.pending.length < degree) (headed : config.msgHeaderSize ≤ datagram.data.size)
    (fits : messageLength config (collected.pending ++ [datagram]) ≤ maxMsgSize) :
    ∃ next, calcAggrPayload config degree datagram state =
        .ok (next, (push degree (message config) datagram collected).2) ∧
      Collecting config next (push degree (message config) datagram collected).1 := by
  have bounds := config.msgHeaderSize_bounds
  obtain ⟨buf, front, copied, size, frontLength, filled⟩ := copy_payload config datagram collecting headed fits
  have counted := counter_succ collecting.counted (by omega)
  have placed : (state.position + (datagram.datalen - UInt16.ofNat config.msgHeaderSize)).toNat =
      messageLength config (collected.pending ++ [datagram]) := by
    rw [messageLength_append, ← collecting.placed] at fits ⊢
    exact position_moves config headed fits
  simp only [calcAggrPayload, copied, ok_bind, counted, push]
  split
  next closes =>
    have sending : state.position + (datagram.datalen - UInt16.ofNat config.msgHeaderSize) =
        UInt16.ofNat (messageLength config (collected.pending ++ [datagram])) := by
      rw [← placed, UInt16.ofNat_toNat]
    obtain ⟨after, rewritten, holds, afterSize⟩ := write_header config (collected.pending ++ [datagram]) buf
      state.seqNum fits size frontLength filled
    refine ⟨⟨0, UInt16.ofNat config.msgHeaderSize, state.seqNum + 1, after⟩, ?_, rfl, ?_, ?_, afterSize, ?_⟩
    · rw [message, ← collecting.numbered, sending, rewritten]
      simp only [ok_bind, pure_ok, msgSend, ↓reduceIte, ← sending, placed]
      rw [Region.view_prefix _ holds (by rw [frame_length config _ fits]), ← frame_length config state.seqNum fits,
        List.take_length]
    · rw [messageLength, payloads, List.flatMap_nil, List.length_nil, Nat.add_zero, config.msgHeaderSize_toNat]
    · rw [collecting.numbered, UInt16.ofNat_add]
      rfl
    · refine ⟨_, builtHeader_length config state.seqNum (dataHeader_accepted fits), ?_⟩
      rw [payloads, List.flatMap_nil, List.append_nil]
      exact (List.prefix_append _ _).trans holds
  next continues =>
    refine ⟨_, rfl, ⟨counted.trans (by simp), placed, collecting.numbered, size, front, frontLength, filled⟩⟩

theorem message_length (config : HeaderConfig) (index : Nat) {datagrams : List Datagram}
    (fits : messageLength config datagrams ≤ maxMsgSize) :
    (message config index datagrams).length = messageLength config datagrams :=
  frame_length config _ fits

private theorem message_header (config : HeaderConfig) (index : Nat) {datagrams : List Datagram}
    (fits : messageLength config datagrams ≤ maxMsgSize) :
    (readHeader ((message config index datagrams).take config.msgHeaderSize)).map HeaderFields.length =
      some (messageLength config datagrams) := by
  have accepted := dataHeader_accepted fits
  have small : messageLength config datagrams < UInt16.size := by
    simp only [maxMsgSize] at fits
    simp only [UInt16.size]
    omega
  rw [message, frame, List.take_left' (builtHeader_length config _ accepted), builtHeader_eq config _ accepted,
    readHeader_headerBytes config _ accepted, Option.map_some, UInt16.toNat_ofNat_of_lt' small]

theorem payloads_length (config : HeaderConfig) (datagrams : List Datagram) :
    (payloads config datagrams).length =
      (datagrams.map fun datagram => datagram.data.size - config.msgHeaderSize).sum := by
  simp only [payloads, List.length_flatMap, payload_length]

theorem messageLength_mono (config : HeaderConfig) {first second : List Datagram} (part : first.Sublist second) :
    messageLength config first ≤ messageLength config second :=
  Nat.add_le_add_left (part.flatMap (payload config)).length_le _

theorem run_collects (config : HeaderConfig) {degree : Nat} (positive : 1 ≤ degree) (small : degree ≤ 255)
    {state : State} {closed : Nat} (collecting : Collecting config state (boundary closed)) (datagrams : List Datagram)
    (headed : ∀ datagram ∈ datagrams, config.msgHeaderSize ≤ datagram.data.size)
    (fits : ∀ index, messageLength config (window degree datagrams index) ≤ maxMsgSize) :
    ∃ final, run (calcAggrPayload config degree) datagrams state =
        .ok (final, (play (push degree (message config)) datagrams (boundary closed)).2) ∧
      Collecting config final (play (push degree (message config)) datagrams (boundary closed)).1 := by
  apply run_simulates (Collecting config) collecting
  intro before datagram after shape current related
  have opens := pending_prefix positive (message config) closed before datagram after
  rw [← shape] at opens
  exact calcAggrPayload_follows config (by omega) datagram related (pending_lt positive _ closed before)
    (headed datagram (by simp [shape])) ((messageLength_mono config opens.sublist).trans (fits _))

/-- Every complete window of data datagrams is sent as one message with the payloads
of just these datagrams, under consecutive sequence numbers, and nothing else is sent. -/
theorem run_sends_windows (config : HeaderConfig) (degree : Nat) (positive : 1 ≤ degree) (small : degree ≤ 255)
    (beyond : Nat → UInt8) (datagrams : List Datagram)
    (headed : ∀ datagram ∈ datagrams, isTemplate datagram = false → config.msgHeaderSize ≤ datagram.data.size)
    (fits : ∀ index, ((window degree (dataDatagrams datagrams) index).map
      fun datagram => datagram.data.size - config.msgHeaderSize).sum ≤ maxMsgSize - config.msgHeaderSize) :
    (∃ final, run (receiver (calcAggrPayload config degree)) datagrams (initial config beyond) =
      .ok (final, (List.range ((dataDatagrams datagrams).length / degree)).map fun index =>
        message config index (window degree (dataDatagrams datagrams) index))) ∧
    ∀ index,
      (message config index (window degree (dataDatagrams datagrams) index)).length =
        messageLength config (window degree (dataDatagrams datagrams) index) ∧
      (readHeader ((message config index (window degree (dataDatagrams datagrams) index)).take
        config.msgHeaderSize)).map HeaderFields.length =
        some (messageLength config (window degree (dataDatagrams datagrams) index)) := by
  have bounds := config.msgHeaderSize_bounds
  have room : ∀ index, messageLength config (window degree (dataDatagrams datagrams) index) ≤ maxMsgSize := by
    intro index
    have total := fits index
    rw [← payloads_length] at total
    rw [messageLength]
    simp only [maxMsgSize] at total ⊢
    omega
  refine ⟨?_, fun index => ⟨message_length config index (room index), message_header config index (room index)⟩⟩
  have received : ∀ datagram ∈ dataDatagrams datagrams, config.msgHeaderSize ≤ datagram.data.size := by
    intro datagram member
    obtain ⟨arrived, data⟩ := mem_dataDatagrams.mp member
    exact headed datagram arrived data
  obtain ⟨final, executed, -⟩ := run_collects config positive small (collecting_initial config beyond) _ received room
  refine ⟨final, ?_⟩
  rw [run_receiver, executed, play_push positive]
  simp only [Nat.zero_add]

def sampleDatagrams : List Datagram :=
  [⟨⟨[0x04, 0x07, 0xff], fun _ => 0⟩, by simp [Region.size], by simp [Region.size]⟩,
    ⟨⟨[0x08, 0x05, 0x07, 1, 2], fun _ => 0⟩, by simp [Region.size], by simp [Region.size]⟩,
    ⟨⟨[0x08, 0x04, 0x09, 3], fun _ => 0⟩, by simp [Region.size], by simp [Region.size]⟩]

theorem sample_run : ∃ final, run (receiver (calcAggrPayload HeaderConfig.sky 2)) sampleDatagrams
    (initial HeaderConfig.sky fun _ => 0) = .ok (final, [[0x08, 0x06, 0x00, 1, 2, 3]]) :=
  (run_sends_windows HeaderConfig.sky 2 (by decide) (by decide) (fun _ => 0) sampleDatagrams (by decide) (by
    intro index
    match index with
    | 0 => decide
    | index + 1 =>
      have done : window 2 (dataDatagrams sampleDatagrams) (index + 1) = [] := by
        rw [window, List.drop_of_length_le, List.take_nil]
        show 2 ≤ _
        omega
      rw [done]
      decide)).1

end TinyIpfix.MsgAggr
