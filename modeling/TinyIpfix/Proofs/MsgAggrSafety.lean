import TinyIpfix.Proofs.MsgAggrRun

/-! Which runs of message aggregation stay inside the buffer. Nothing in the code
compares the length of a datagram with the header or with the space left, so the
condition is one on the datagrams that arrive. -/

namespace TinyIpfix.MsgAggr
open CMem Transducer Window

/-- The datagram has a header and its payload fits behind what is already collected. -/
structure Fits (config : HeaderConfig) (state : State) (datagram : Datagram) : Prop where
  headed : config.msgHeaderSize ≤ datagram.data.size
  room : state.position.toNat + (datagram.data.size - config.msgHeaderSize) ≤ maxMsgSize

structure Inside (config : HeaderConfig) (state : State) : Prop where
  lower : config.msgHeaderSize ≤ state.position.toNat
  upper : state.position.toNat ≤ maxMsgSize
  sized : state.aggrDataBuf.size = maxMsgSize

/-- The message carries a header that was accepted and written for its own length and
the current sequence number. -/
structure HeaderWritten (config : HeaderConfig) (state : State) (message : Message) : Prop where
  accepted : Accepted dataSetId (UInt16.ofNat message.length)
  short : message.length ≤ maxMsgSize
  written : message.take config.msgHeaderSize = builtHeader config dataSetId (UInt16.ofNat message.length) state.seqNum

private theorem inside_initial (config : HeaderConfig) (beyond : Nat → UInt8) : Inside config (initial config beyond) := by
  have bounds := config.msgHeaderSize_bounds
  refine ⟨?_, ?_, by simp [initial, Region.size]⟩
  · rw [initial, config.msgHeaderSize_toNat]
  · rw [initial, config.msgHeaderSize_toNat, maxMsgSize]
    omega

private theorem memcpy_ok_iff_fits (config : HeaderConfig) {state : State} (datagram : Datagram)
    (inside : Inside config state) :
    (∃ buf, memcpy state.aggrDataBuf state.position.toNat (splitPacket config datagram.data).payload 0
        ((datagram.datalen.toNat : Int) - config.msgHeaderSize) = .ok buf) ↔ Fits config state datagram := by
  have upper := inside.upper
  rw [memcpy_ok_iff, datagram.datalen_toNat, inside.sized]
  simp only [splitPacket, Region.advance_size]
  constructor
  · rintro ⟨headed, -, room⟩
    exact ⟨by omega, by omega⟩
  · rintro ⟨headed, room⟩
    exact ⟨by omega, by omega, by omega⟩

/-- What a step of the code can be: the copy succeeded, the position moved by the
payload, and a message was sent if this datagram closed the window. -/
theorem calcAggrPayload_inv {config : HeaderConfig} {degree : Nat} {datagram : Datagram} {state next : State}
    {sent : List Message} (executed : calcAggrPayload config degree datagram state = .ok (next, sent)) :
    ∃ buf, memcpy state.aggrDataBuf state.position.toNat (splitPacket config datagram.data).payload 0
        ((datagram.datalen.toNat : Int) - config.msgHeaderSize) = .ok buf ∧
      (((state.aggrCount + 1).toNat ≠ degree ∧ sent = [] ∧ next = ⟨state.aggrCount + 1,
          state.position + (datagram.datalen - UInt16.ofNat config.msgHeaderSize), state.seqNum, buf⟩) ∨
        (state.aggrCount + 1).toNat = degree ∧ ∃ code after, buildMsgHeader config buf dataSetId
            (state.position + (datagram.datalen - UInt16.ofNat config.msgHeaderSize)) state.seqNum = .ok (code, after) ∧
          next = ⟨0, UInt16.ofNat config.msgHeaderSize, state.seqNum + 1, after⟩ ∧
          sent = [after.view (state.position + (datagram.datalen - UInt16.ofNat config.msgHeaderSize)).toNat]) := by
  obtain ⟨buf, copied, rest⟩ := bind_inv executed
  refine ⟨buf, copied, ?_⟩
  split at rest
  next closes =>
    right
    obtain ⟨⟨code, after⟩, built, last⟩ := bind_inv rest
    cases last
    exact ⟨closes, code, after, built, rfl, rfl⟩
  next continues =>
    left
    cases rest
    exact ⟨continues, rfl, rfl⟩

private theorem calcAggrPayload_ok (config : HeaderConfig) (degree : Nat) {state : State} {datagram : Datagram}
    (inside : Inside config state) (fits : Fits config state datagram) :
    ∃ next sent, calcAggrPayload config degree datagram state = .ok (next, sent) := by
  have bounds := config.msgHeaderSize_bounds
  obtain ⟨buf, copied⟩ := (memcpy_ok_iff_fits config datagram inside).mpr fits
  have size : buf.size = maxMsgSize := (memcpy_size copied).trans inside.sized
  have placed := position_moves config fits.headed fits.room
  have accepted : Accepted dataSetId (state.position + (datagram.datalen - UInt16.ofNat config.msgHeaderSize)) :=
    ⟨by decide, by rw [placed]; exact fits.room⟩
  simp only [calcAggrPayload, copied, ok_bind]
  split
  · rw [buildMsgHeader_ok config buf state.seqNum accepted (by rw [size, maxMsgSize]; omega)]
    exact ⟨_, _, rfl⟩
  · exact ⟨_, _, rfl⟩

private theorem headerWritten_view {config : HeaderConfig} {state : State} {position : UInt16} {buf : Region}
    (accepted : Accepted dataSetId position) (covers : config.msgHeaderSize ≤ position.toNat)
    (inside : position.toNat ≤ buf.size) (starts : builtHeader config dataSetId position state.seqNum <+: buf.bytes) :
    HeaderWritten config state (buf.view position.toNat) := by
  have length : UInt16.ofNat (buf.view position.toNat).length = position := by
    rw [Region.view_length, UInt16.ofNat_toNat]
  refine ⟨by rw [length]; exact accepted, by rw [Region.view_length]; exact accepted.2, ?_⟩
  rw [length, Region.view_take buf inside, List.take_take, Nat.min_eq_left covers,
    ← builtHeader_length config state.seqNum accepted, ← List.prefix_iff_eq_take.mp starts]

/-- A step that succeeds was given a datagram that fits, keeps the position inside the
buffer and sends only what it wrote a header for. -/
theorem calcAggrPayload_inside {config : HeaderConfig} {degree : Nat} {datagram : Datagram} {state next : State}
    {sent : List Message} (inside : Inside config state)
    (executed : calcAggrPayload config degree datagram state = .ok (next, sent)) :
    Fits config state datagram ∧ Inside config next ∧ ∀ message ∈ sent, HeaderWritten config state message := by
  have bounds := config.msgHeaderSize_bounds
  obtain ⟨buf, copied, outcome⟩ := calcAggrPayload_inv executed
  have fits : Fits config state datagram := (memcpy_ok_iff_fits config datagram inside).mp ⟨buf, copied⟩
  have size : buf.size = maxMsgSize := (memcpy_size copied).trans inside.sized
  have placed := position_moves config fits.headed fits.room
  have room := fits.room
  have lower := inside.lower
  refine ⟨fits, ?_⟩
  rcases outcome with ⟨-, rfl, rfl⟩ | ⟨-, code, after, built, rfl, rfl⟩
  · exact ⟨⟨by rw [placed]; omega, by rw [placed]; exact room, size⟩, by simp⟩
  · have accepted : Accepted dataSetId (state.position + (datagram.datalen - UInt16.ofNat config.msgHeaderSize)) :=
      ⟨by decide, by rw [placed]; exact room⟩
    have headerRoom : config.msgHeaderSize ≤ buf.size := by rw [size, maxMsgSize]; omega
    have start := inside_initial config fun _ => 0
    rw [buildMsgHeader_ok config buf state.seqNum accepted headerRoom] at built
    cases built
    have total := headed_size config buf state.seqNum accepted headerRoom
    refine ⟨⟨start.lower, start.upper, total.trans size⟩, ?_⟩
    intro message member
    obtain rfl := List.mem_singleton.mp member
    exact headerWritten_view accepted (by rw [placed]; omega) (by rw [total, size]; exact accepted.2)
      (List.prefix_append _ _)

private theorem receiver_inside {config : HeaderConfig} {degree : Nat} {datagram : Datagram} {state next : State}
    {sent : List Message} (inside : Inside config state)
    (executed : receiver (calcAggrPayload config degree) datagram state = .ok (next, sent)) :
    (isTemplate datagram = false → Fits config state datagram) ∧ Inside config next ∧
      ∀ message ∈ sent, HeaderWritten config state message := by
  obtain ⟨template, rfl, rfl⟩ | ⟨-, stepped⟩ := receiver_inv executed
  · exact ⟨fun data => absurd template (by simp [data]), inside, by simp⟩
  · obtain ⟨fits, kept, framed⟩ := calcAggrPayload_inside inside stepped
    exact ⟨fun _ => fits, kept, framed⟩

private theorem receiver_ok (config : HeaderConfig) (degree : Nat) {state : State} {datagram : Datagram}
    (inside : Inside config state) (fits : isTemplate datagram = false → Fits config state datagram) :
    ∃ next sent, receiver (calcAggrPayload config degree) datagram state = .ok (next, sent) := by
  cases template : isTemplate datagram with
  | true => exact ⟨state, [], receiver_template _ template state⟩
  | false =>
    rw [receiver_data _ template]
    exact calcAggrPayload_ok config degree inside (fits template)

/-- The states of a run are those its prefixes reach. -/
def Reaches (config : HeaderConfig) (degree : Nat) (beyond : Nat → UInt8) (datagrams : List Datagram) (state : State) :
    Prop :=
  ∃ sent, run (receiver (calcAggrPayload config degree)) datagrams (initial config beyond) = .ok (state, sent)

theorem Reaches.inside {config : HeaderConfig} {degree : Nat} {beyond : Nat → UInt8} {datagrams : List Datagram}
    {state : State} (reached : Reaches config degree beyond datagrams state) : Inside config state := by
  obtain ⟨sent, executed⟩ := reached
  refine run_invariant (Inside config) ?_ (inside_initial config beyond) executed
  intro datagram _ current next out inside stepped
  exact (receiver_inside inside stepped).2.1

/-- The run stays defined, which for each copy means a length that is not negative, a
source inside the datagram and a target inside the buffer; the position stays between
the header and the end of the buffer; every message sent has its header. -/
structure Safe (config : HeaderConfig) (degree : Nat) (beyond : Nat → UInt8) (datagrams : List Datagram) : Prop where
  defined : ∀ before after, datagrams = before ++ after → ∃ state, Reaches config degree beyond before state
  position : ∀ before after, datagrams = before ++ after → ∀ state, Reaches config degree beyond before state →
    config.msgHeaderSize ≤ state.position.toNat ∧ state.position.toNat ≤ maxMsgSize
  framed : ∀ before datagram after, datagrams = before ++ datagram :: after → ∀ state,
    Reaches config degree beyond before state → ∀ next sent,
    receiver (calcAggrPayload config degree) datagram state = .ok (next, sent) →
    ∀ message ∈ sent, HeaderWritten config state message

/-- A run that stays defined is safe, for nothing else is written or sent. -/
theorem safe_of_defined {config : HeaderConfig} {degree : Nat} {beyond : Nat → UInt8} {datagrams : List Datagram}
    (defined : ∀ before after, datagrams = before ++ after → ∃ state, Reaches config degree beyond before state) :
    Safe config degree beyond datagrams := by
  refine ⟨defined, ?_, ?_⟩
  · intro before after _ state reached
    exact ⟨reached.inside.lower, reached.inside.upper⟩
  · intro before datagram after _ state reached next sent stepped
    exact (receiver_inside reached.inside stepped).2.2

/-- Message aggregation is safe in exactly the runs in which every data datagram has a
header and fits behind the payloads collected before it. -/
theorem safe_iff_datagrams_fit (config : HeaderConfig) (degree : Nat) (beyond : Nat → UInt8)
    (datagrams : List Datagram) :
    Safe config degree beyond datagrams ↔
      ∀ before datagram after, datagrams = before ++ datagram :: after → isTemplate datagram = false →
        ∀ state, Reaches config degree beyond before state → Fits config state datagram := by
  constructor
  · intro safe before datagram after shape data state reached
    obtain ⟨final, sent, executed⟩ := safe.defined (before ++ [datagram]) after (by simp [shape])
    obtain ⟨middle, first, second, head, tail, -⟩ := run_append_inv executed
    obtain ⟨early, reaching⟩ := reached
    cases head.symm.trans reaching
    obtain ⟨next, out, rest, stepped, -, -⟩ := run_cons_inv tail
    exact (receiver_inside (Reaches.inside ⟨_, reaching⟩) stepped).1 data
  · intro fits
    apply safe_of_defined
    intro before
    induction before using List.reverseRecOn with
    | nil => exact fun _ _ => ⟨_, _, rfl⟩
    | append_singleton before datagram ih =>
      intro after shape
      have within : datagrams = before ++ datagram :: after := by simp [shape]
      obtain ⟨state, sent, executed⟩ := ih (datagram :: after) within
      obtain ⟨next, out, stepped⟩ := receiver_ok config degree (Reaches.inside ⟨sent, executed⟩)
        (fun data => fits before datagram after within data state ⟨sent, executed⟩)
      exact ⟨next, _, run_append_ok executed (run_singleton stepped)⟩

section Windows
variable {config : HeaderConfig} {degree : Nat} {beyond : Nat → UInt8}

private theorem window_prefix (degree : Nat) (before after : List Datagram) (index : Nat) :
    (window degree before index).Sublist (window degree (before ++ after) index) :=
  (((List.prefix_append before after).drop _).take _).sublist

theorem Collecting.inside {state : State} {collected : Collected Datagram} (collecting : Collecting config state collected)
    (fits : messageLength config collected.pending ≤ maxMsgSize) : Inside config state := by
  refine ⟨?_, ?_, collecting.sized⟩
  · rw [collecting.placed]
    exact Nat.le_add_right _ _
  · rw [collecting.placed]
    exact fits

private theorem window_snoc_fits (positive : 1 ≤ degree) {items : List Datagram} {datagram : Datagram}
    (fits : ∀ index, messageLength config (window degree items index) ≤ maxMsgSize)
    (room : messageLength config (items.drop (items.length / degree * degree) ++ [datagram]) ≤ maxMsgSize) (index : Nat) :
    messageLength config (window degree (items ++ [datagram]) index) ≤ maxMsgSize := by
  have counted := Nat.div_add_mod' items.length degree
  have small := Nat.mod_lt items.length positive
  rcases Nat.lt_trichotomy index (items.length / degree) with earlier | rfl | later
  · rw [window_append earlier]
    exact fits index
  · have part : (window degree (items ++ [datagram]) (items.length / degree)).Sublist
        (items.drop (items.length / degree * degree) ++ [datagram]) := by
      rw [window, List.drop_append_of_le_length (by omega)]
      exact List.take_sublist _ _
    exact (messageLength_mono config part).trans room
  · have behind : (items.length / degree + 1) * degree ≤ index * degree := Nat.mul_le_mul_right degree later
    rw [Nat.succ_mul] at behind
    have empty : window degree (items ++ [datagram]) index = [] := by
      rw [window, List.drop_eq_nil_of_le (by rw [List.length_append, List.length_singleton]; omega), List.take_nil]
    exact (messageLength_mono config (by rw [empty]; exact List.nil_sublist _)).trans room

/-- Whatever a run was given, it had headers and fitted in its windows. -/
theorem windows_fit_of_run (positive : 1 ≤ degree) (small : degree ≤ 255) {items : List Datagram} {state : State}
    {sent : List Message} (executed : run (calcAggrPayload config degree) items (initial config beyond) = .ok (state, sent)) :
    (∀ datagram ∈ items, config.msgHeaderSize ≤ datagram.data.size) ∧
      ∀ index, messageLength config (window degree items index) ≤ maxMsgSize := by
  induction items using List.reverseRecOn generalizing state sent with
  | nil =>
    have bounds := config.msgHeaderSize_bounds
    refine ⟨by simp, fun index => ?_⟩
    simp only [window, List.drop_nil, List.take_nil, messageLength, payloads, List.flatMap_nil, List.length_nil, maxMsgSize]
    omega
  | append_singleton items datagram ih =>
    obtain ⟨middle, first, second, early, last, -⟩ := run_append_inv executed
    obtain ⟨headed, fits⟩ := ih early
    obtain ⟨same, again, collecting⟩ := run_collects config positive small (collecting_initial config beyond) items headed fits
    cases again.symm.trans early
    rw [play_push positive] at collecting
    have part : (items.drop (items.length / degree * degree)).Sublist (window degree items (items.length / degree)) := by
      have counted := Nat.div_add_mod' items.length degree
      have rest := Nat.mod_lt items.length positive
      rw [window, List.take_of_length_le (by rw [List.length_drop]; omega)]
    obtain ⟨next, out, rest, stepped, -, -⟩ := run_cons_inv last
    obtain ⟨added, -⟩ := calcAggrPayload_inside (collecting.inside ((messageLength_mono config part).trans (fits _))) stepped
    have room := added.room
    rw [collecting.placed, ← messageLength_append] at room
    refine ⟨?_, window_snoc_fits positive fits room⟩
    intro other member
    rcases List.mem_append.mp member with older | newest
    · exact headed other older
    · rw [List.mem_singleton.mp newest]
      exact added.headed

end Windows

/-- In terms of what arrives alone: every data datagram has a header, and the payloads of
each window fit behind one. -/
theorem safe_iff_windows_fit (config : HeaderConfig) (degree : Nat) (positive : 1 ≤ degree) (small : degree ≤ 255)
    (beyond : Nat → UInt8) (datagrams : List Datagram) :
    Safe config degree beyond datagrams ↔
      (∀ datagram ∈ dataDatagrams datagrams, config.msgHeaderSize ≤ datagram.data.size) ∧
      ∀ index, messageLength config (window degree (dataDatagrams datagrams) index) ≤ maxMsgSize := by
  constructor
  · intro safe
    obtain ⟨final, sent, executed⟩ := safe.defined datagrams [] (by simp)
    rw [run_receiver] at executed
    exact windows_fit_of_run positive small executed
  · rintro ⟨headed, fits⟩
    apply safe_of_defined
    intro before after shape
    have parts : dataDatagrams datagrams = dataDatagrams before ++ dataDatagrams after := by
      rw [shape, dataDatagrams, List.filter_append]
      rfl
    obtain ⟨final, executed, -⟩ := run_collects config positive small (collecting_initial config beyond)
      (dataDatagrams before) (fun datagram member => headed datagram (by rw [parts]; exact List.mem_append_left _ member))
      (fun index => (messageLength_mono config (by rw [parts]; exact window_prefix degree _ _ index)).trans (fits index))
    exact ⟨final, _, by rw [run_receiver]; exact executed⟩

def shortDatagram : Datagram := ⟨⟨[0x08, 0x02], fun _ => 0⟩, by decide, by decide⟩

def longDatagram : Datagram :=
  ⟨⟨List.replicate 600 0x08, fun _ => 0⟩, by simp only [Region.size, List.length_replicate, Nat.ofNat_pos],
    by simp only [Region.size, List.length_replicate, Nat.reduceLT]⟩

private theorem safe_first_size {degree : Nat} {datagram : Datagram} (data : isTemplate datagram = false)
    (safe : Safe HeaderConfig.sky degree (fun _ => 0) [datagram]) : 3 ≤ datagram.data.size ∧ datagram.data.size ≤ 512 := by
  obtain ⟨state, sent, executed⟩ := safe.defined _ [] (List.append_nil _).symm
  obtain ⟨next, out, rest, stepped, -, -⟩ := run_cons_inv executed
  have fits := (receiver_inside (inside_initial _ _) stepped).1 data
  have headed : 3 ≤ datagram.data.size := fits.headed
  have room : 3 + (datagram.data.size - 3) ≤ 512 := fits.room
  omega

/-- Two bytes are less than a header, and 600 bytes do not fit behind one. -/
theorem unsafe_datagrams :
    ¬ Safe HeaderConfig.sky 2 (fun _ => 0) [shortDatagram] ∧
    ¬ Safe HeaderConfig.sky 2 (fun _ => 0) [longDatagram] := by
  constructor
  · intro safe
    have size := safe_first_size (by decide) safe
    exact absurd size.1 (by decide)
  · intro safe
    have size := safe_first_size rfl safe
    rw [longDatagram, Region.size, List.length_replicate] at size
    omega

end TinyIpfix.MsgAggr
