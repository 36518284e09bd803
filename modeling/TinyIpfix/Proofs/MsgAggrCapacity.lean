import TinyIpfix.Proofs.MsgAggrTemplate

/-! Whether a template that is accepted keeps the aggregated data inside the buffer. A
record takes 4 or 8 bytes in the template whatever the width of its field, so it does so
only for tables whose wide fields have the enterprise bit. -/

namespace TinyIpfix.MsgAggr
open CMem Transducer Window

section Collectors
variable {config : HeaderConfig} {sensor : List TemplateRec}

/-- The library of a collector with a data buffer of the exact size, also where the
header for this size was rejected. -/
structure HoldsBuffer (config : HeaderConfig) (sensor : List TemplateRec) (library : Library) : Prop where
  ready : library.isInitialized = 1
  held : ∃ block, library.dataBuf = some block ∧ block.size = exactDataSize config sensor

/-- A datagram with a message of a collector with this table, taken at any time. -/
def FromCollector (config : HeaderConfig) (sensor : List TemplateRec) (datagram : Datagram) : Prop :=
  ∃ heap code library calls current replies readings message after,
    initializeTinyipfix config sensor heap 1 Library.initial = .ok (code, library) ∧
    (∀ request ∈ calls, request.Getter) ∧ run (call config sensor) calls library = .ok (current, replies) ∧
    getData config sensor readings current = .ok (some message, after) ∧ datagram.data.bytes = message.bytes

private theorem getData_holds (short : sensor.length < 256) (supported : Supported sensor) {library : Library}
    (holds : HoldsBuffer config sensor library) (readings : Nat → UInt64) :
    ∃ message after, getData config sensor readings library = .ok (some message, after) ∧
      message.size = exactDataSize config sensor ∧ HoldsBuffer config sensor after := by
  obtain ⟨ready, block, held, size⟩ := holds
  obtain ⟨front, message, built, headerLength, content⟩ :=
    buildDataPayload_fills config short supported readings size library.dataSeqNum
  have kept : message.size = exactDataSize config sensor := by
    rw [Region.size, content, List.length_append, headerLength, dataBytes_length supported, exactDataSize]
  exact ⟨message, { library with
    dataBuf := some message, dataSeqNum := nextSeqNum config library.dataSeqNum }, getData_ok ready held built, kept, ready,
    message, rfl, kept⟩

private theorem call_holds (short : sensor.length < 256) (supported : Supported sensor) {request : Call} (getter : request.Getter)
    {library after : Library} {replies : List Reply} (holds : HoldsBuffer config sensor library)
    (executed : call config sensor request library = .ok (after, replies)) : HoldsBuffer config sensor after := by
  cases request with
  | initializeTinyipfix heap degAggr => exact getter.elim
  | getTemplate =>
    cases executed
    exact holds
  | getData readings =>
    obtain ⟨message, next, served, -, kept⟩ := getData_holds short supported holds readings
    rw [call, served] at executed
    cases executed
    exact kept

private theorem initialize_holds (short : sensor.length < 256) (supported : Supported sensor) (heap : Heap) :
    ∃ library, initializeTinyipfix config sensor heap 1 Library.initial = .ok (0, library) ∧
      HoldsBuffer config sensor library := by
  have whole := Nat.mod_eq_of_lt (exactDataSize_lt config short supported)
  obtain ⟨template, data, executed, -, size, -⟩ := initializeTinyipfix_allocates config heap Library.initial short
    (by rw [whole, exactDataSize]; omega)
  exact ⟨_, executed, rfl, data, rfl, size.trans whole⟩

theorem FromCollector.size (short : sensor.length < 256) (supported : Supported sensor) {datagram : Datagram}
    (collected : FromCollector config sensor datagram) : datagram.data.size = exactDataSize config sensor := by
  obtain ⟨heap, code, library, calls, current, replies, readings, message, after, initialized, getters, executed, served,
    content⟩ := collected
  obtain ⟨same, started, begun⟩ := initialize_holds short supported heap
  rw [initialized] at started
  cases started
  have holds : HoldsBuffer config sensor current := by
    refine run_invariant (HoldsBuffer config sensor) ?_ begun executed
    intro request member before next out held stepped
    exact call_holds short supported (getters request member) held stepped
  obtain ⟨again, next, handed, size, -⟩ := getData_holds short supported holds readings
  rw [served] at handed
  cases handed
  rw [Region.size, content]
  exact size

private theorem exists_fromCollector (config : HeaderConfig) (short : sensor.length < 256) (supported : Supported sensor) :
    ∃ datagram, FromCollector config sensor datagram := by
  have bounds := config.msgHeaderSize_bounds
  have narrow := exactDataSize_lt config short supported
  obtain ⟨library, initialized, holds⟩ := initialize_holds short supported ⟨fun _ => 0, fun _ => 0⟩
  obtain ⟨message, after, served, size, -⟩ := getData_holds short supported holds fun _ => 0
  refine ⟨⟨message, by rw [size, exactDataSize]; omega, by rw [size]; exact narrow⟩, _, _, _, [], _, _, _, message, after,
    initialized, ?_, rfl, served, rfl⟩
  intro request none
  cases none

end Collectors

/-- A run that does not get past the end of a window was given payloads that fit. -/
theorem run_ok_fits (config : HeaderConfig) {degree : Nat} (positive : 1 ≤ degree) (small : degree ≤ 255) {state : State}
    {closed : Nat} (collecting : Collecting config state (boundary closed)) {datagrams : List Datagram}
    (within : datagrams.length ≤ degree) (headed : ∀ datagram ∈ datagrams, config.msgHeaderSize ≤ datagram.data.size)
    {final : State} {sent : List Message}
    (executed : run (calcAggrPayload config degree) datagrams state = .ok (final, sent)) :
    messageLength config datagrams ≤ maxMsgSize := by
  induction datagrams using List.reverseRecOn generalizing final sent with
  | nil =>
    have bounds := config.msgHeaderSize_bounds
    rw [messageLength, payloads, List.flatMap_nil, List.length_nil, maxMsgSize]
    omega
  | append_singleton datagrams datagram ih =>
    rw [List.length_append, List.length_singleton] at within
    have earlier : ∀ other ∈ datagrams, config.msgHeaderSize ≤ other.data.size :=
      fun other member => headed other (by simp [member])
    obtain ⟨middle, first, second, head, tail, -⟩ := run_append_inv executed
    have fits := ih (by omega) earlier head
    obtain ⟨same, again, held⟩ := run_collects config positive small collecting datagrams earlier
      fun index => (messageLength_mono config (window_sublist _ _ _)).trans fits
    rw [head] at again
    cases again
    rw [play_push_open _ _ (by omega)] at held
    obtain ⟨next, out, rest, stepped, -, -⟩ := run_cons_inv tail
    have placed := held.placed
    have bounds := config.msgHeaderSize_bounds
    have inside : Inside config middle := ⟨by rw [placed, messageLength]; omega, by rw [placed]; exact fits, held.sized⟩
    have room := (calcAggrPayload_inside inside stepped).1.room
    rw [placed] at room
    rw [messageLength_append]
    exact room

/-- Whatever window of data messages of collectors with this table comes next, it is
copied inside the buffer and sent under an accepted header. -/
def Accommodates (config : HeaderConfig) (sensor : List TemplateRec) (degree : Nat) : Prop :=
  ∀ beyond before state, Reaches config degree beyond before state → state.aggrCount = 0 → ∀ datagrams,
    datagrams.length = degree → (∀ datagram ∈ datagrams, FromCollector config sensor datagram) →
    ∃ next message, run (calcAggrPayload config degree) datagrams state = .ok (next, [message]) ∧
      HeaderWritten config state message

private theorem message_headed (config : HeaderConfig) (state : State) {datagrams : List Datagram}
    (fits : messageLength config datagrams ≤ maxMsgSize) :
    HeaderWritten config state (message config state.seqNum.toNat datagrams) := by
  have length := message_length config state.seqNum.toNat fits
  refine ⟨by rw [length]; exact dataHeader_accepted fits, by rw [length]; exact fits, ?_⟩
  rw [length, message, frame, UInt16.ofNat_toNat]
  exact List.take_left' (builtHeader_length config _ (dataHeader_accepted fits))

private theorem collected_length {config : HeaderConfig} {sensor : List TemplateRec} (short : sensor.length < 256)
    (supported : Supported sensor) {datagrams : List Datagram}
    (collected : ∀ datagram ∈ datagrams, FromCollector config sensor datagram) :
    messageLength config datagrams = config.msgHeaderSize + datagrams.length * (fieldLens sensor).sum :=
  messageLength_fields fun datagram member => (collected datagram member).size short supported

private theorem accommodates_iff_fits (config : HeaderConfig) {sensor : List TemplateRec} (short : sensor.length < 256)
    (supported : Supported sensor) {degree : Nat} (positive : 1 ≤ degree) (small : degree ≤ 255) :
    Accommodates config sensor degree ↔ config.msgHeaderSize + degree * (fieldLens sensor).sum ≤ maxMsgSize := by
  have headed : ∀ datagram, FromCollector config sensor datagram → config.msgHeaderSize ≤ datagram.data.size := by
    intro datagram collected
    rw [collected.size short supported, exactDataSize]
    omega
  constructor
  · intro accommodates
    obtain ⟨datagram, collected⟩ := exists_fromCollector config short supported
    have all : ∀ other ∈ List.replicate degree datagram, FromCollector config sensor other := by
      intro other member
      rw [List.eq_of_mem_replicate member]
      exact collected
    obtain ⟨next, message, executed, -⟩ := accommodates (fun _ => 0) [] (initial config fun _ => 0) ⟨[], rfl⟩ rfl
      (List.replicate degree datagram) List.length_replicate all
    have fits := run_ok_fits config positive small (collecting_initial config fun _ => 0)
      (Nat.le_of_eq List.length_replicate) (fun other member => headed other (all other member)) executed
    rw [collected_length short supported all, List.length_replicate] at fits
    exact fits
  · intro fits beyond before state reached opened datagrams full collected
    have length := collected_length short supported collected
    rw [full] at length
    rw [← length] at fits
    obtain ⟨next, executed⟩ := window_sends config positive small (reached.boundary positive small opened) full
      (fun datagram member => headed datagram (collected datagram member)) fits
    exact ⟨next, _, executed, message_headed config state fits⟩

private theorem fieldLens_le_tableSize {sensor : List TemplateRec} (supported : Supported sensor)
    (enterprise : ∀ rec ∈ sensor, rec.fieldLen = 8 → hasEnterpriseBit rec.elementId = true) :
    (fieldLens sensor).sum ≤ tableSize sensor := by
  apply List.sum_le_sum
  intro rec member
  have width := supported rec member
  simp only [widths, List.mem_cons, List.not_mem_nil, or_false] at width
  unfold recordSize
  by_cases bit : hasEnterpriseBit rec.elementId = true
  · rw [if_pos bit]
    rcases width with same | same | same | same <;> simp [same]
  · rw [if_neg bit]
    rcases width with same | same | same | wide
    · simp [same]
    · simp [same]
    · simp [same]
    · exact absurd (enterprise rec member wide) bit

/-- With an accepted template the aggregated data are safe exactly if they fit a message,
which tables without a plain eight-byte field always do. -/
theorem accommodates_iff (config : HeaderConfig) (sensor : List TemplateRec) (supported : Supported sensor)
    (degree : Nat) (positive : 1 ≤ degree) (small : degree ≤ 255)
    (accepted : exactTemplateSize config sensor degree ≤ maxMsgSize) :
    (Accommodates config sensor degree ↔ config.msgHeaderSize + degree * (fieldLens sensor).sum ≤ maxMsgSize) ∧
    ((∀ rec ∈ sensor, rec.fieldLen = 8 → hasEnterpriseBit rec.elementId = true) → Accommodates config sensor degree) := by
  have exactly := accommodates_iff_fits config (short_of_fits accepted positive) supported positive small
  refine ⟨exactly, ?_⟩
  intro enterprise
  apply exactly.mpr
  have fields := Nat.mul_le_mul_left degree (fieldLens_le_tableSize supported enterprise)
  rw [exactTemplateSize] at accepted
  omega

theorem sample_accommodated : Accommodates HeaderConfig.sky initTemplate 3 :=
  (accommodates_iff HeaderConfig.sky initTemplate (by decide) 3 (by decide) (by decide) (by decide)).2 (by decide)

/-- 64 messages with one eight-byte field and no enterprise bit: the template has 263
bytes, and the data 515. -/
theorem plain_wide_overflows : exactTemplateSize HeaderConfig.sky [setFields 0 0x0099 8 0] 64 = 263 ∧
    ¬ Accommodates HeaderConfig.sky [setFields 0 0x0099 8 0] 64 := by
  refine ⟨by decide, ?_⟩
  intro accommodates
  have fits := (accommodates_iff_fits _ (by decide) (by decide) (by decide) (by decide)).mp accommodates
  exact absurd fits (by decide)

end TinyIpfix.MsgAggr
