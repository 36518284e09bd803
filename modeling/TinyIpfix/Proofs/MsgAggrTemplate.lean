import TinyIpfix.Proofs.MsgAggrSafety
import TinyIpfix.Proofs.SendLength
import TinyIpfix.Proofs.TemplateParse

/-! The aggregated template describes the aggregated data. One side replicates records,
the other copies payloads; both are laid out by the same list of field lengths. -/

namespace TinyIpfix.MsgAggr
open CMem CLoop Transducer Window Layout

def fieldLens (sensor : List TemplateRec) : List Nat :=
  sensor.map fun rec => rec.fieldLen.toNat

/-- The fields of one datagram after those of the other. -/
def aggregatedFields (config : HeaderConfig) (sensor : List TemplateRec) (datagrams : List Datagram) :
    List (List UInt8) :=
  datagrams.flatMap fun datagram => fields (fieldLens sensor) (payload config datagram)

/-- The counter stays below the degree, and it is zero only behind a message. -/
structure Counting (config : HeaderConfig) (degree : Nat) (state : State) : Prop where
  below : state.aggrCount.toNat < degree
  restarted : state.aggrCount = 0 → state.position = UInt16.ofNat config.msgHeaderSize

private theorem receiver_counts {config : HeaderConfig} {degree : Nat} (positive : 1 ≤ degree) (small : degree ≤ 255)
    {datagram : Datagram} {state next : State} {sent : List Message} (counting : Counting config degree state)
    (executed : receiver (calcAggrPayload config degree) datagram state = .ok (next, sent)) :
    Counting config degree next := by
  obtain ⟨-, rfl, -⟩ | ⟨-, stepped⟩ := receiver_inv executed
  · exact counting
  · have below := counting.below
    have counted : (state.aggrCount + 1).toNat = state.aggrCount.toNat + 1 := counter_succ rfl (by omega)
    obtain ⟨buf, -, ⟨continues, rfl, rfl⟩ | ⟨-, code, after, -, rfl, rfl⟩⟩ := calcAggrPayload_inv stepped
    · rw [counted] at continues
      refine ⟨by rw [counted]; omega, ?_⟩
      intro zero
      have none := congrArg UInt8.toNat zero
      rw [counted] at none
      cases none
    · exact ⟨positive, fun _ => rfl⟩

theorem Reaches.boundary {config : HeaderConfig} {degree : Nat} (positive : 1 ≤ degree) (small : degree ≤ 255)
    {beyond : Nat → UInt8} {before : List Datagram} {state : State} (reached : Reaches config degree beyond before state)
    (opened : state.aggrCount = 0) : Collecting config state (boundary state.seqNum.toNat) := by
  have bounds := config.msgHeaderSize_bounds
  have inside := reached.inside
  obtain ⟨sent, executed⟩ := reached
  have start : Counting config degree (initial config beyond) := ⟨positive, fun _ => rfl⟩
  have counting : Counting config degree state := by
    refine run_invariant (Counting config degree) ?_ start executed
    intro datagram _ current next out held stepped
    exact receiver_counts positive small held stepped
  refine ⟨by rw [opened]; rfl, ?_, (UInt16.ofNat_toNat).symm, inside.sized,
    state.aggrDataBuf.bytes.take config.msgHeaderSize, ?_, ?_⟩
  · rw [counting.restarted opened, config.msgHeaderSize_toNat]
    rfl
  · have sized := inside.sized
    simp only [Region.size, maxMsgSize] at sized
    rw [List.length_take, sized]
    omega
  · rw [Window.boundary, payloads, List.flatMap_nil, List.append_nil]
    exact List.take_prefix _ _

theorem window_sends (config : HeaderConfig) {degree : Nat} (positive : 1 ≤ degree) (small : degree ≤ 255)
    {state : State} {closed : Nat} (collecting : Collecting config state (boundary closed)) {datagrams : List Datagram}
    (full : datagrams.length = degree) (headed : ∀ datagram ∈ datagrams, config.msgHeaderSize ≤ datagram.data.size)
    (fits : messageLength config datagrams ≤ maxMsgSize) :
    ∃ next, run (calcAggrPayload config degree) datagrams state = .ok (next, [message config closed datagrams]) := by
  obtain ⟨final, executed, -⟩ := run_collects config positive small collecting datagrams headed
    (fun index => (messageLength_mono config (window_sublist _ _ _)).trans fits)
  rw [play_push_once positive _ _ full] at executed
  exact ⟨final, executed⟩

private theorem message_payloads (config : HeaderConfig) (index : Nat) {datagrams : List Datagram}
    (fits : messageLength config datagrams ≤ maxMsgSize) :
    (message config index datagrams).drop config.msgHeaderSize = payloads config datagrams :=
  List.drop_left' (builtHeader_length config _ (dataHeader_accepted fits))

/-- Cutting the payload by the lengths of the replicated records gives the fields of
each datagram in turn. -/
theorem cut_message (config : HeaderConfig) (sensor : List TemplateRec) (index : Nat) {datagrams : List Datagram}
    (sized : ∀ datagram ∈ datagrams, datagram.data.size = config.msgHeaderSize + (fieldLens sensor).sum)
    (fits : messageLength config datagrams ≤ maxMsgSize) :
    cut (List.replicate datagrams.length (fieldLens sensor)).flatten
        ((message config index datagrams).drop config.msgHeaderSize) =
      some (aggregatedFields config sensor datagrams) := by
  have chunks : ∀ chunk ∈ datagrams.map (payload config), chunk.length = (fieldLens sensor).sum := by
    intro chunk member
    obtain ⟨datagram, received, rfl⟩ := List.mem_map.mp member
    rw [payload_length, sized datagram received, Nat.add_sub_cancel_left]
  have whole := cut_replicate (fieldLens sensor) chunks
  rw [List.length_map, List.flatMap_map] at whole
  rw [message_payloads config index fits, payloads, List.flatMap_def, aggregatedFields]
  exact whole

private theorem tableSize_le_fieldLens {sensor : List TemplateRec} (supported : Supported sensor) :
    tableSize sensor ≤ 8 * (fieldLens sensor).sum := by
  induction sensor with
  | nil => simp [tableSize]
  | cons rec sensor ih =>
    have rest := ih fun later member => supported later (by simp [member])
    have single : recordSize rec ≤ 8 := by
      unfold recordSize
      split <;> omega
    have width := (supported_width (supported rec (by simp))).1
    simp only [tableSize, fieldLens, List.map_cons, List.sum_cons] at rest ⊢
    omega

/-- A table whose aggregated data fit a message has a template whose size does not wrap. -/
theorem calcTemplateSize_exact {config : HeaderConfig} {sensor : List TemplateRec} (short : sensor.length ≤ 255)
    (supported : Supported sensor) {degree : Nat} (small : degree ≤ 255)
    (dataFits : config.msgHeaderSize + degree * (fieldLens sensor).sum ≤ maxMsgSize) {size : UInt16}
    (sized : calcTemplateSize config sensor (UInt8.ofNat degree) = .ok size) :
    size.toNat = exactTemplateSize config sensor degree := by
  have bounds := config.msgHeaderSize_bounds
  have records : degree * tableSize sensor ≤ degree * (8 * (fieldLens sensor).sum) :=
    Nat.mul_le_mul_left _ (tableSize_le_fieldLens supported)
  rw [calcTemplateSize_eq config _ (fun _ => by omega), toNat_ofNat_degree small] at sized
  cases sized
  apply UInt16.toNat_ofNat_of_lt'
  rw [Nat.mul_left_comm] at records
  simp only [maxMsgSize, exactTemplateSize, setHeaderSize, UInt16.size] at dataFits ⊢
  omega

theorem messageLength_fields {config : HeaderConfig} {sensor : List TemplateRec} {datagrams : List Datagram}
    (lengths : ∀ datagram ∈ datagrams, datagram.data.size = config.msgHeaderSize + (fieldLens sensor).sum) :
    messageLength config datagrams = config.msgHeaderSize + datagrams.length * (fieldLens sensor).sum := by
  have same : datagrams.map (fun datagram => datagram.data.size - config.msgHeaderSize) =
      List.replicate datagrams.length (fieldLens sensor).sum := by
    apply List.map_eq_replicate_iff.mpr
    intro datagram member
    rw [lengths datagram member, Nat.add_sub_cancel_left]
  rw [messageLength, payloads_length, same, List.sum_replicate_nat]

theorem described_fieldLens (sensor : List TemplateRec) (degree : Nat) :
    ((List.replicate degree sensor).flatten.map describe).map ParsedRecord.fieldLen =
      (List.replicate degree (fieldLens sensor)).flatten := by
  rw [List.map_map, List.map_flatten, List.map_replicate]
  rfl

/-- The records of the aggregated template cut the payload of an aggregated message
into the fields of the datagrams it was made of. -/
theorem template_describes_message (config : HeaderConfig) (sensor : List TemplateRec) (short : sensor.length ≤ 255)
    (supported : Supported sensor) (degree : Nat) (positive : 1 ≤ degree) (small : degree ≤ 255) (size : UInt16)
    (sized : calcTemplateSize config sensor (UInt8.ofNat degree) = .ok size) (templateFits : size.toNat ≤ maxMsgSize)
    (dataFits : config.msgHeaderSize + degree * (fieldLens sensor).sum ≤ maxMsgSize)
    (heap : Heap) (memory beyond : Nat → UInt8) (before : List Datagram) (state : State)
    (reached : Reaches config degree beyond before state) (opened : state.aggrCount = 0) (datagrams : List Datagram)
    (full : (dataDatagrams datagrams).length = degree)
    (lengths : ∀ datagram ∈ dataDatagrams datagrams,
      datagram.data.size = config.msgHeaderSize + (fieldLens sensor).sum) :
    ∃ next message template library parsed pieces,
      run (receiver (calcAggrPayload config degree)) datagrams state = .ok (next, [message]) ∧
      getAggrTemplate config sensor heap degree ⟨List.replicate maxMsgSize 0, memory⟩ Library.initial =
        .ok (template, library) ∧
      parseTemplate config (template.bytes.take size.toNat) = some parsed ∧
      parsed.fieldCount = sensor.length * degree ∧ parsed.records.length = sensor.length * degree ∧
      cut (parsed.records.map ParsedRecord.fieldLen) (message.drop config.msgHeaderSize) = some pieces ∧
      pieces.length = sensor.length * degree ∧
      ∀ j i, j < degree → i < sensor.length → pieces[j * sensor.length + i]? =
        (dataDatagrams datagrams)[j]?.bind fun datagram => (fields (fieldLens sensor) (payload config datagram))[i]? := by
  have exactly := calcTemplateSize_exact short supported small dataFits sized
  rw [exactly] at templateFits ⊢
  have total := messageLength_fields lengths
  rw [full] at total
  obtain ⟨next, executed⟩ := window_sends config positive small (reached.boundary positive small opened) full
    (fun datagram member => by rw [lengths datagram member]; omega) (by rw [total]; exact dataFits)
  obtain ⟨code, library, initialized⟩ : ∃ code library,
      initializeTinyipfix config sensor heap (UInt8.ofNat degree) Library.initial = .ok (code, library) :=
    initializeTinyipfix_degree heap small templateFits (fun one => by
      subst one
      rw [Nat.one_mul] at dataFits
      exact dataFits)
  obtain ⟨template, copied, starts⟩ := getAggrTemplate_ok small templateFits
    ⟨List.replicate maxMsgSize 0, memory⟩ (by simp [Region.size]) initialized
  have front : template.bytes.take (exactTemplateSize config sensor degree) = templateMessage config sensor degree := by
    rw [← templateMessage_length config templateFits]
    exact (List.prefix_iff_eq_take.mp starts).symm
  obtain ⟨header, -, -, parsed⟩ := parseTemplate_templateMessage config sensor templateFits
  have pieces := cut_message config sensor state.seqNum.toNat lengths (by rw [total]; exact dataFits)
  rw [full] at pieces
  rw [← run_receiver] at executed
  rw [← front] at parsed
  refine ⟨next, _, template, library, _, aggregatedFields config sensor (dataDatagrams datagrams), executed, copied, parsed,
    rfl, ?_, ?_, ?_, ?_⟩
  · simp [Nat.mul_comm]
  · rw [described_fieldLens]
    exact pieces
  · simp [aggregatedFields, List.length_flatMap, fieldLens, full, Nat.mul_comm]
  · intro j i _ inside
    refine flatMap_getElem? (fun datagram => fields (fieldLens sensor) (payload config datagram)) ?_ _ j inside
    intro datagram
    rw [fields_length, fieldLens, List.length_map]

/-- Two data messages of the table of sky.c. -/
def sampleReports : List Datagram :=
  [⟨⟨[0x08, 20, 1, 0, 10, 0, 11, 0, 12, 0, 13, 0, 14, 0, 0, 0, 15, 0, 16, 0], fun _ => 0⟩, by decide, by decide⟩,
    ⟨⟨[0x08, 20, 1, 0, 20, 0, 21, 0, 22, 0, 23, 0, 24, 0, 0, 0, 25, 0, 26, 1], fun _ => 0⟩, by decide, by decide⟩]

theorem sample_template_describes : ∃ next message template library parsed pieces,
    run (receiver (calcAggrPayload HeaderConfig.sky 2)) sampleReports (initial HeaderConfig.sky fun _ => 0) =
      .ok (next, [message]) ∧
    getAggrTemplate HeaderConfig.sky initTemplate ⟨fun _ => 0, fun _ => 0⟩ 2 ⟨List.replicate maxMsgSize 0, fun _ => 0⟩
      Library.initial = .ok (template, library) ∧
    parseTemplate HeaderConfig.sky (template.bytes.take 135) = some parsed ∧ parsed.fieldCount = 16 ∧
    cut (parsed.records.map ParsedRecord.fieldLen) (message.drop 3) = some pieces ∧ pieces[9]? = some [0, 21] := by
  obtain ⟨next, message, template, library, parsed, pieces, executed, copied, read, counted, -, cutting, -, piece⟩ :=
    template_describes_message HeaderConfig.sky initTemplate (by decide) (by decide) 2 (by decide) (by decide) 135
      (calcTemplateSize_eq _ 2 (by decide)) (by decide) (by decide) ⟨fun _ => 0, fun _ => 0⟩ (fun _ => 0) (fun _ => 0) []
      (initial HeaderConfig.sky fun _ => 0) ⟨[], rfl⟩ rfl sampleReports (by decide) (by decide)
  exact ⟨next, message, template, library, parsed, pieces, executed, copied, read, counted, cutting,
    piece 1 1 (by decide) (by decide)⟩

end TinyIpfix.MsgAggr
