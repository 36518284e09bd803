import TinyIpfix.Proofs.DataAggrExact
import TinyIpfix.Proofs.DataAggrReads
import TinyIpfix.Proofs.DataAggrTemplate
import TinyIpfix.Proofs.DataAggrWide
import TinyIpfix.Proofs.Deployment
import TinyIpfix.Proofs.Readings

/-! The deployed system with data aggregation. To those who read its messages, the
aggregator is a collector with a table of one record, whose readings are the aggregates. -/

namespace TinyIpfix.DataAggr
open CMem Network Transducer Window Endian

/-- A table, a record of it and a degree for which the aggregates are exact. -/
structure Deployed (sensor : List TemplateRec) (sensorPos : Nat) (rec : TemplateRec) (degree : Nat)
    (aggrFunc : AggrFunc) : Prop where
  table : Deployable sensor
  selected : sensor[sensorPos]? = some rec
  positive : 1 ≤ degree
  small : degree ≤ 255
  exactly : rec.fieldLen ∈ exactWidths aggrFunc

section Template
variable {config : HeaderConfig} {sensor : List TemplateRec}

/-- As long as both lengths need one byte, the edited header is one built anew. -/
theorem editedHeader_eq (low : exactTemplateSize config sensor 1 ≤ 255) {announced : Nat} (small : announced ≤ 255) :
    editedHeader config sensor announced = builtHeader config templateSetId (UInt16.ofNat announced) 0xFFFF := by
  have high : ∀ length ≤ 255, (UInt16.ofNat length >>> 8).toUInt8 = 0 := by
    intro length fits
    apply UInt8.toNat_inj.mp
    simp only [UInt16.toNat_toUInt8, UInt16.toNat_shiftRight, UInt16.toNat_ofNat', UInt16.reduceToNat, Nat.reduceMod,
      Nat.shiftRight_eq_div_pow, UInt8.reduceToNat]
    omega
  have first : firstByte config (shortcut templateSetId) (UInt16.ofNat (exactTemplateSize config sensor 1)) =
      firstByte config (shortcut templateSetId) (UInt16.ofNat announced) := by
    rw [firstByte, firstByte, high _ low, high _ small]
  have last : UInt8.ofNat announced = (UInt16.ofNat announced).toUInt8 := by
    apply UInt8.toNat_inj.mp
    rw [low_byte, UInt8.toNat_ofNat']
  rw [editedHeader, builtHeader_eq _ _ (templateHeader_accepted (low.trans (by decide))),
    builtHeader_eq _ _ (templateHeader_accepted (small.trans (by decide))), headerBytes, headerBytes, first, last]
  rfl

private theorem getAggrTemplate_announces (low : exactTemplateSize config sensor 1 ≤ 255) (supported : Supported sensor)
    {sensorPos : Nat} {rec : TemplateRec} (selected : sensor[sensorPos]? = some rec) (heap : Heap)
    (memory : Nat → UInt8) :
    ∃ template library position, getAggrTemplate config sensor heap memory sensorPos Library.initial initial =
        .ok (template, library, ready position rec.fieldLen memory) ∧
      templateMessage config [rec] 1 <+: template.bytes ∧ position.toNat = fieldOffset sensor sensorPos := by
  obtain ⟨inside, rfl⟩ := List.getElem?_eq_some_iff.mp selected
  have fits : exactTemplateSize config sensor 1 ≤ maxMsgSize := low.trans (by decide)
  have short := short_of_fits fits (by omega)
  have headerLength := builtHeader_length config 0xFFFF (templateHeader_accepted fits)
  have small := announcedSize_le config sensor[sensorPos]
  obtain ⟨started, block, walk, template, library, initialized, handed, built, walks, edited, position, width⟩ :=
    getAggrTemplate_selects config supported short inside heap memory
  have shape := (built.whole fits).trans (templateMessage_records config sensor)
  obtain ⟨again, walksAgain, placed⟩ := walkTemplate_places shape (recordsStart_eq headerLength sensor.length)
    (builtTemplate_lt built short) short inside
  rw [walks] at walksAgain
  cases walksAgain
  obtain ⟨same, other, editedAgain, starts⟩ := getAggrTemplate_edits heap memory inside initialized handed shape
    (recordsStart_eq headerLength sensor.length) walks placed
  rw [edited] at editedAgain
  cases editedAgain
  refine ⟨template, library, walk.payloadExtrPos, ?_, ?_, position⟩
  · rw [edited, ready, width]
  · rw [edit_headers _ headerLength short, ← editedHeader, editedHeader_eq low (by omega)] at starts
    have size : exactTemplateSize config [sensor[sensorPos]] 1 = recordsStart config + recordSize sensor[sensorPos] := by
      simp [exactTemplateSize, recordsStart, tableSize]
    rw [templateMessage_records, size, tableBytes, List.flatMap_singleton]
    exact starts

end Template

section System
variable {ι : Type} {sensor : List TemplateRec} {sensorPos : Nat} {rec : TemplateRec} {degree : Nat}
  {aggrFunc : AggrFunc} {templateBuf : Region} {state : State}

/-- The aggregate of the readings of one sensor over a window of reports. -/
def windowValue (aggrFunc : AggrFunc) (sensorPos : Nat) (rec : TemplateRec) (window : List (Report ι)) : Nat :=
  aggregate aggrFunc (window.map fun report => reading rec (report.readings sensorPos))

def windowMessage (aggrFunc : AggrFunc) (sensorPos : Nat) (rec : TemplateRec) (index : Nat) (window : List (Report ι)) :
    Message :=
  framed HeaderConfig.sky (UInt16.ofNat index) (encode rec.fieldLen.toNat (windowValue aggrFunc sensorPos rec window))

/-- The state holds what is folded of messages of these reports. -/
def Holds (aggrFunc : AggrFunc) (sensor : List TemplateRec) (sensorPos : Nat) (rec : TemplateRec) (state : State)
    (collected : Collected (Report ι)) : Prop :=
  ∃ datagrams position, position.toNat = fieldOffset sensor sensorPos ∧
    Folding HeaderConfig.sky aggrFunc position rec.fieldLen state ⟨collected.closed, datagrams⟩ ∧
    datagrams.map (fun datagram => datagram.data.bytes) = collected.pending.map (reportMessage sensor)

theorem Deployed.narrow (deployed : Deployed sensor sensorPos rec degree aggrFunc) : rec.fieldLen.toNat ≤ 4 :=
  (exactWidths_narrow deployed.exactly).1

private theorem report_field (deployed : Deployed sensor sensorPos rec degree aggrFunc) {position : UInt16}
    (placed : position.toNat = fieldOffset sensor sensorPos) {datagram : Datagram} {report : Report ι}
    (received : datagram.data.bytes = reportMessage sensor report) :
    Contains HeaderConfig.sky position rec.fieldLen datagram ∧
      fieldValue HeaderConfig.sky position rec.fieldLen datagram = reading rec (report.readings sensorPos) := by
  obtain ⟨inside, rfl⟩ := List.getElem?_eq_some_iff.mp deployed.selected
  exact contains_reading deployed.table.supported deployed.table.dataFits inside placed report.number report.readings
    received

private theorem fieldValues_reports (deployed : Deployed sensor sensorPos rec degree aggrFunc) {position : UInt16}
    (placed : position.toNat = fieldOffset sensor sensorPos) {datagrams : List Datagram} {reports : List (Report ι)}
    (received : datagrams.map (fun datagram => datagram.data.bytes) = reports.map (reportMessage sensor)) :
    (∀ datagram ∈ datagrams, Contains HeaderConfig.sky position rec.fieldLen datagram) ∧
      datagrams.map (fieldValue HeaderConfig.sky position rec.fieldLen) =
        reports.map fun report => reading rec (report.readings sensorPos) := by
  induction datagrams generalizing reports with
  | nil =>
    rw [List.map_nil, eq_comm, List.map_eq_nil_iff] at received
    simp [received]
  | cons datagram datagrams ih =>
    obtain ⟨report, rest, rfl, first, others⟩ := List.map_eq_cons_iff.mp received.symm
    obtain ⟨contains, value⟩ := report_field deployed placed first.symm
    obtain ⟨contained, values⟩ := ih others.symm
    rw [List.map_cons, List.map_cons, value, values]
    refine ⟨?_, rfl⟩
    intro other member
    rcases List.mem_cons.mp member with rfl | later
    · exact contains
    · exact contained other later

theorem message_reports (deployed : Deployed sensor sensorPos rec degree aggrFunc) {position : UInt16}
    (placed : position.toNat = fieldOffset sensor sensorPos) (index : Nat) {datagrams : List Datagram}
    {reports : List (Report ι)} (full : datagrams.length = degree)
    (received : datagrams.map (fun datagram => datagram.data.bytes) = reports.map (reportMessage sensor)) :
    message HeaderConfig.sky aggrFunc degree position rec.fieldLen index datagrams =
      windowMessage aggrFunc sensorPos rec index reports := by
  obtain ⟨contains, values⟩ := fieldValues_reports deployed placed received
  rw [message_exact HeaderConfig.sky aggrFunc deployed.positive deployed.small deployed.exactly index full contains,
    aggregateMessage, values, windowMessage, framed, windowValue, encode_length]

theorem Holds.follows (overshift : Overshift) (deployed : Deployed sensor sensorPos rec degree aggrFunc)
    {collected : Collected (Report ι)} {datagram : Datagram} {report : Report ι}
    (held : Holds aggrFunc sensor sensorPos rec state collected) (opened : collected.pending.length < degree)
    (received : datagram.data.bytes = reportMessage sensor report) :
    ∃ next, step overshift aggrFunc HeaderConfig.sky degree datagram state =
        .ok (next, (push degree (windowMessage aggrFunc sensorPos rec) report collected).2) ∧
      Holds aggrFunc sensor sensorPos rec next (push degree (windowMessage aggrFunc sensorPos rec) report collected).1 := by
  obtain ⟨datagrams, position, placed, folding, same⟩ := held
  have small := deployed.small
  have counted : datagrams.length = collected.pending.length := by simpa using congrArg List.length same
  obtain ⟨contains, -⟩ := report_field deployed placed received
  obtain ⟨next, stepped, kept⟩ := step_follows overshift aggrFunc HeaderConfig.sky (show degree < 256 by omega)
    deployed.narrow datagram folding (by rw [counted]; exact opened) contains
  obtain ⟨sent, closed, pending⟩ := push_agrees degree (message HeaderConfig.sky aggrFunc degree position rec.fieldLen)
    (windowMessage aggrFunc sensorPos rec)
    (show (⟨collected.closed, datagrams⟩ : Collected Datagram).closed = collected.closed from rfl) same received
    fun items partners full agree => message_reports deployed placed _ full agree
  rw [sent] at stepped
  refine ⟨next, stepped, _, position, placed, ?_, pending⟩
  rw [← closed]
  exact kept

private theorem framed_room {width : Nat} (narrow : width ≤ 4) (value : Nat) :
    HeaderConfig.sky.msgHeaderSize + (encode width value).length ≤ maxMsgSize := by
  have bounds := HeaderConfig.sky.msgHeaderSize_bounds
  rw [encode_length, maxMsgSize]
  omega

private theorem single_template_le (config : HeaderConfig) (rec : TemplateRec) : exactTemplateSize config [rec] 1 ≤ 17 := by
  have small := announcedSize_le config rec
  simp only [recordsStart] at small
  simp only [exactTemplateSize, tableSize, List.map_cons, List.map_nil, List.sum_cons, List.sum_nil]
  omega

theorem Started.ready (deployed : Deployed sensor sensorPos rec degree aggrFunc)
    (started : Started HeaderConfig.sky sensor sensorPos templateBuf state) :
    sendAggrTemplate templateBuf = .ok [templateMessage HeaderConfig.sky [rec] 1] ∧
    ∃ position memory, position.toNat = fieldOffset sensor sensorPos ∧
      state = DataAggr.ready position rec.fieldLen memory := by
  obtain ⟨heap, memory, library, got⟩ := started
  obtain ⟨template, other, position, announced, starts, placed⟩ := getAggrTemplate_announces deployed.table.template
    deployed.table.supported deployed.selected heap memory
  cases announced.symm.trans got
  have size : exactTemplateSize HeaderConfig.sky [rec] 1 ≤ 255 := (single_template_le _ rec).trans (by decide)
  have fits : exactTemplateSize HeaderConfig.sky [rec] 1 ≤ maxMsgSize := size.trans (by decide)
  have length := templateMessage_length HeaderConfig.sky fits
  refine ⟨?_, position, memory, placed, rfl⟩
  rw [sendAggrTemplate_eq fits starts, ← length, view_lowPart starts, lowPart_whole (by rw [length]; exact size)]

theorem Started.aggregates (overshift : Overshift) (deployed : Deployed sensor sensorPos rec degree aggrFunc)
    (started : Started HeaderConfig.sky sensor sensorPos templateBuf state) :
    Aggregates sensor degree (step overshift aggrFunc HeaderConfig.sky degree) templateBuf
      (templateMessage HeaderConfig.sky [rec] 1) (windowMessage aggrFunc sensorPos rec)
      (Holds aggrFunc sensor sensorPos rec : State → Collected (Report ι) → Prop) state := by
  obtain ⟨sending, position, memory, placed, rfl⟩ := started.ready deployed
  refine ⟨deployed.positive, sending, isData_templateMessage ((single_template_le _ rec).trans (by decide)), ?_, ?_, ?_⟩
  · intro index window _
    exact isData_dataHeader (dataHeader_accepted (framed_room deployed.narrow _)) (List.prefix_append _ _)
  · exact ⟨[], position, placed, folding_ready HeaderConfig.sky aggrFunc position rec.fieldLen memory, rfl⟩
  · intro current collected datagram report held opened received
    exact held.follows overshift deployed opened received

private theorem windowValue_lt (aggrFunc : AggrFunc) (sensorPos : Nat) (rec : TemplateRec) (window : List (Report ι)) :
    windowValue aggrFunc sensorPos rec window < 256 ^ rec.fieldLen.toNat := by
  have positive : 0 < 256 ^ rec.fieldLen.toNat := Nat.pow_pos (by decide)
  apply aggregate_lt aggrFunc positive
  intro value member
  obtain ⟨report, -, rfl⟩ := List.mem_map.mp member
  exact Nat.mod_lt _ positive

private theorem builtHeader_mod {length : UInt16} (accepted : Accepted dataSetId length) (number : Nat) :
    builtHeader HeaderConfig.sky dataSetId length (UInt16.ofNat (number % 256)) =
      builtHeader HeaderConfig.sky dataSetId length (UInt16.ofNat number) := by
  have low : (UInt16.ofNat (number % 256)).toUInt8 = (UInt16.ofNat number).toUInt8 := by
    apply UInt8.toNat_inj.mp
    rw [low_byte, low_byte, Nat.mod_mod]
  rw [builtHeader_eq _ _ accepted, builtHeader_eq _ _ accepted]
  simp only [headerBytes, sequenceBytes, HeaderConfig.sky, Bool.false_eq_true, ↓reduceIte, low]

private theorem plain_modulus : seqModulus HeaderConfig.sky = 256 := rfl

private theorem dataBytes_single {rec : TemplateRec} (known : rec.fieldLen ∈ widths) (readings : Nat → UInt64) :
    dataBytes [rec] readings = encode rec.fieldLen.toNat (readings 0).toNat := by
  simp only [dataBytes, List.zipIdx_cons, List.zipIdx_nil, List.flatMap_cons, List.flatMap_nil, List.append_nil, fieldBytes,
    if_pos known]

private theorem windowValue_wide (deployed : Deployed sensor sensorPos rec degree aggrFunc) (window : List (Report ι)) :
    (UInt64.ofNat (windowValue aggrFunc sensorPos rec window)).toNat = windowValue aggrFunc sensorPos rec window := by
  have below := windowValue_lt aggrFunc sensorPos rec window
  have power : 256 ^ rec.fieldLen.toNat ≤ 256 ^ 4 := Nat.pow_le_pow_right (by omega) deployed.narrow
  exact UInt64.toNat_ofNat_of_lt' (by simp only [UInt64.size]; omega)

private theorem windowMessage_payload (deployed : Deployed sensor sensorPos rec degree aggrFunc) (index : Nat)
    (window : List (Report ι)) :
    windowMessage aggrFunc sensorPos rec index window = framed HeaderConfig.sky (UInt16.ofNat index)
      (dataBytes [rec] fun _ => UInt64.ofNat (windowValue aggrFunc sensorPos rec window)) := by
  have known := deployed.table.supported rec (List.mem_of_getElem? deployed.selected)
  rw [windowMessage, dataBytes_single known, windowValue_wide deployed]

/-- The message of a window is that of a collector which measures the aggregate. -/
theorem windowMessage_collector (deployed : Deployed sensor sensorPos rec degree aggrFunc) (index : Nat)
    (window : List (Report ι)) :
    windowMessage aggrFunc sensorPos rec index window =
      dataMessage HeaderConfig.sky [rec] index fun _ => UInt64.ofNat (windowValue aggrFunc sensorPos rec window) := by
  have known := deployed.table.supported rec (List.mem_of_getElem? deployed.selected)
  have size : exactDataSize HeaderConfig.sky [rec] = HeaderConfig.sky.msgHeaderSize + rec.fieldLen.toNat := by
    simp [exactDataSize]
  have room := framed_room deployed.narrow (windowValue aggrFunc sensorPos rec window)
  rw [encode_length] at room
  rw [windowMessage_payload deployed, framed, dataMessage, dataBytes_single known, encode_length, size, plain_modulus,
    builtHeader_mod (dataHeader_accepted room)]

theorem window_reads (deployed : Deployed sensor sensorPos rec degree aggrFunc) (index : Nat) (window : List (Report ι)) :
    readMessage HeaderConfig.sky (templateMessage HeaderConfig.sky [rec] 1) (windowMessage aggrFunc sensorPos rec index window) =
      some ⟨index % 256, [(describe rec, windowValue aggrFunc sensorPos rec window)]⟩ := by
  have known := deployed.table.supported rec (List.mem_of_getElem? deployed.selected)
  have single : Supported [rec] := fun other member => by rwa [List.mem_singleton.mp member]
  have room := framed_room deployed.narrow (windowValue aggrFunc sensorPos rec window)
  rw [encode_length] at room
  have templateFits : exactTemplateSize HeaderConfig.sky [rec] 1 ≤ maxMsgSize :=
    (single_template_le _ rec).trans (by decide)
  have number : (UInt16.ofNat index).toNat % seqModulus HeaderConfig.sky = index % 256 := by
    rw [UInt16.toNat_ofNat']
    exact Nat.mod_mod_of_dvd index (by decide)
  have value : reading rec (UInt64.ofNat (windowValue aggrFunc sensorPos rec window)) =
      windowValue aggrFunc sensorPos rec window := by
    rw [reading, windowValue_wide deployed, Nat.mod_eq_of_lt (windowValue_lt aggrFunc sensorPos rec window)]
  have read := readMessage_framed single [fun _ => UInt64.ofNat (windowValue aggrFunc sensorPos rec window)] templateFits
    (by simpa [MsgAggr.fieldLens] using room) (UInt16.ofNat index)
  rw [List.flatMap_singleton, List.flatMap_singleton, ← windowMessage_payload deployed, number] at read
  rw [List.length_singleton] at read
  rw [read]
  simp [measured, value]

private theorem calcAggrPayload_shifts {overshift : Overshift} {config : HeaderConfig} {datagram : Datagram}
    (short : state.aggrFieldLen.toNat < 256) {outcome : Outcome}
    (called : calcAggrPayload overshift aggrFunc config degree datagram state = .ok outcome) :
    ∀ amount ∈ outcome.shifts, ∃ index, amount = shiftAmount state.aggrFieldLen index := by
  have loop : ∀ amount ∈ (List.range state.aggrFieldLen.toNat).map (shiftAmount state.aggrFieldLen),
      ∃ index, amount = shiftAmount state.aggrFieldLen index := by
    intro amount member
    obtain ⟨index, -, rfl⟩ := List.mem_map.mp member
    exact ⟨index, rfl⟩
  obtain ⟨decoding, decoded, rest⟩ := bind_inv called
  obtain ⟨same, again, -, shifts⟩ := convert_total overshift config datagram short
  rw [decoded] at again
  cases again
  split at rest
  next accumulated running least =>
  split at rest
  next closes =>
    obtain ⟨held, -, afterDeref⟩ := bind_inv rest
    obtain ⟨headed, -, afterHeader⟩ := bind_inv afterDeref
    obtain ⟨encoded, encoding, afterLoop⟩ := bind_inv afterHeader
    obtain ⟨length, -, last⟩ := bind_inv afterLoop
    cases last
    intro amount member
    rcases encode_shifts encoding amount member with decoded | here
    · rw [shifts] at decoded
      exact loop amount decoded
    · exact here
  next continues =>
    cases rest
    rw [shifts]
    exact loop

theorem exists_started (deployed : Deployed sensor sensorPos rec degree aggrFunc) (heap : Heap) (memory : Nat → UInt8) :
    (∃ library, CollectorStarted HeaderConfig.sky sensor library) ∧
    ∃ templateBuf state, Started HeaderConfig.sky sensor sensorPos templateBuf state := by
  constructor
  · obtain ⟨library, initialized, -⟩ := transmitting_initially deployed.table.templateFits deployed.table.dataFits heap
    exact ⟨library, heap, 0, initialized⟩
  · obtain ⟨template, library, position, announced, -, -⟩ := getAggrTemplate_announces deployed.table.template
      deployed.table.supported deployed.selected heap memory
    exact ⟨template, _, heap, memory, library, announced⟩

end System

theorem sample_deployed : Deployed initTemplate 1 (setFields 1 0x80A1 2 0xF0AA00AA) 2 .avg :=
  ⟨⟨by decide, by decide, by decide⟩, by decide, by decide, by decide, by decide⟩

def sampleWakes : List (Bool × TimerEvent) :=
  [(true, .data true fun _ => 3), (false, .template true), (false, .data true fun _ => 8)]

/-- Two collectors are averaged by an aggregator which then sends its template. -/
private theorem sample_averaging : ∃ (libraries : Bool → Library) (templateBuf : Region) (state : State)
    (actions : Actions Bool) (final : Deployment Bool State),
    (∀ collector, CollectorStarted HeaderConfig.sky initTemplate (libraries collector)) ∧
    Started HeaderConfig.sky initTemplate 1 templateBuf state ∧
    Run (deployment initTemplate (step ⟨fun _ _ => 0, fun _ _ => 0⟩ .avg HeaderConfig.sky 2) templateBuf) ⟨False, False⟩
      (start libraries state) actions final ∧
    sends actions = sampleWakes ∧ final.inFlight = [] ∧
    templateMessage HeaderConfig.sky [setFields 1 0x80A1 2 0xF0AA00AA] 1 ∈ final.emitted := by
  obtain ⟨⟨library, started⟩, templateBuf, state, aggregating⟩ :=
    exists_started sample_deployed ⟨fun _ => 1, fun _ => 2⟩ fun _ => 5
  obtain ⟨actions, final, executed, sent, drained, present, -⟩ :=
    (aggregating.aggregates ⟨fun _ _ => 0, fun _ _ => 0⟩ sample_deployed).schedules sample_deployed.table
      (fun _ : Bool => started) ⟨False, False⟩ sampleWakes
  exact ⟨_, templateBuf, _, actions, final, fun _ => started, aggregating, executed, sent, drained, present⟩

/-- In every reachable state the next step of any party is defined. A datagram on its way
to the aggregator is read inside its bounds, and no shift is as wide as its operand. -/
theorem always_defined {ι : Type} [DecidableEq ι] (overshift : Overshift) (sensor : List TemplateRec) (sensorPos : Nat)
    (rec : TemplateRec) (degree : Nat) (aggrFunc : AggrFunc) (deployed : Deployed sensor sensorPos rec degree aggrFunc)
    (faults : Faults) (libraries : ι → Library) (templateBuf : Region) (state : State)
    (started : ∀ collector, CollectorStarted HeaderConfig.sky sensor (libraries collector))
    (aggregating : Started HeaderConfig.sky sensor sensorPos templateBuf state) (actions : Actions ι)
    (final : Deployment ι State) (executed : Run (deployment sensor (step overshift aggrFunc HeaderConfig.sky degree)
      templateBuf) faults (start libraries state) actions final) :
    Progress (deployment sensor (step overshift aggrFunc HeaderConfig.sky degree) templateBuf) final ∧
      ∀ datagram : Datagram, datagram.data.bytes ∈ final.inFlight → isTemplate datagram = false → ∃ outcome,
        calcAggrPayload overshift aggrFunc HeaderConfig.sky degree datagram final.receiver = .ok outcome ∧
        (∀ index ∈ outcome.reads, index < datagram.data.size) ∧ ∀ amount ∈ outcome.shifts, amount < 32 := by
  obtain ⟨windows, pending, waiting, delivering, ⟨datagrams, position, placed, folding, same⟩, -⟩ :=
    (aggregating.aggregates overshift deployed).delivers deployed.table started executed
  refine ⟨(aggregating.aggregates overshift deployed).progresses deployed.table started executed, ?_⟩
  intro datagram flying kind
  have narrow := deployed.narrow
  rw [isTemplate_eq, Bool.not_eq_false'] at kind
  have arriving : datagram.data.bytes ∈ final.inFlight.filter isData := List.mem_filter.mpr ⟨flying, kind⟩
  rw [delivering.flying] at arriving
  obtain ⟨report, -, received⟩ := List.mem_map.mp arriving
  obtain ⟨contains, -⟩ := report_field deployed placed received.symm
  obtain ⟨outcome, called, -, reads, -⟩ := calcAggrPayload_total overshift aggrFunc HeaderConfig.sky degree
    (show rec.fieldLen.toNat < 256 by omega) datagram ⟨folding.selects, folding.held⟩
  refine ⟨outcome, called, ?_, ?_⟩
  · have positive := (supported_width (deployed.table.supported rec (List.mem_of_getElem? deployed.selected))).1
    rw [reads, readIndices_inside_iff _ _ (Nat.lt_of_succ_le positive), ← Nat.add_assoc]
    exact contains
  · intro amount member
    have width := folding.selects.2
    obtain ⟨index, rfl⟩ := calcAggrPayload_shifts (by rw [width]; omega) called amount member
    rw [shiftAmount, width]
    omega

theorem sample_defined : ∃ (libraries : Bool → Library) (templateBuf : Region) (state : State) (actions : Actions Bool)
    (final : Deployment Bool State),
    Run (deployment initTemplate (step ⟨fun _ _ => 0, fun _ _ => 0⟩ .avg HeaderConfig.sky 2) templateBuf) ⟨False, False⟩
      (start libraries state) actions final ∧ sends actions = sampleWakes ∧
    Progress (deployment initTemplate (step ⟨fun _ _ => 0, fun _ _ => 0⟩ .avg HeaderConfig.sky 2) templateBuf) final ∧
      ∀ datagram : Datagram, datagram.data.bytes ∈ final.inFlight → isTemplate datagram = false → ∃ outcome,
        calcAggrPayload ⟨fun _ _ => 0, fun _ _ => 0⟩ .avg HeaderConfig.sky 2 datagram final.receiver = .ok outcome ∧
        (∀ index ∈ outcome.reads, index < datagram.data.size) ∧ ∀ amount ∈ outcome.shifts, amount < 32 := by
  obtain ⟨libraries, templateBuf, state, actions, final, started, aggregating, executed, sent, -⟩ := sample_averaging
  exact ⟨libraries, templateBuf, state, actions, final, executed, sent, always_defined ⟨fun _ _ => 0, fun _ _ => 0⟩
    initTemplate 1 _ 2 .avg sample_deployed ⟨False, False⟩ libraries templateBuf state started aggregating actions final
    executed⟩

/-- Whatever the network does, each message that leaves the aggregator is its template or
the message of a complete window, and reads under the template as the aggregate of the
readings of the selected sensor in this window. -/
theorem every_aggregate_reads {ι : Type} [DecidableEq ι] (overshift : Overshift) (sensor : List TemplateRec)
    (sensorPos : Nat) (rec : TemplateRec) (degree : Nat) (aggrFunc : AggrFunc)
    (deployed : Deployed sensor sensorPos rec degree aggrFunc) (faults : Faults) (libraries : ι → Library)
    (templateBuf : Region) (state : State)
    (started : ∀ collector, CollectorStarted HeaderConfig.sky sensor (libraries collector))
    (aggregating : Started HeaderConfig.sky sensor sensorPos templateBuf state) (actions : Actions ι)
    (final : Deployment ι State) (executed : Run (deployment sensor (step overshift aggrFunc HeaderConfig.sky degree)
      templateBuf) faults (start libraries state) actions final) :
    ∃ windows pending waiting,
      Delivering sensor degree (templateMessage HeaderConfig.sky [rec] 1) (windowMessage aggrFunc sensorPos rec) final
        windows pending waiting ∧
      Accounted faults (windows.flatten ++ pending ++ waiting) (reports (sends actions)) ∧
      ∀ template ∈ final.emitted, isData template = false → ∀ index message,
        (final.emitted.filter isData)[index]? = some message → ∃ window, windows[index]? = some window ∧
          readMessage HeaderConfig.sky template message = some ⟨index % 256, [(describe rec,
            aggregate aggrFunc (window.map fun report => reading rec (report.readings sensorPos)))]⟩ := by
  obtain ⟨windows, pending, waiting, delivering, -, accounted⟩ :=
    (aggregating.aggregates overshift deployed).delivers deployed.table started executed
  refine ⟨windows, pending, waiting, delivering, accounted, ?_⟩
  intro template announced kind index message sent
  obtain rfl := delivering.templates template announced kind
  rw [delivering.emitted, List.getElem?_mapIdx, Option.map_eq_some_iff] at sent
  obtain ⟨window, found, rfl⟩ := sent
  exact ⟨window, found, window_reads deployed index window⟩

/-- The mean of 3 and 8 is sent as 5. -/
theorem sample_aggregate : ∃ (libraries : Bool → Library) (templateBuf : Region) (state : State) (actions : Actions Bool)
    (final : Deployment Bool State),
    Run (deployment initTemplate (step ⟨fun _ _ => 0, fun _ _ => 0⟩ .avg HeaderConfig.sky 2) templateBuf) ⟨False, False⟩
      (start libraries state) actions final ∧ sends actions = sampleWakes ∧
    ∃ template ∈ final.emitted, ∃ message ∈ final.emitted, readMessage HeaderConfig.sky template message =
      some ⟨0, [(describe (setFields 1 0x80A1 2 0xF0AA00AA), 5)]⟩ := by
  obtain ⟨libraries, templateBuf, state, actions, final, started, aggregating, executed, sent, drained, announced⟩ :=
    sample_averaging
  obtain ⟨windows, pending, waiting, delivering, accounted, reads⟩ := every_aggregate_reads ⟨fun _ _ => 0, fun _ _ => 0⟩
    initTemplate 1 _ 2 .avg sample_deployed ⟨False, False⟩ libraries templateBuf state started aggregating actions final
    executed
  rw [sent] at accounted
  obtain ⟨window, rfl, made⟩ := delivering.whole accounted id id drained rfl
  have single : final.emitted.filter isData =
      [windowMessage .avg 1 (setFields 1 0x80A1 2 0xF0AA00AA) 0 window] := delivering.emitted
  have member : windowMessage .avg 1 (setFields 1 0x80A1 2 0xF0AA00AA) 0 window ∈ final.emitted.filter isData := by
    rw [single]
    exact List.mem_singleton_self _
  obtain ⟨other, found, read⟩ := reads _ announced (isData_templateMessage (by decide)) 0 _ (by rw [single]; rfl)
  cases found
  have values := made.map fun report => reading (setFields 1 0x80A1 2 0xF0AA00AA) (report.readings 1)
  refine ⟨libraries, templateBuf, state, actions, final, executed, sent, _, announced, _, (List.mem_filter.mp member).1, ?_⟩
  rw [read, aggregate, values.sum_eq, values.length_eq]
  rfl

private theorem single_deployable {sensor : List TemplateRec} {sensorPos : Nat} {rec : TemplateRec} {degree : Nat}
    {aggrFunc : AggrFunc} (deployed : Deployed sensor sensorPos rec degree aggrFunc) : Deployable [rec] := by
  have narrow := deployed.narrow
  have bounds := HeaderConfig.sky.msgHeaderSize_bounds
  refine ⟨fun other member => ?_, (single_template_le _ rec).trans (by decide), ?_⟩
  · rw [List.mem_singleton.mp member]
    exact deployed.table.supported rec (List.mem_of_getElem? deployed.selected)
  · simp only [exactDataSize, List.map_cons, List.map_nil, List.sum_cons, List.sum_nil]
    omega

/-- The wake-ups by which a collector gets past the numbers in front of the first one of an
aggregator. -/
theorem unreachable_wakes (config : HeaderConfig) (sensor : List TemplateRec) (readings : Nat → UInt64) (count : Nat) :
    play (transmitted config sensor) (List.replicate count (.data false readings)) 0 = (count, []) := by
  induction count with
  | zero => rfl
  | succ count ih => rw [List.replicate_succ', play_append, ih]; rfl

/-- To its receivers the aggregator is a collector of the program with a table of one
record, which measures the aggregates of the windows and nothing else. -/
theorem acts_as_collector {ι : Type} [DecidableEq ι] (overshift : Overshift) (sensor : List TemplateRec)
    (sensorPos : Nat) (rec : TemplateRec) (degree : Nat) (aggrFunc : AggrFunc)
    (deployed : Deployed sensor sensorPos rec degree aggrFunc) (faults : Faults) (libraries : ι → Library)
    (templateBuf : Region) (state : State)
    (started : ∀ collector, CollectorStarted HeaderConfig.sky sensor (libraries collector))
    (aggregating : Started HeaderConfig.sky sensor sensorPos templateBuf state) (actions : Actions ι)
    (final : Deployment ι State) (executed : Run (deployment sensor (step overshift aggrFunc HeaderConfig.sky degree)
      templateBuf) faults (start libraries state) actions final) (heap : Heap) :
    ∃ windows pending waiting library after events,
      Delivering sensor degree (templateMessage HeaderConfig.sky [rec] 1) (windowMessage aggrFunc sensorPos rec) final
        windows pending waiting ∧
      initializeTinyipfix HeaderConfig.sky [rec] heap 1 Library.initial = .ok (0, library) ∧
      run (unicastSenderProcess HeaderConfig.sky [rec])
        (List.replicate 255 (.data false fun _ => 0) ++ events) library = .ok (after, final.emitted) ∧
      events.filterMap TimerEvent.readings? = windows.map fun window _ => UInt64.ofNat (aggregate aggrFunc
        (window.map fun report => reading rec (report.readings sensorPos))) := by
  obtain ⟨windows, pending, waiting, delivering, -, -⟩ :=
    (aggregating.aggregates overshift deployed).delivers deployed.table started executed
  have single := single_deployable deployed
  have data : final.emitted.filter isData =
      (windows.map fun window (_ : Nat) => UInt64.ofNat (windowValue aggrFunc sensorPos rec window)).mapIdx
        fun index readings => dataMessage HeaderConfig.sky [rec] (255 + index + 1) readings := by
    rw [delivering.emitted]
    apply List.ext_getElem
    · simp
    · intro index first second
      simp only [List.getElem_mapIdx, List.getElem_map]
      rw [windowMessage_collector deployed, dataMessage, dataMessage, plain_modulus,
        show (255 + index + 1) % 256 = index % 256 by omega]
  obtain ⟨events, played, read⟩ := collector_explains single 255 delivering.templates data
  obtain ⟨library, after, initialized, ran⟩ := collector_transmits single.supported single.templateFits single.dataFits heap
    (List.replicate 255 (.data false fun _ => 0) ++ events)
  rw [play_concat, unreachable_wakes, played] at ran
  exact ⟨windows, pending, waiting, library, after, events, delivering, initialized, ran, read⟩

theorem sample_collector : ∃ (libraries : Bool → Library) (templateBuf : Region) (state : State) (actions : Actions Bool)
    (final : Deployment Bool State) (library after : Library) (events : List TimerEvent),
    Run (deployment initTemplate (step ⟨fun _ _ => 0, fun _ _ => 0⟩ .avg HeaderConfig.sky 2) templateBuf) ⟨False, False⟩
      (start libraries state) actions final ∧ sends actions = sampleWakes ∧
    run (unicastSenderProcess HeaderConfig.sky [setFields 1 0x80A1 2 0xF0AA00AA])
      (List.replicate 255 (.data false fun _ => 0) ++ events) library = .ok (after, final.emitted) := by
  obtain ⟨libraries, templateBuf, state, actions, final, started, aggregating, executed, sent, -⟩ := sample_averaging
  obtain ⟨-, -, -, library, after, events, -, -, ran, -⟩ := acts_as_collector ⟨fun _ _ => 0, fun _ _ => 0⟩
    initTemplate 1 _ 2 .avg sample_deployed ⟨False, False⟩ libraries templateBuf state started aggregating actions final
    executed ⟨fun _ => 6, fun _ => 7⟩
  exact ⟨libraries, templateBuf, state, actions, final, library, after, events, executed, sent, ran⟩

end TinyIpfix.DataAggr
