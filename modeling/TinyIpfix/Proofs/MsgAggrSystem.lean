import TinyIpfix.Proofs.Deployment
import TinyIpfix.Proofs.Readings

/-! The deployed system with message aggregation. In every run, what leaves the aggregator
says what the collectors measured: each complete window of reports is one message, and it
reads as these reports under any template that was sent. -/

namespace TinyIpfix.MsgAggr
open CMem Network Transducer Window

/-- A table and a degree for which every message is sent whole and every window has room. -/
structure Deployed (sensor : List TemplateRec) (degree : Nat) : Prop where
  table : Deployable sensor
  positive : 1 ≤ degree
  small : degree ≤ 255
  template : exactTemplateSize HeaderConfig.sky sensor degree ≤ 255
  room : HeaderConfig.sky.msgHeaderSize + degree * (fieldLens sensor).sum ≤ maxMsgSize

section Reports
variable {ι : Type} {sensor : List TemplateRec}

def reportsBytes (sensor : List TemplateRec) (reports : List (Report ι)) : List UInt8 :=
  reports.flatMap fun report => dataBytes sensor report.readings

private theorem payload_report (table : Deployable sensor) {datagram : Datagram} {report : Report ι}
    (received : datagram.data.bytes = reportMessage sensor report) :
    payload HeaderConfig.sky datagram = dataBytes sensor report.readings := by
  rw [payload, received]
  exact List.drop_left' (builtHeader_length _ _ (dataHeader_accepted table.dataFits))

private theorem payloads_reports (table : Deployable sensor) {datagrams : List Datagram} {reports : List (Report ι)}
    (received : datagrams.map (fun datagram => datagram.data.bytes) = reports.map (reportMessage sensor)) :
    payloads HeaderConfig.sky datagrams = reportsBytes sensor reports := by
  induction datagrams generalizing reports with
  | nil =>
    rw [List.map_nil, eq_comm, List.map_eq_nil_iff] at received
    rw [received]
    rfl
  | cons datagram datagrams ih =>
    obtain ⟨report, rest, rfl, first, others⟩ := List.map_eq_cons_iff.mp received.symm
    rw [payloads, List.flatMap_cons, payload_report table first.symm, reportsBytes, List.flatMap_cons]
    congr 1
    exact ih others.symm

private theorem reportsBytes_length (supported : Supported sensor) (reports : List (Report ι)) :
    (reportsBytes sensor reports).length = reports.length * (fieldLens sensor).sum := by
  induction reports with
  | nil => simp [reportsBytes]
  | cons report reports ih =>
    rw [reportsBytes, List.flatMap_cons, List.length_append, dataBytes_length supported, ← reportsBytes, ih,
      List.length_cons, Nat.succ_mul, Nat.add_comm, fieldLens]

private theorem report_size (table : Deployable sensor) {datagram : Datagram} {report : Report ι}
    (received : datagram.data.bytes = reportMessage sensor report) :
    datagram.data.size = HeaderConfig.sky.msgHeaderSize + (fieldLens sensor).sum := by
  rw [Region.size, received, reportMessage, dataMessage_length _ table.supported table.dataFits, exactDataSize, fieldLens]

theorem message_reports (table : Deployable sensor) (index : Nat) {datagrams : List Datagram} {reports : List (Report ι)}
    (received : datagrams.map (fun datagram => datagram.data.bytes) = reports.map (reportMessage sensor)) :
    message HeaderConfig.sky index datagrams =
      framed HeaderConfig.sky (UInt16.ofNat index) (reportsBytes sensor reports) := by
  rw [message, frame, messageLength, payloads_reports table received, framed]

end Reports

/-- The aggregator sends its template whole, whatever start-up found in memory. -/
theorem Started.sends {sensor : List TemplateRec} {degree : Nat} (deployed : Deployed sensor degree) {templateBuf : Region}
    {state : State} (started : Started HeaderConfig.sky sensor degree templateBuf state) :
    sendAggrTemplate templateBuf = .ok [templateMessage HeaderConfig.sky sensor degree] := by
  obtain ⟨heap, memory, beyond, library, got, -⟩ := started
  have fits : exactTemplateSize HeaderConfig.sky sensor degree ≤ maxMsgSize := deployed.template.trans (by decide)
  obtain ⟨begun, initialized, -⟩ := bind_inv got
  obtain ⟨template, copied, starts⟩ := getAggrTemplate_ok deployed.small fits ⟨List.replicate maxMsgSize 0, memory⟩
    (by simp [Region.size]) initialized
  cases copied.symm.trans got
  have length := templateMessage_length HeaderConfig.sky fits
  rw [sendAggrTemplate_eq fits starts, ← length, view_lowPart starts, lowPart_whole (by rw [length]; exact deployed.template)]

/-- The buffer holds the payloads of messages of these reports. -/
def Holds {ι : Type} (sensor : List TemplateRec) (state : State) (collected : Collected (Report ι)) : Prop :=
  ∃ datagrams, Collecting HeaderConfig.sky state ⟨collected.closed, datagrams⟩ ∧
    datagrams.map (fun datagram => datagram.data.bytes) = collected.pending.map (reportMessage sensor)

/-- The message of a window of reports. -/
def windowMessage {ι : Type} (sensor : List TemplateRec) (index : Nat) (window : List (Report ι)) : Message :=
  framed HeaderConfig.sky (UInt16.ofNat index) (reportsBytes sensor window)

section System
variable {ι : Type} {sensor : List TemplateRec} {degree : Nat} {templateBuf : Region} {state : State}

private theorem window_room (deployed : Deployed sensor degree) {reports : List (Report ι)} (few : reports.length ≤ degree) :
    HeaderConfig.sky.msgHeaderSize + (reportsBytes sensor reports).length ≤ maxMsgSize := by
  rw [reportsBytes_length deployed.table.supported]
  exact (Nat.add_le_add_left (Nat.mul_le_mul_right _ few) _).trans deployed.room

theorem Holds.follows (deployed : Deployed sensor degree) {collected : Collected (Report ι)} {datagram : Datagram}
    {report : Report ι} (held : Holds sensor state collected) (opened : collected.pending.length < degree)
    (received : datagram.data.bytes = reportMessage sensor report) :
    ∃ next, calcAggrPayload HeaderConfig.sky degree datagram state =
        .ok (next, (push degree (windowMessage sensor) report collected).2) ∧
      Holds sensor next (push degree (windowMessage sensor) report collected).1 := by
  obtain ⟨datagrams, collecting, same⟩ := held
  have small := deployed.small
  have size := report_size deployed.table received
  have counted : datagrams.length = collected.pending.length := by simpa using congrArg List.length same
  have both : (datagrams ++ [datagram]).map (fun datagram => datagram.data.bytes) =
      (collected.pending ++ [report]).map (reportMessage sensor) := by
    rw [List.map_append, List.map_append, same, List.map_singleton, List.map_singleton, received]
  have room := window_room deployed (show (collected.pending ++ [report]).length ≤ degree by
    rw [List.length_append, List.length_singleton]
    exact opened)
  rw [← payloads_reports deployed.table both] at room
  obtain ⟨next, stepped, kept⟩ := calcAggrPayload_follows HeaderConfig.sky (show degree < 256 by omega) datagram
    collecting (by rw [counted]; exact opened) (by rw [size]; exact Nat.le_add_right _ _) room
  obtain ⟨sent, closed, pending⟩ := push_agrees degree (message HeaderConfig.sky) (windowMessage sensor)
    (show (⟨collected.closed, datagrams⟩ : Collected Datagram).closed = collected.closed from rfl) same received
    fun items partners _ agree => message_reports deployed.table _ agree
  rw [sent] at stepped
  refine ⟨next, stepped, _, ?_, pending⟩
  rw [← closed]
  exact kept

theorem Started.aggregates (deployed : Deployed sensor degree)
    (started : Started HeaderConfig.sky sensor degree templateBuf state) :
    Aggregates sensor degree (calcAggrPayload HeaderConfig.sky degree) templateBuf
      (templateMessage HeaderConfig.sky sensor degree) (windowMessage sensor)
      (Holds sensor : State → Collected (Report ι) → Prop) state := by
  refine ⟨deployed.positive, started.sends deployed, isData_templateMessage (deployed.template.trans (by decide)), ?_, ?_,
    ?_⟩
  · intro index window full
    exact isData_dataHeader (dataHeader_accepted (window_room deployed full.le)) (List.prefix_append _ _)
  · obtain ⟨heap, memory, beyond, library, -, rfl⟩ := started
    exact ⟨[], collecting_initial HeaderConfig.sky beyond, rfl⟩
  · intro current collected datagram report held opened received
    exact held.follows deployed opened received

theorem window_reads (deployed : Deployed sensor degree) (index : Nat) {window : List (Report ι)}
    (full : window.length = degree) :
    readMessage HeaderConfig.sky (templateMessage HeaderConfig.sky sensor degree) (windowMessage sensor index window) =
      some ⟨index % 256, window.flatMap fun report => measured sensor report.readings⟩ := by
  have counted : (window.map Report.readings).length = degree := by rw [List.length_map, full]
  have read := readMessage_framed deployed.table.supported (window.map Report.readings)
    (by rw [counted]; exact deployed.template.trans (by decide)) (by rw [counted]; exact deployed.room) (UInt16.ofNat index)
  have number : (UInt16.ofNat index).toNat % seqModulus HeaderConfig.sky = index % 256 := by
    rw [UInt16.toNat_ofNat']
    exact Nat.mod_mod_of_dvd index (by decide)
  rw [counted, number, List.flatMap_map, List.flatMap_map] at read
  exact read

theorem exists_started (deployed : Deployed sensor degree) (heap : Heap) (memory beyond : Nat → UInt8) :
    (∃ library, CollectorStarted HeaderConfig.sky sensor library) ∧
    ∃ templateBuf, Started HeaderConfig.sky sensor degree templateBuf (initial HeaderConfig.sky beyond) := by
  have fits : exactTemplateSize HeaderConfig.sky sensor degree ≤ maxMsgSize := deployed.template.trans (by decide)
  constructor
  · obtain ⟨library, initialized, -⟩ := transmitting_initially deployed.table.templateFits deployed.table.dataFits heap
    exact ⟨library, heap, 0, initialized⟩
  · obtain ⟨code, library, initialized⟩ := initializeTinyipfix_degree heap deployed.small fits
      fun _ => deployed.table.dataFits
    obtain ⟨template, copied, -⟩ := getAggrTemplate_ok deployed.small fits ⟨List.replicate maxMsgSize 0, memory⟩
      (by simp [Region.size]) initialized
    exact ⟨template, heap, memory, beyond, library, copied, rfl⟩

end System

theorem sample_deployed : Deployed initTemplate 2 :=
  ⟨⟨by decide, by decide, by decide⟩, by decide, by decide, by decide, by decide⟩

/-- Two collectors wake up, one of them also for its template. -/
def sampleWakes : List (Bool × TimerEvent) :=
  [(true, .data true fun _ => 1), (false, .template true), (false, .data true fun _ => 1)]

/-- All of it arrives at an aggregator which then sends its template. -/
private theorem sample_deployment : ∃ (libraries : Bool → Library) (templateBuf : Region) (state : State)
    (actions : Actions Bool) (final : Deployment Bool State),
    (∀ collector, CollectorStarted HeaderConfig.sky initTemplate (libraries collector)) ∧
    Started HeaderConfig.sky initTemplate 2 templateBuf state ∧
    Run (deployment initTemplate (calcAggrPayload HeaderConfig.sky 2) templateBuf) ⟨False, False⟩ (start libraries state)
      actions final ∧
    sends actions = sampleWakes ∧ final.inFlight = [] ∧ templateMessage HeaderConfig.sky initTemplate 2 ∈ final.emitted := by
  obtain ⟨⟨library, started⟩, templateBuf, aggregating⟩ :=
    exists_started sample_deployed ⟨fun _ => 1, fun _ => 2⟩ (fun _ => 3) fun _ => 4
  obtain ⟨actions, final, executed, sent, drained, announced, -⟩ := (aggregating.aggregates sample_deployed).schedules
    sample_deployed.table (fun _ : Bool => started) ⟨False, False⟩ sampleWakes
  exact ⟨_, templateBuf, _, actions, final, fun _ => started, aggregating, executed, sent, drained, announced⟩

/-- In every reachable state the next step of any party is defined, the aggregator writes
inside its buffer, and nothing it sent is longer than the buffer. -/
theorem always_safe {ι : Type} [DecidableEq ι] (sensor : List TemplateRec) (degree : Nat)
    (deployed : Deployed sensor degree) (faults : Faults) (libraries : ι → Library) (templateBuf : Region) (state : State)
    (started : ∀ collector, CollectorStarted HeaderConfig.sky sensor (libraries collector))
    (aggregating : Started HeaderConfig.sky sensor degree templateBuf state) (actions : Actions ι)
    (final : Deployment ι State) (executed : Run (deployment sensor (calcAggrPayload HeaderConfig.sky degree) templateBuf)
      faults (start libraries state) actions final) :
    Progress (deployment sensor (calcAggrPayload HeaderConfig.sky degree) templateBuf) final ∧
      Inside HeaderConfig.sky final.receiver ∧ ∀ message ∈ final.emitted, message.length ≤ maxMsgSize := by
  obtain ⟨windows, pending, waiting, delivering, ⟨datagrams, collecting, same⟩, -⟩ :=
    (aggregating.aggregates deployed).delivers deployed.table started executed
  refine ⟨(aggregating.aggregates deployed).progresses deployed.table started executed, ?_, ?_⟩
  · have placed := collecting.placed
    rw [messageLength, payloads_reports deployed.table same] at placed
    exact ⟨by rw [placed]; exact Nat.le_add_right _ _,
      by rw [placed]; exact window_room deployed (Nat.le_of_lt delivering.opened), collecting.sized⟩
  · intro message member
    cases kind : isData message with
    | false =>
      rw [delivering.templates message member kind, templateMessage_length _ (deployed.template.trans (by decide))]
      exact deployed.template.trans (by decide)
    | true =>
      have window : message ∈ final.emitted.filter isData := List.mem_filter.mpr ⟨member, kind⟩
      rw [delivering.emitted] at window
      obtain ⟨index, inside, rfl⟩ := List.mem_mapIdx.mp window
      have room := window_room deployed (delivering.full _ (List.getElem_mem inside)).le
      rw [windowMessage, framed_length _ _ room]
      exact room

theorem sample_safe : ∃ (libraries : Bool → Library) (templateBuf : Region) (state : State) (actions : Actions Bool)
    (final : Deployment Bool State),
    Run (deployment initTemplate (calcAggrPayload HeaderConfig.sky 2) templateBuf) ⟨False, False⟩ (start libraries state)
      actions final ∧ sends actions = sampleWakes ∧
    Progress (deployment initTemplate (calcAggrPayload HeaderConfig.sky 2) templateBuf) final ∧
      Inside HeaderConfig.sky final.receiver ∧ ∀ message ∈ final.emitted, message.length ≤ maxMsgSize := by
  obtain ⟨libraries, templateBuf, state, actions, final, started, aggregating, executed, sent, -⟩ := sample_deployment
  exact ⟨libraries, templateBuf, state, actions, final, executed, sent, always_safe initTemplate 2 sample_deployed
    ⟨False, False⟩ libraries templateBuf state started aggregating actions final executed⟩

/-- Whatever the network does, each message that leaves the aggregator is its template or
the message of a complete window, and reads under the template as the measurements in it. -/
theorem every_message_reads {ι : Type} [DecidableEq ι] (sensor : List TemplateRec) (degree : Nat)
    (deployed : Deployed sensor degree) (faults : Faults) (libraries : ι → Library) (templateBuf : Region) (state : State)
    (started : ∀ collector, CollectorStarted HeaderConfig.sky sensor (libraries collector))
    (aggregating : Started HeaderConfig.sky sensor degree templateBuf state) (actions : Actions ι)
    (final : Deployment ι State) (executed : Run (deployment sensor (calcAggrPayload HeaderConfig.sky degree) templateBuf)
      faults (start libraries state) actions final) :
    ∃ windows pending waiting,
      Delivering sensor degree (templateMessage HeaderConfig.sky sensor degree) (windowMessage sensor) final windows pending
        waiting ∧
      Holds sensor final.receiver ⟨windows.length, pending⟩ ∧
      Accounted faults (windows.flatten ++ pending ++ waiting) (reports (sends actions)) ∧
      ∀ template ∈ final.emitted, isData template = false → ∀ index message,
        (final.emitted.filter isData)[index]? = some message → ∃ window, windows[index]? = some window ∧
          readMessage HeaderConfig.sky template message =
            some ⟨index % 256, window.flatMap fun report => measured sensor report.readings⟩ := by
  obtain ⟨windows, pending, waiting, delivering, held, accounted⟩ :=
    (aggregating.aggregates deployed).delivers deployed.table started executed
  refine ⟨windows, pending, waiting, delivering, held, accounted, ?_⟩
  intro template announced kind index message sent
  obtain rfl := delivering.templates template announced kind
  rw [delivering.emitted, List.getElem?_mapIdx, Option.map_eq_some_iff] at sent
  obtain ⟨window, found, rfl⟩ := sent
  exact ⟨window, found, window_reads deployed index (delivering.full window (List.mem_of_getElem? found))⟩

theorem sample_every_message : ∃ (libraries : Bool → Library) (templateBuf : Region) (state : State)
    (actions : Actions Bool) (final : Deployment Bool State),
    Run (deployment initTemplate (calcAggrPayload HeaderConfig.sky 2) templateBuf) ⟨False, False⟩ (start libraries state)
      actions final ∧
    ∃ template ∈ final.emitted, ∃ message ∈ final.emitted, readMessage HeaderConfig.sky template message =
      some ⟨0, measured initTemplate (fun _ => 1) ++ measured initTemplate fun _ => 1⟩ := by
  obtain ⟨libraries, templateBuf, state, actions, final, started, aggregating, executed, sent, drained, announced⟩ :=
    sample_deployment
  obtain ⟨windows, pending, waiting, delivering, -, accounted, reads⟩ := every_message_reads initTemplate 2
    sample_deployed ⟨False, False⟩ libraries templateBuf state started aggregating actions final executed
  rw [sent] at accounted
  obtain ⟨window, rfl, made⟩ := delivering.whole accounted id id drained rfl
  have single : final.emitted.filter isData = [windowMessage initTemplate 0 window] := delivering.emitted
  have member : windowMessage initTemplate 0 window ∈ final.emitted.filter isData := by
    rw [single]
    exact List.mem_singleton_self _
  obtain ⟨other, found, read⟩ := reads _ announced (isData_templateMessage (by decide)) 0 _ (by rw [single]; rfl)
  cases found
  have same : window.map Report.readings = List.replicate 2 fun _ => 1 := List.perm_replicate.mp (made.map Report.readings)
  refine ⟨libraries, templateBuf, state, actions, final, executed, _, announced, _, (List.mem_filter.mp member).1, ?_⟩
  rw [read, ← List.flatMap_map Report.readings (measured initTemplate), same]
  rfl

end TinyIpfix.MsgAggr
