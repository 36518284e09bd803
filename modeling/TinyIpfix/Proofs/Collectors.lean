import TinyIpfix.Proofs.ReceiverFilter
import TinyIpfix.Proofs.SendMemory
import TinyIpfix.System

/-! What the collectors put on the network, as reports: who made them, under which number,
and of which readings. The network accounts for reports as it does for their messages. -/

namespace TinyIpfix
open CMem Network Transducer

/-- One wake-up of a collector for data. -/
structure Report (ι : Type) where
  collector : ι
  number : Nat
  readings : Nat → UInt64

/-- A table whose own messages are sent whole. -/
structure Deployable (sensor : List TemplateRec) : Prop where
  supported : Supported sensor
  template : exactTemplateSize HeaderConfig.sky sensor 1 ≤ 255
  data : exactDataSize HeaderConfig.sky sensor ≤ 255

def isData (message : Message) : Bool := (message.headD 0 &&& 0xfc) != 0x04

section Abstract
variable {ι : Type} [DecidableEq ι]

/-- The collectors as counters. A report that nobody can be reached for is numbered, and lost. -/
def report (input : ι × TimerEvent) (served : ι → Nat) : (ι → Nat) × List (Report ι) :=
  match input.2 with
  | .template _ => (served, [])
  | .data reachable readings =>
    (Function.update served input.1 (served input.1 + 1),
      if reachable then [⟨input.1, served input.1 + 1, readings⟩] else [])

def reports (inputs : List (ι × TimerEvent)) : List (Report ι) := (play report inputs fun _ => 0).2

def reportMessage (sensor : List TemplateRec) (report : Report ι) : Message :=
  dataMessage HeaderConfig.sky sensor report.number report.readings

def collectorTemplate (sensor : List TemplateRec) : Message := templateMessage HeaderConfig.sky sensor 1

theorem reports_numbered (inputs : List (ι × TimerEvent)) :
    ((reports inputs).map fun report => (report.collector, report.number)).Nodup ∧
    ∀ report ∈ reports inputs, 1 ≤ report.number ∧
      report.number ≤ (play TinyIpfix.report inputs fun _ => 0).1 report.collector := by
  induction inputs using List.reverseRecOn with
  | nil => exact ⟨List.nodup_nil, by simp [reports]⟩
  | append_singleton inputs input ih =>
    obtain ⟨distinct, bounded⟩ := ih
    obtain ⟨collector, event⟩ := input
    cases event with
    | template reachable => simpa [reports, play_append, report] using ⟨distinct, bounded⟩
    | data reachable readings =>
      have grows : ∀ other, (play report inputs fun _ => 0).1 other ≤
          Function.update (play report inputs fun _ => 0).1 collector
            ((play report inputs fun _ => 0).1 collector + 1) other := by
        intro other
        rw [Function.update_apply]
        split
        next same => rw [same]; exact Nat.le_succ _
        next => exact Nat.le_refl _
      have earlier : ∀ older ∈ reports inputs, 1 ≤ older.number ∧
          older.number ≤ Function.update (play report inputs fun _ => 0).1 collector
            ((play report inputs fun _ => 0).1 collector + 1) older.collector := by
        intro older member
        exact ⟨(bounded older member).1, (bounded older member).2.trans (grows _)⟩
      cases reachable with
      | false => simpa [reports, play_append, report] using ⟨distinct, earlier⟩
      | true =>
        simp only [reports, play_append, report, ↓reduceIte, List.map_append, List.map_cons, List.map_nil]
        refine ⟨List.nodup_append.mpr ⟨distinct, by simp, ?_⟩, ?_⟩
        · intro key member other single
          obtain ⟨older, found, rfl⟩ := List.mem_map.mp member
          obtain rfl := List.mem_singleton.mp single
          intro same
          have upper := (bounded older found).2
          obtain ⟨source, number⟩ := Prod.mk.injEq .. ▸ same
          rw [source, number] at upper
          omega
        · intro newer member
          rcases List.mem_append.mp member with older | latest
          · exact earlier newer older
          · obtain rfl := List.mem_singleton.mp latest
            simp
end Abstract

section Kinds

theorem isTemplate_eq (datagram : Datagram) : isTemplate datagram = !isData datagram.data.bytes := by
  obtain ⟨⟨bytes, beyond⟩, nonempty, short⟩ := datagram
  cases bytes with
  | nil => simp [Region.size] at nonempty
  | cons byte bytes => simp [isTemplate, isData, Region.byteAt, bne]

private def carrier (message : Message) (nonempty : message ≠ []) (short : message.length < 65536) : Datagram :=
  ⟨⟨message, fun _ => 0⟩, List.length_pos_iff.mpr nonempty, short⟩

private theorem isData_headed {setId length seqNum : UInt16} (accepted : Accepted setId length) {message : Message}
    (starts : builtHeader HeaderConfig.sky setId length seqNum <+: message) :
    ∃ datagram, Headed HeaderConfig.sky setId datagram ∧ isData message = !isTemplate datagram := by
  have header := builtHeader_length HeaderConfig.sky seqNum accepted
  obtain ⟨rest, rfl⟩ := starts
  have nonempty : builtHeader HeaderConfig.sky setId length seqNum ≠ [] := by
    intro none
    rw [none] at header
    cases header
  refine ⟨carrier _ nonempty (by rw [header]; decide), ⟨length, seqNum, accepted, List.prefix_refl _⟩, ?_⟩
  rw [isTemplate_eq, Bool.not_not, isData, isData, carrier]
  obtain ⟨first, more, shape⟩ := List.exists_cons_of_ne_nil nonempty
  simp only [shape, List.cons_append, List.headD_cons]

theorem isData_dataHeader {length seqNum : UInt16} (accepted : Accepted dataSetId length) {message : Message}
    (starts : builtHeader HeaderConfig.sky dataSetId length seqNum <+: message) : isData message = true := by
  obtain ⟨datagram, headed, kind⟩ := isData_headed accepted starts
  rw [kind, data_passed headed, Bool.not_false]

private theorem isData_templateHeader {length seqNum : UInt16} (accepted : Accepted templateSetId length) {message : Message}
    (starts : builtHeader HeaderConfig.sky templateSetId length seqNum <+: message) : isData message = false := by
  obtain ⟨datagram, headed, kind⟩ := isData_headed accepted starts
  rw [kind, (template_dropped_iff headed).mpr ⟨rfl, rfl⟩, Bool.not_true]

private theorem isData_dataMessage {sensor : List TemplateRec} (fits : exactDataSize HeaderConfig.sky sensor ≤ maxMsgSize)
    (number : Nat) (readings : Nat → UInt64) :
    isData (dataMessage HeaderConfig.sky sensor number readings) = true :=
  isData_dataHeader (dataHeader_accepted fits) (List.prefix_append _ _)

theorem isData_templateMessage {sensor : List TemplateRec} {degree : Nat}
    (fits : exactTemplateSize HeaderConfig.sky sensor degree ≤ maxMsgSize) :
    isData (templateMessage HeaderConfig.sky sensor degree) = false :=
  isData_templateHeader (templateHeader_accepted fits) (List.prefix_append _ _)

end Kinds

theorem lowPart_whole {message : Message} (short : message.length ≤ 255) : lowPart message = message := by
  rw [lowPart, Nat.mod_eq_of_lt (by omega), List.take_length]

section Deployment
variable {ι : Type} [DecidableEq ι] {sensor : List TemplateRec}

theorem Deployable.templateFits (deployable : Deployable sensor) :
    exactTemplateSize HeaderConfig.sky sensor 1 ≤ maxMsgSize :=
  deployable.template.trans (by decide)

theorem Deployable.dataFits (deployable : Deployable sensor) : exactDataSize HeaderConfig.sky sensor ≤ maxMsgSize :=
  deployable.data.trans (by decide)

private theorem Deployable.transmitted_template (deployable : Deployable sensor) :
    lowPart (templateMessage HeaderConfig.sky sensor 1) = collectorTemplate sensor :=
  lowPart_whole (by rw [templateMessage_length _ deployable.templateFits]; exact deployable.template)

private theorem Deployable.transmitted_data (deployable : Deployable sensor) (number : Nat) (readings : Nat → UInt64) :
    lowPart (dataMessage HeaderConfig.sky sensor number readings) =
      dataMessage HeaderConfig.sky sensor number readings :=
  lowPart_whole (by rw [dataMessage_length _ deployable.supported deployable.dataFits]; exact deployable.data)

private theorem transmitted_report (deployable : Deployable sensor) (input : ι × TimerEvent) (served : ι → Nat) :
    (playTogether (transmitted HeaderConfig.sky sensor) input served).1 = (report input served).1 ∧
    (playTogether (transmitted HeaderConfig.sky sensor) input served).2.filter isData =
      (report input served).2.map (reportMessage sensor) ∧
    ∀ message ∈ (playTogether (transmitted HeaderConfig.sky sensor) input served).2,
      isData message = false → message = collectorTemplate sensor := by
  obtain ⟨collector, event⟩ := input
  cases event with
  | template reachable =>
    have template := isData_templateMessage deployable.templateFits
    cases reachable with
    | false => simp [playTogether, transmitted, report]
    | true =>
      refine ⟨Function.update_eq_self _ _, ?_, ?_⟩
      · simp [playTogether, transmitted, report, deployable.transmitted_template, collectorTemplate, template]
      · intro message member _
        rw [← deployable.transmitted_template]
        exact List.mem_singleton.mp member
  | data reachable readings =>
    have kind := isData_dataMessage deployable.dataFits (served collector + 1) readings
    cases reachable with
    | false => simp [playTogether, transmitted, report]
    | true =>
      refine ⟨rfl, ?_, ?_⟩
      · simp [playTogether, transmitted, report, reportMessage, kind, deployable.transmitted_data]
      · intro message member template
        obtain rfl := List.mem_singleton.mp member
        rw [deployable.transmitted_data, kind] at template
        cases template

/-- The data messages put on the network are those of the reports, in their order. -/
theorem transmitted_reports (deployable : Deployable sensor) (inputs : List (ι × TimerEvent)) :
    (play (playTogether (transmitted HeaderConfig.sky sensor)) inputs fun _ => 0).1 = (play report inputs fun _ => 0).1 ∧
    (play (playTogether (transmitted HeaderConfig.sky sensor)) inputs fun _ => 0).2.filter isData =
      (reports inputs).map (reportMessage sensor) ∧
    ∀ message ∈ (play (playTogether (transmitted HeaderConfig.sky sensor)) inputs fun _ => 0).2,
      isData message = false → message = collectorTemplate sensor := by
  induction inputs using List.reverseRecOn with
  | nil => simp [reports]
  | append_singleton inputs input ih =>
    obtain ⟨counted, data, others⟩ := ih
    obtain ⟨next, added, template⟩ := transmitted_report deployable input (play report inputs fun _ => 0).1
    rw [reports] at data ⊢
    rw [play_append, play_append, counted]
    refine ⟨next, by rw [List.filter_append, List.map_append, data, added], ?_⟩
    intro message member kind
    rcases List.mem_append.mp member with earlier | last
    · exact others message earlier kind
    · exact template message last kind

variable {σ : Type} {aggregator : AggregatorEvent → σ → Checked (σ × List Message)} {faults : Faults}
  {libraries : ι → Library} {state : σ} {actions : List (Action ι TimerEvent AggregatorEvent)}
  {final : Network.State ι Library σ Message Message}

theorem CollectorStarted.transmitting (deployable : Deployable sensor) {library : Library}
    (started : CollectorStarted HeaderConfig.sky sensor library) : Transmitting HeaderConfig.sky sensor library 0 := by
  obtain ⟨heap, code, initialized⟩ := started
  obtain ⟨same, again, transmitting⟩ := transmitting_initially deployable.templateFits deployable.dataFits heap
  rw [initialized] at again
  cases again
  exact transmitting

/-- In every run, each collector has handed out as many data messages as it counted, and
the network was given the messages of the reports. -/
theorem collectors_report (deployable : Deployable sensor)
    (started : ∀ collector, CollectorStarted HeaderConfig.sky sensor (libraries collector))
    (executed : Run (system HeaderConfig.sky sensor aggregator) faults (start libraries state) actions final) :
    (∀ collector, Transmitting HeaderConfig.sky sensor (final.senders collector)
      ((play report (sends actions) fun _ => 0).1 collector)) ∧
    final.transmitted.filter isData = (reports (sends actions)).map (reportMessage sensor) ∧
    ∀ message ∈ final.transmitted, isData message = false → message = collectorTemplate sensor := by
  obtain ⟨out, own, transmittedOut⟩ := executed.senders
  obtain ⟨counted, data, others⟩ := transmitted_reports deployable (sends actions)
  have initial : ∀ collector, Transmitting HeaderConfig.sky sensor (libraries collector) ((fun _ => 0 : ι → Nat) collector) :=
    fun collector => (started collector).transmitting deployable
  obtain ⟨reached, same, related⟩ := run_together (Transmitting HeaderConfig.sky sensor)
    (fun event library served transmitting => unicastSenderProcess_transmits deployable.supported
      deployable.templateFits deployable.dataFits transmitting event) initial (sends actions)
  cases same.symm.trans own
  have sent : final.transmitted = (play (playTogether (transmitted HeaderConfig.sky sensor)) (sends actions) fun _ => 0).2 :=
    transmittedOut
  rw [counted] at related
  rw [sent]
  exact ⟨related, data, others⟩

/-- Those reports whose messages were delivered, and those whose messages may still be. -/
theorem reports_accounted (deployable : Deployable sensor)
    (started : ∀ collector, CollectorStarted HeaderConfig.sky sensor (libraries collector))
    (executed : Run (system HeaderConfig.sky sensor aggregator) faults (start libraries state) actions final) :
    ∃ received waiting : List (Report ι),
      final.delivered.filter isData = received.map (reportMessage sensor) ∧
      final.inFlight.filter isData = waiting.map (reportMessage sensor) ∧
      Accounted faults (received ++ waiting) (reports (sends actions)) := by
  obtain ⟨-, data, -⟩ := collectors_report deployable started executed
  have accounted := executed.accounted.filter isData
  rw [data] at accounted
  obtain ⟨tracked, held, origins⟩ := accounted.lift
  rw [List.filter_append] at held
  obtain ⟨received, waiting, rfl, delivered, flying⟩ := List.map_eq_append_iff.mp held
  exact ⟨received, waiting, delivered.symm, flying.symm, origins⟩

theorem carried_flying (table : Deployable sensor)
    (started : ∀ collector, CollectorStarted HeaderConfig.sky sensor (libraries collector))
    (executed : Run (system HeaderConfig.sky sensor aggregator) faults (start libraries state) actions final) :
    ∀ message ∈ final.inFlight, ∃ event : AggregatorEvent, event.message? = some message := by
  intro message flying
  obtain ⟨-, data, others⟩ := collectors_report table started executed
  have known := executed.accounted.genuine message (List.mem_append_right _ flying)
  have bounds := HeaderConfig.sky.msgHeaderSize_bounds
  have sized : 0 < message.length ∧ message.length < 65536 := by
    cases kind : isData message with
    | false =>
      rw [others message known kind, collectorTemplate, templateMessage_length _ table.templateFits]
      have bound := table.template
      rw [exactTemplateSize] at bound ⊢
      omega
    | true =>
      have member : message ∈ final.transmitted.filter isData := List.mem_filter.mpr ⟨known, kind⟩
      rw [data] at member
      obtain ⟨report, -, rfl⟩ := List.mem_map.mp member
      rw [reportMessage, dataMessage_length _ table.supported table.dataFits]
      have bound := table.data
      rw [exactDataSize] at bound ⊢
      omega
  exact ⟨.receive ⟨⟨message, fun _ => 0⟩, sized.1, sized.2⟩, rfl⟩

end Deployment

section Explained
variable {sensor : List TemplateRec}

/-- The readings that a wake-up for data delivers. -/
def TimerEvent.readings? : TimerEvent → Option (Nat → UInt64)
  | .template _ => none
  | .data _ readings => some readings

/-- Messages are those of one collector as soon as the data messages among them are, and
the others are its template. -/
theorem collector_explains (deployable : Deployable sensor) {messages : List Message} {calls : List (Nat → UInt64)}
    (served : Nat) (others : ∀ message ∈ messages, isData message = false → message = collectorTemplate sensor)
    (data : messages.filter isData =
      calls.mapIdx fun index readings => dataMessage HeaderConfig.sky sensor (served + index + 1) readings) :
    ∃ events, play (transmitted HeaderConfig.sky sensor) events served = (served + calls.length, messages) ∧
      events.filterMap TimerEvent.readings? = calls := by
  induction messages generalizing calls served with
  | nil =>
    rw [List.filter_nil, eq_comm, List.mapIdx_eq_nil_iff] at data
    subst data
    exact ⟨[], rfl, rfl⟩
  | cons message messages ih =>
    have rest : ∀ other ∈ messages, isData other = false → other = collectorTemplate sensor :=
      fun other member => others other (List.mem_cons_of_mem _ member)
    cases kind : isData message with
    | false =>
      rw [List.filter_cons_of_neg (by simp [kind])] at data
      obtain ⟨events, played, read⟩ := ih served rest data
      refine ⟨.template true :: events, ?_, read⟩
      rw [play_cons, others message List.mem_cons_self kind]
      simp only [transmitted, ↓reduceIte, deployable.transmitted_template, played, List.singleton_append]
    | true =>
      rw [List.filter_cons_of_pos kind, eq_comm, List.mapIdx_eq_cons_iff] at data
      obtain ⟨readings, later, rfl, first, shifted⟩ := data
      have renumbered : messages.filter isData = later.mapIdx fun index readings =>
          dataMessage HeaderConfig.sky sensor (served + 1 + index + 1) readings := by
        rw [← shifted]
        congr 1
        funext index readings
        rw [Nat.add_right_comm served 1 index, Nat.add_assoc served index 1]
      obtain ⟨events, played, read⟩ := ih (served + 1) rest renumbered
      refine ⟨.data true readings :: events, ?_, by rw [← read]; rfl⟩
      rw [play_cons, ← first]
      simp only [transmitted, ↓reduceIte, deployable.transmitted_data, played, List.singleton_append, List.length_cons,
        Nat.add_zero]
      rw [Nat.add_assoc, Nat.add_comm 1]

end Explained

section Receptions
variable {σ : Type} {calcAggrPayload : Datagram → σ → Checked (σ × List Message)} {templateBuf : Region}

def AggregatorEvent.datagram? : AggregatorEvent → Option Datagram
  | .receive datagram => some datagram
  | .expire => none

/-- The datagrams that the callback was handed, in their order. -/
def receptions (events : List AggregatorEvent) : List Datagram :=
  events.filterMap AggregatorEvent.datagram?

theorem carried_receptions (events : List AggregatorEvent) :
    events.filterMap AggregatorEvent.message? = (receptions events).map fun datagram => datagram.data.bytes := by
  rw [receptions, List.map_filterMap]
  congr 1
  funext event
  cases event <;> rfl

theorem dataDatagrams_bytes (datagrams : List Datagram) :
    (datagrams.map fun datagram => datagram.data.bytes).filter isData =
      (dataDatagrams datagrams).map fun datagram => datagram.data.bytes := by
  rw [List.filter_map, dataDatagrams]
  congr 2
  funext datagram
  rw [isTemplate_eq, Bool.not_not, Function.comp_apply]

/-- The timer of the aggregator only puts its template between what the callback sends. -/
theorem run_aggregatorProcess {template : Message} (sending : sendAggrTemplate templateBuf = .ok [template])
    {events : List AggregatorEvent} {state final : σ} {emitted : List Message}
    (executed : run (aggregatorProcess calcAggrPayload templateBuf) events state = .ok (final, emitted)) :
    ∃ sent, run calcAggrPayload (dataDatagrams (receptions events)) state = .ok (final, sent) ∧
      Interspersed (· = template) sent emitted := by
  rw [← run_receiver]
  induction events generalizing state emitted with
  | nil =>
    cases executed
    exact ⟨[], rfl, .nil⟩
  | cons event events ih =>
    obtain ⟨next, first, rest, stepped, later, rfl⟩ := run_cons_inv executed
    obtain ⟨sent, again, interspersed⟩ := ih later
    cases event with
    | receive datagram =>
      exact ⟨first ++ sent, run_cons_ok stepped again, interspersed.prepend first⟩
    | expire =>
      simp only [aggregatorProcess, sending, ok_bind, pure_ok] at stepped
      cases stepped
      exact ⟨sent, again, .insert template rfl interspersed⟩

end Receptions

end TinyIpfix
