import TinyIpfix.Proofs.DataAggrSystem
import TinyIpfix.Proofs.MsgAggrSystem

/-! The two ways to aggregate side by side: both count reports alike, and what one sends
for a window can be computed from what the other sends for it. -/

namespace TinyIpfix
open CMem Network Transducer Window Layout

section Agreement
variable {ι κ : Type} {sensor : List TemplateRec} {sensorPos : Nat} {rec : TemplateRec} {degree : Nat}

@[simp] theorem measured_length (sensor : List TemplateRec) (readings : Nat → UInt64) :
    (measured sensor readings).length = sensor.length := by
  simp [measured]

private theorem measured_of_message (table : Deployable sensor) {first : Report ι} {second : Report κ}
    (same : reportMessage sensor first = reportMessage sensor second) :
    measured sensor first.readings = measured sensor second.readings := by
  have length := fun number => builtHeader_length HeaderConfig.sky number (dataHeader_accepted table.dataFits)
  have bodies := congrArg (List.drop HeaderConfig.sky.msgHeaderSize) same
  simp only [reportMessage, dataMessage, List.drop_left' (length _)] at bodies
  rw [← zip_measured table.supported, ← zip_measured table.supported, bodies]

private theorem measured_of_messages (table : Deployable sensor) {first : List (Report ι)} {second : List (Report κ)}
    (same : first.map (reportMessage sensor) = second.map (reportMessage sensor)) :
    first.map (fun report => measured sensor report.readings) =
      second.map fun report => measured sensor report.readings := by
  induction first generalizing second with
  | nil =>
    rw [List.map_nil, eq_comm, List.map_eq_nil_iff] at same
    rw [same]
    rfl
  | cons report first ih =>
    obtain ⟨partner, rest, rfl, head, tail⟩ := List.map_eq_cons_iff.mp same.symm
    rw [List.map_cons, List.map_cons, measured_of_message table head.symm, ih tail.symm]

private theorem measured_getElem? (selected : sensor[sensorPos]? = some rec) (readings : Nat → UInt64) :
    (measured sensor readings)[sensorPos]? = some (describe rec, DataAggr.reading rec (readings sensorPos)) := by
  simp [measured, List.getElem?_map, List.getElem?_zipIdx, selected]

/-- The values of one record in the fields read of an aggregated message. -/
def recordValues (sensor : List TemplateRec) (sensorPos degree : Nat) (fields : List (ParsedRecord × Nat)) : List Nat :=
  (List.range degree).map fun index => ((fields[index * sensor.length + sensorPos]?).map Prod.snd).getD 0

private theorem recordValues_measured (selected : sensor[sensorPos]? = some rec) (window : List (Report ι)) :
    recordValues sensor sensorPos window.length (window.flatMap fun report => measured sensor report.readings) =
      window.map fun report => DataAggr.reading rec (report.readings sensorPos) := by
  obtain ⟨inside, -⟩ := List.getElem?_eq_some_iff.mp selected
  have field : ∀ index, (window.flatMap fun report => measured sensor report.readings)[index * sensor.length + sensorPos]? =
      window[index]?.bind fun report => (measured sensor report.readings)[sensorPos]? :=
    fun index => flatMap_getElem? _ (fun report => measured_length sensor report.readings) window index inside
  apply List.ext_getElem
  · simp [recordValues]
  · intro index first second
    have within : index < window.length := by simpa [recordValues] using first
    simp [recordValues, field, measured_getElem? selected, List.getElem?_eq_getElem within]

end Agreement

/-- Aggregating in the network is aggregating afterwards. Where the aggregators of the two
modes were handed the same data messages, the value that one sends for a window is the
aggregate of the values that a receiver reads of the message the other sends for it. -/
theorem modes_agree {ι κ : Type} [DecidableEq ι] [DecidableEq κ] (overshift : DataAggr.Overshift)
    (sensor : List TemplateRec) (sensorPos : Nat) (rec : TemplateRec) (degree : Nat) (aggrFunc : DataAggr.AggrFunc)
    (copying : MsgAggr.Deployed sensor degree) (folding : DataAggr.Deployed sensor sensorPos rec degree aggrFunc)
    (faults faults' : Faults) (libraries : ι → Library) (libraries' : κ → Library) (templateBuf templateBuf' : Region)
    (state : MsgAggr.State) (state' : DataAggr.State)
    (started : ∀ collector, CollectorStarted HeaderConfig.sky sensor (libraries collector))
    (started' : ∀ collector, CollectorStarted HeaderConfig.sky sensor (libraries' collector))
    (aggregating : MsgAggr.Started HeaderConfig.sky sensor degree templateBuf state)
    (aggregating' : DataAggr.Started HeaderConfig.sky sensor sensorPos templateBuf' state')
    (actions : Actions ι) (actions' : Actions κ) (final : Deployment ι MsgAggr.State) (final' : Deployment κ DataAggr.State)
    (executed : Run (deployment sensor (MsgAggr.calcAggrPayload HeaderConfig.sky degree) templateBuf) faults
      (start libraries state) actions final)
    (executed' : Run (deployment sensor (DataAggr.step overshift aggrFunc HeaderConfig.sky degree) templateBuf') faults'
      (start libraries' state') actions' final')
    (same : final.delivered.filter isData = final'.delivered.filter isData) :
    (final.emitted.filter isData).length = (final'.emitted.filter isData).length ∧
    ∀ template ∈ final.emitted, isData template = false → ∀ template' ∈ final'.emitted, isData template' = false →
      ∀ (index : Nat) (message message' : Message), (final.emitted.filter isData)[index]? = some message →
        (final'.emitted.filter isData)[index]? = some message' →
        ∃ decoded, readMessage HeaderConfig.sky template message = some decoded ∧
          readMessage HeaderConfig.sky template' message' = some ⟨decoded.seqNum, [(describe rec,
            DataAggr.aggregate aggrFunc (recordValues sensor sensorPos degree decoded.fields))]⟩ := by
  obtain ⟨windows, pending, waiting, delivering, -, -⟩ :=
    (aggregating.aggregates copying).delivers copying.table started executed
  obtain ⟨windows', pending', waiting', delivering', -, -⟩ :=
    (aggregating'.aggregates overshift folding).delivers folding.table started' executed'
  constructor
  · rw [delivering.emitted, delivering'.emitted, List.length_mapIdx, List.length_mapIdx, delivering.windows_length,
      delivering'.windows_length, same]
  · intro template announced kind template' announced' kind' index message message' sent sent'
    obtain rfl := delivering.templates template announced kind
    obtain rfl := delivering'.templates template' announced' kind'
    rw [delivering.emitted, List.getElem?_mapIdx, Option.map_eq_some_iff] at sent
    rw [delivering'.emitted, List.getElem?_mapIdx, Option.map_eq_some_iff] at sent'
    obtain ⟨window, found, rfl⟩ := sent
    obtain ⟨window', found', rfl⟩ := sent'
    have full := delivering.full window (List.mem_of_getElem? found)
    have full' := delivering'.full window' (List.mem_of_getElem? found')
    have messages := delivering.window_delivered found
    rw [same, delivering'.window_delivered found'] at messages
    refine ⟨_, MsgAggr.window_reads copying index full, ?_⟩
    rw [DataAggr.window_reads folding, DataAggr.windowValue, ← recordValues_measured folding.selected window', full',
      List.flatMap_def, measured_of_messages copying.table messages, ← List.flatMap_def]

/-- The same two collectors report to one aggregator of each mode. -/
theorem sample_agree : ∃ (libraries : Bool → Library) (templateBuf templateBuf' : Region) (state : MsgAggr.State)
    (state' : DataAggr.State) (actions actions' : Actions Bool) (final : Deployment Bool MsgAggr.State)
    (final' : Deployment Bool DataAggr.State),
    Run (deployment initTemplate (MsgAggr.calcAggrPayload HeaderConfig.sky 2) templateBuf) ⟨False, False⟩
      (start libraries state) actions final ∧
    Run (deployment initTemplate (DataAggr.step ⟨fun _ _ => 0, fun _ _ => 0⟩ .avg HeaderConfig.sky 2) templateBuf')
      ⟨False, False⟩ (start libraries state') actions' final' ∧
    sends actions = DataAggr.sampleWakes ∧ sends actions' = DataAggr.sampleWakes ∧
    (final.emitted.filter isData).length = (final'.emitted.filter isData).length := by
  obtain ⟨⟨library, started⟩, templateBuf, aggregating⟩ :=
    MsgAggr.exists_started MsgAggr.sample_deployed ⟨fun _ => 1, fun _ => 2⟩ (fun _ => 3) fun _ => 4
  obtain ⟨-, templateBuf', state', aggregating'⟩ :=
    DataAggr.exists_started DataAggr.sample_deployed ⟨fun _ => 5, fun _ => 6⟩ fun _ => 7
  obtain ⟨actions, final, executed, sent, -, -, delivered⟩ := (aggregating.aggregates MsgAggr.sample_deployed).schedules
    MsgAggr.sample_deployed.table (fun _ : Bool => started) ⟨False, False⟩ DataAggr.sampleWakes
  obtain ⟨actions', final', executed', sent', -, -, delivered'⟩ :=
    (aggregating'.aggregates ⟨fun _ _ => 0, fun _ _ => 0⟩ DataAggr.sample_deployed).schedules
      DataAggr.sample_deployed.table (fun _ : Bool => started) ⟨False, False⟩ DataAggr.sampleWakes
  have agree := modes_agree ⟨fun _ _ => 0, fun _ _ => 0⟩ initTemplate 1 _ 2 .avg MsgAggr.sample_deployed
    DataAggr.sample_deployed ⟨False, False⟩ ⟨False, False⟩ _ _ templateBuf templateBuf' _ state' (fun _ => started)
    (fun _ => started) aggregating aggregating' actions actions' final final' executed executed'
    (delivered.trans delivered'.symm)
  exact ⟨_, templateBuf, templateBuf', _, state', actions, actions', final, final', executed, executed', sent, sent',
    agree.1⟩

/-- If the network makes no copies, neither aggregator counts a wake-up of a collector
twice, be it in one window or in two. -/
theorem counted_once {ι : Type} [DecidableEq ι] (sensor : List TemplateRec) (faults : Faults)
    (noCopies : ¬ faults.duplicates) (libraries : ι → Library)
    (started : ∀ collector, CollectorStarted HeaderConfig.sky sensor (libraries collector)) (degree : Nat)
    (templateBuf : Region) :
    (MsgAggr.Deployed sensor degree → ∀ state, MsgAggr.Started HeaderConfig.sky sensor degree templateBuf state →
      ∀ (actions : Actions ι) final, Run (deployment sensor (MsgAggr.calcAggrPayload HeaderConfig.sky degree) templateBuf)
        faults (start libraries state) actions final →
      ∃ windows pending waiting, Delivering sensor degree (templateMessage HeaderConfig.sky sensor degree)
          (MsgAggr.windowMessage sensor) final windows pending waiting ∧
        ((windows.flatten ++ pending ++ waiting).map fun report => (report.collector, report.number)).Nodup) ∧
    ∀ overshift sensorPos rec aggrFunc, DataAggr.Deployed sensor sensorPos rec degree aggrFunc → ∀ state,
      DataAggr.Started HeaderConfig.sky sensor sensorPos templateBuf state → ∀ (actions : Actions ι) final,
      Run (deployment sensor (DataAggr.step overshift aggrFunc HeaderConfig.sky degree) templateBuf) faults
        (start libraries state) actions final →
      ∃ windows pending waiting, Delivering sensor degree (templateMessage HeaderConfig.sky [rec] 1)
          (DataAggr.windowMessage aggrFunc sensorPos rec) final windows pending waiting ∧
        ((windows.flatten ++ pending ++ waiting).map fun report => (report.collector, report.number)).Nodup := by
  constructor
  · intro deployed state aggregating actions final executed
    obtain ⟨windows, pending, waiting, delivering, -, accounted⟩ :=
      (aggregating.aggregates deployed).delivers deployed.table started executed
    exact ⟨windows, pending, waiting, delivering, accounted.distinct noCopies _ (reports_numbered _).1⟩
  · intro overshift sensorPos rec aggrFunc deployed state aggregating actions final executed
    obtain ⟨windows, pending, waiting, delivering, -, accounted⟩ :=
      (aggregating.aggregates overshift deployed).delivers deployed.table started executed
    exact ⟨windows, pending, waiting, delivering, accounted.distinct noCopies _ (reports_numbered _).1⟩

theorem sample_once : (∃ (libraries : Bool → Library) (templateBuf : Region) (state : MsgAggr.State)
    (actions : Actions Bool) (final : Deployment Bool MsgAggr.State),
    Run (deployment initTemplate (MsgAggr.calcAggrPayload HeaderConfig.sky 2) templateBuf) ⟨True, False⟩
      (start libraries state) actions final ∧ sends actions = MsgAggr.sampleWakes ∧
    ∃ windows pending waiting, Delivering initTemplate 2 (templateMessage HeaderConfig.sky initTemplate 2)
        (MsgAggr.windowMessage initTemplate) final windows pending waiting ∧
      ((windows.flatten ++ pending ++ waiting).map fun report => (report.collector, report.number)).Nodup) ∧
    ∃ (libraries : Bool → Library) (templateBuf : Region) (state : DataAggr.State) (actions : Actions Bool)
      (final : Deployment Bool DataAggr.State),
    Run (deployment initTemplate (DataAggr.step ⟨fun _ _ => 0, fun _ _ => 0⟩ .avg HeaderConfig.sky 2) templateBuf)
      ⟨True, False⟩ (start libraries state) actions final ∧ sends actions = DataAggr.sampleWakes ∧
    ∃ windows pending waiting, Delivering initTemplate 2 (templateMessage HeaderConfig.sky [setFields 1 0x80A1 2 0xF0AA00AA] 1)
        (DataAggr.windowMessage .avg 1 (setFields 1 0x80A1 2 0xF0AA00AA)) final windows pending waiting ∧
      ((windows.flatten ++ pending ++ waiting).map fun report => (report.collector, report.number)).Nodup := by
  constructor
  · obtain ⟨⟨library, started⟩, templateBuf, aggregating⟩ :=
      MsgAggr.exists_started MsgAggr.sample_deployed ⟨fun _ => 1, fun _ => 2⟩ (fun _ => 3) fun _ => 4
    obtain ⟨actions, final, executed, sent, -⟩ := (aggregating.aggregates MsgAggr.sample_deployed).schedules
      MsgAggr.sample_deployed.table (fun _ : Bool => started) ⟨True, False⟩ MsgAggr.sampleWakes
    exact ⟨_, templateBuf, _, actions, final, executed, sent, (counted_once initTemplate ⟨True, False⟩ id _
      (fun _ => started) 2 templateBuf).1 MsgAggr.sample_deployed _ aggregating actions final executed⟩
  · obtain ⟨⟨library, started⟩, templateBuf, state, aggregating⟩ :=
      DataAggr.exists_started DataAggr.sample_deployed ⟨fun _ => 5, fun _ => 6⟩ fun _ => 7
    obtain ⟨actions, final, executed, sent, -⟩ :=
      (aggregating.aggregates ⟨fun _ _ => 0, fun _ _ => 0⟩ DataAggr.sample_deployed).schedules
        DataAggr.sample_deployed.table (fun _ : Bool => started) ⟨True, False⟩ DataAggr.sampleWakes
    exact ⟨_, templateBuf, _, actions, final, executed, sent, (counted_once initTemplate ⟨True, False⟩ id _
      (fun _ => started) 2 templateBuf).2 _ 1 _ .avg DataAggr.sample_deployed _ aggregating actions final executed⟩

/-- On a reliable network the messages in flight can be delivered from every reachable
state, and then every wake-up of a collector is counted exactly once, by either aggregator. -/
theorem counted_all {ι : Type} [DecidableEq ι] (sensor : List TemplateRec) (faults : Faults) (noLoss : ¬ faults.loses)
    (noCopies : ¬ faults.duplicates) (libraries : ι → Library)
    (started : ∀ collector, CollectorStarted HeaderConfig.sky sensor (libraries collector)) (degree : Nat)
    (templateBuf : Region) :
    (MsgAggr.Deployed sensor degree → ∀ state, MsgAggr.Started HeaderConfig.sky sensor degree templateBuf state →
      ∀ (actions : Actions ι) final, Run (deployment sensor (MsgAggr.calcAggrPayload HeaderConfig.sky degree) templateBuf)
        faults (start libraries state) actions final →
      ∃ deliveries last, Run (deployment sensor (MsgAggr.calcAggrPayload HeaderConfig.sky degree) templateBuf) faults
          (start libraries state) (actions ++ deliveries) last ∧ sends deliveries = [] ∧ last.inFlight = [] ∧
        ∃ windows pending, Delivering sensor degree (templateMessage HeaderConfig.sky sensor degree)
            (MsgAggr.windowMessage sensor) last windows pending [] ∧
          windows.length = (reports (sends actions)).length / degree ∧
          (windows.flatten ++ pending).Perm (reports (sends actions))) ∧
    ∀ overshift sensorPos rec aggrFunc, DataAggr.Deployed sensor sensorPos rec degree aggrFunc → ∀ state,
      DataAggr.Started HeaderConfig.sky sensor sensorPos templateBuf state → ∀ (actions : Actions ι) final,
      Run (deployment sensor (DataAggr.step overshift aggrFunc HeaderConfig.sky degree) templateBuf) faults
        (start libraries state) actions final →
      ∃ deliveries last, Run (deployment sensor (DataAggr.step overshift aggrFunc HeaderConfig.sky degree) templateBuf)
          faults (start libraries state) (actions ++ deliveries) last ∧ sends deliveries = [] ∧ last.inFlight = [] ∧
        ∃ windows pending, Delivering sensor degree (templateMessage HeaderConfig.sky [rec] 1)
            (DataAggr.windowMessage aggrFunc sensorPos rec) last windows pending [] ∧
          windows.length = (reports (sends actions)).length / degree ∧
          (windows.flatten ++ pending).Perm (reports (sends actions)) := by
  constructor
  · intro deployed state aggregating actions final executed
    obtain ⟨deliveries, last, whole, none, drained, windows, pending, delivering, -, counted, same⟩ :=
      (aggregating.aggregates deployed).settles deployed.table started noLoss noCopies executed
    exact ⟨deliveries, last, whole, none, drained, windows, pending, delivering, counted, same⟩
  · intro overshift sensorPos rec aggrFunc deployed state aggregating actions final executed
    obtain ⟨deliveries, last, whole, none, drained, windows, pending, delivering, -, counted, same⟩ :=
      (aggregating.aggregates overshift deployed).settles deployed.table started noLoss noCopies executed
    exact ⟨deliveries, last, whole, none, drained, windows, pending, delivering, counted, same⟩

theorem sample_all : ∃ (libraries : Bool → Library) (templateBuf : Region) (state : MsgAggr.State) (actions : Actions Bool)
    (last : Deployment Bool MsgAggr.State),
    Run (deployment initTemplate (MsgAggr.calcAggrPayload HeaderConfig.sky 2) templateBuf) ⟨False, False⟩
      (start libraries state) actions last ∧
    ∃ windows pending, Delivering initTemplate 2 (templateMessage HeaderConfig.sky initTemplate 2)
        (MsgAggr.windowMessage initTemplate) last windows pending [] ∧ windows.length = 1 ∧
      (windows.flatten ++ pending).Perm (reports MsgAggr.sampleWakes) := by
  obtain ⟨⟨library, started⟩, templateBuf, aggregating⟩ :=
    MsgAggr.exists_started MsgAggr.sample_deployed ⟨fun _ => 1, fun _ => 2⟩ (fun _ => 3) fun _ => 4
  obtain ⟨actions, final, executed, sent, -⟩ := (aggregating.aggregates MsgAggr.sample_deployed).schedules
    MsgAggr.sample_deployed.table (fun _ : Bool => started) ⟨False, False⟩ MsgAggr.sampleWakes
  obtain ⟨deliveries, last, whole, -, -, windows, pending, delivering, counted, same⟩ := (counted_all initTemplate
    ⟨False, False⟩ id id _ (fun _ => started) 2 templateBuf).1 MsgAggr.sample_deployed _ aggregating actions final executed
  rw [sent] at counted same
  exact ⟨_, templateBuf, _, _, last, whole, windows, pending, delivering, counted, same⟩

end TinyIpfix
