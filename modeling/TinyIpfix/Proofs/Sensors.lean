import TinyIpfix.Proofs.MsgAggrSystem
import TinyIpfix.Sensors

/-! What the shipped table means: every record that leaves the aggregator names the node
that measured it. -/

namespace TinyIpfix
open CMem Network

/-- The fields of the shipped table, with what the devices deliver. -/
def deviceFields (devices : Devices) : List (ParsedRecord × Nat) :=
  (initTemplate.map describe).zip
    [devices.temp.toNat, devices.humid.toNat, devices.lightPhoto.toNat, devices.lightTotal.toNat,
      devices.battery.toNat, devices.clockSeconds.toNat, nodeId devices.lladdr, 0]

/-- The shift goes through a signed variable in between, but no bit of the two octets is lost. -/
theorem readId_toNat (devices : Devices) : (readId devices).toNat = nodeId devices.lladdr := by
  have high := (devices.lladdr 6).toNat_lt
  have low := (devices.lladdr 7).toNat_lt
  have joined := Nat.shiftLeft_add_eq_or_of_lt low (devices.lladdr 6).toNat
  rw [Nat.shiftLeft_eq] at joined
  rw [readId, UInt16.toNat_or, UInt16.toNat_shiftLeft]
  simp only [UInt8.toNat_toUInt16, nodeId]
  rw [show (8 : UInt16).toNat % 16 = 8 from rfl, Nat.shiftLeft_eq, Nat.mod_eq_of_lt (by omega), ← joined]

private theorem reading_two {rec : TemplateRec} (wide : rec.fieldLen = 2) (value : UInt16) :
    DataAggr.reading rec value.toUInt64 = value.toNat := by
  rw [DataAggr.reading, wide, UInt16.toNat_toUInt64]
  exact Nat.mod_eq_of_lt value.toNat_lt

private theorem reading_four {rec : TemplateRec} (wide : rec.fieldLen = 4) (value : UInt32) :
    DataAggr.reading rec value.toUInt64 = value.toNat := by
  rw [DataAggr.reading, wide, UInt32.toNat_toUInt64]
  exact Nat.mod_eq_of_lt value.toNat_lt

/-- The widths of the table take all of what is delivered. -/
theorem measured_devices (devices : Devices) : measured initTemplate (sensVal devices) = deviceFields devices := by
  simp only [measured, deviceFields, initTemplate, List.zipIdx_cons, List.zipIdx_nil, List.map_cons, List.map_nil,
    List.zip_cons_cons, List.zip_nil_right, sensVal, Nat.zero_add, Nat.reduceAdd]
  rw [reading_two rfl, reading_two rfl, reading_two rfl, reading_two rfl, reading_two rfl, reading_four rfl,
    reading_two rfl, readId_toNat]
  rfl

section Driven
variable {ι : Type} [DecidableEq ι]

/-- Every wake-up for data reads the devices of the node that woke up. -/
def Driven (lladdr : ι → Fin 8 → UInt8) (inputs : List (ι × TimerEvent)) : Prop :=
  ∀ collector reachable readings, (collector, TimerEvent.data reachable readings) ∈ inputs →
    ∃ devices, devices.lladdr = lladdr collector ∧ readings = sensVal devices

private theorem reports_driven {lladdr : ι → Fin 8 → UInt8} {inputs : List (ι × TimerEvent)} (driven : Driven lladdr inputs) :
    ∀ report ∈ reports inputs, ∃ devices, devices.lladdr = lladdr report.collector ∧ report.readings = sensVal devices := by
  induction inputs using List.reverseRecOn with
  | nil => simp [reports]
  | append_singleton inputs input ih =>
    have earlier := ih fun collector reachable readings member => driven collector reachable readings (by simp [member])
    obtain ⟨collector, event⟩ := input
    intro made member
    rw [reports, Transducer.play_append] at member
    rcases List.mem_append.mp member with older | latest
    · exact earlier made older
    · cases event with
      | template reachable => cases latest
      | data reachable readings =>
        cases reachable with
        | false => cases latest
        | true =>
          obtain rfl := List.mem_singleton.mp latest
          exact driven collector true readings (by simp)

omit [DecidableEq ι] in
theorem window_devices {lladdr : ι → Fin 8 → UInt8} {window : List (Report ι)}
    (driven : ∀ report ∈ window, ∃ devices, devices.lladdr = lladdr report.collector ∧ report.readings = sensVal devices) :
    ∃ asked : List Devices, asked.map (fun devices => (devices.lladdr, sensVal devices)) =
        window.map (fun report => (lladdr report.collector, report.readings)) ∧
      window.flatMap (fun report => measured initTemplate report.readings) = asked.flatMap deviceFields := by
  induction window with
  | nil => exact ⟨[], rfl, rfl⟩
  | cons report window ih =>
    obtain ⟨devices, address, readings⟩ := driven report (by simp)
    obtain ⟨asked, delivered, fields⟩ := ih fun other member => driven other (by simp [member])
    refine ⟨devices :: asked, by rw [List.map_cons, List.map_cons, address, readings, delivered], ?_⟩
    rw [List.flatMap_cons, List.flatMap_cons, readings, measured_devices, fields]

end Driven

/-- Where the nodes run the shipped table, each aggregated message reads as what the devices
delivered for the reports in its window, under the numbers of the nodes that made them. -/
theorem every_record_names_its_node {ι : Type} [DecidableEq ι] (degree : Nat)
    (deployed : MsgAggr.Deployed initTemplate degree) (faults : Faults) (libraries : ι → Library) (templateBuf : Region)
    (state : MsgAggr.State) (started : ∀ collector, CollectorStarted HeaderConfig.sky initTemplate (libraries collector))
    (aggregating : MsgAggr.Started HeaderConfig.sky initTemplate degree templateBuf state) (actions : Actions ι)
    (final : Deployment ι MsgAggr.State)
    (executed : Run (deployment initTemplate (MsgAggr.calcAggrPayload HeaderConfig.sky degree) templateBuf) faults
      (start libraries state) actions final)
    (lladdr : ι → Fin 8 → UInt8) (driven : Driven lladdr (sends actions)) :
    ∃ windows pending waiting,
      Delivering initTemplate degree (templateMessage HeaderConfig.sky initTemplate degree)
        (MsgAggr.windowMessage initTemplate) final windows pending waiting ∧
      Accounted faults (windows.flatten ++ pending ++ waiting) (reports (sends actions)) ∧
      ∀ template ∈ final.emitted, isData template = false → ∀ index message,
        (final.emitted.filter isData)[index]? = some message → ∃ window, ∃ asked : List Devices,
          windows[index]? = some window ∧ asked.map (fun devices => (devices.lladdr, sensVal devices)) =
            window.map (fun report => (lladdr report.collector, report.readings)) ∧
          readMessage HeaderConfig.sky template message = some ⟨index % 256, asked.flatMap deviceFields⟩ := by
  obtain ⟨windows, pending, waiting, delivering, -, accounted⟩ :=
    (aggregating.aggregates deployed).delivers deployed.table started executed
  refine ⟨windows, pending, waiting, delivering, accounted, ?_⟩
  intro template announced kind index message sent
  obtain rfl := delivering.templates template announced kind
  rw [delivering.emitted, List.getElem?_mapIdx, Option.map_eq_some_iff] at sent
  obtain ⟨window, found, rfl⟩ := sent
  have member := List.mem_of_getElem? found
  have genuine : ∀ report ∈ window, report ∈ reports (sends actions) := by
    intro report inside
    apply accounted.genuine
    rw [List.append_assoc]
    exact List.mem_append_left _ (List.mem_flatten_of_mem member inside)
  obtain ⟨asked, delivered, fields⟩ := window_devices fun report inside => reports_driven driven report (genuine report inside)
  refine ⟨window, asked, found, delivered, ?_⟩
  rw [MsgAggr.window_reads deployed index (delivering.full window member), fields]

/-- Two nodes wake up, with addresses that differ in their last octet. -/
def sampleDevices (node : Bool) : Devices where
  temp := 300
  humid := 70
  lightPhoto := 5
  lightTotal := 9
  battery := 2900
  clockSeconds := 65536
  lladdr octet := if node && octet == Fin.last 7 then 2 else 1

theorem sample_names : ∃ (libraries : Bool → Library) (templateBuf : Region) (state : MsgAggr.State)
    (actions : Actions Bool) (final : Deployment Bool MsgAggr.State),
    Run (deployment initTemplate (MsgAggr.calcAggrPayload HeaderConfig.sky 2) templateBuf) ⟨False, False⟩
      (start libraries state) actions final ∧
    ∃ template ∈ final.emitted, ∃ message ∈ final.emitted, ∃ (window : List (Report Bool)) (asked : List Devices),
      window.Perm (reports (sends actions)) ∧ asked.map (fun devices => (devices.lladdr, sensVal devices)) =
        window.map (fun report => ((sampleDevices report.collector).lladdr, report.readings)) ∧
      readMessage HeaderConfig.sky template message = some ⟨0, asked.flatMap deviceFields⟩ := by
  obtain ⟨⟨library, started⟩, templateBuf, aggregating⟩ :=
    MsgAggr.exists_started MsgAggr.sample_deployed ⟨fun _ => 1, fun _ => 2⟩ (fun _ => 3) fun _ => 4
  obtain ⟨actions, final, executed, sent, drained, announced, -⟩ := (aggregating.aggregates MsgAggr.sample_deployed).schedules
    MsgAggr.sample_deployed.table (fun _ : Bool => started) ⟨False, False⟩
    [(true, .data true (sensVal (sampleDevices true))), (false, .data true (sensVal (sampleDevices false)))]
  have driven : Driven (fun node => (sampleDevices node).lladdr) (sends actions) := by
    rw [sent]
    intro node reachable readings member
    simp only [List.mem_cons, List.not_mem_nil, or_false, Prod.mk.injEq, TimerEvent.data.injEq] at member
    rcases member with ⟨rfl, -, rfl⟩ | ⟨rfl, -, rfl⟩
    · exact ⟨sampleDevices true, rfl, rfl⟩
    · exact ⟨sampleDevices false, rfl, rfl⟩
  obtain ⟨windows, pending, waiting, delivering, accounted, names⟩ := every_record_names_its_node 2 MsgAggr.sample_deployed
    ⟨False, False⟩ _ templateBuf _ (fun _ => started) aggregating actions final executed _ driven
  obtain ⟨window, rfl, made⟩ := delivering.whole accounted id id drained (by rw [sent]; rfl)
  have single : final.emitted.filter isData = [MsgAggr.windowMessage initTemplate 0 window] := delivering.emitted
  have member : MsgAggr.windowMessage initTemplate 0 window ∈ final.emitted.filter isData := by
    rw [single]
    exact List.mem_singleton_self _
  obtain ⟨other, asked, found, delivered, read⟩ :=
    names _ announced (isData_templateMessage (by decide)) 0 _ (by rw [single]; rfl)
  cases found
  exact ⟨_, templateBuf, _, actions, final, executed, _, announced, _, (List.mem_filter.mp member).1, window, asked, made,
    delivered, read⟩

end TinyIpfix
