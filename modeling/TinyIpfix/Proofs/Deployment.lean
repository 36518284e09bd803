import TinyIpfix.Lib.Window
import TinyIpfix.Proofs.Collectors

/-! The whole system around an aggregation of which only one step is known: handed the
message of a report, it moves as the machine that collects reports in windows. -/

namespace TinyIpfix
open CMem Network Transducer Window

abbrev Actions (ι : Type) := List (Action ι TimerEvent AggregatorEvent)

abbrev Deployment (ι σ : Type) := Network.State ι Library σ Message Message

def deployment {σ : Type} (sensor : List TemplateRec) (calcAggrPayload : Datagram → σ → Checked (σ × List Message))
    (templateBuf : Region) : Parties TimerEvent AggregatorEvent Library σ Message Message Fault :=
  system HeaderConfig.sky sensor (aggregatorProcess calcAggrPayload templateBuf)

/-- An aggregation that was started, with what it sends for its template and for a window,
and how its state holds the reports of an open window. -/
structure Aggregates {ι σ : Type} (sensor : List TemplateRec) (degree : Nat)
    (calcAggrPayload : Datagram → σ → Checked (σ × List Message)) (templateBuf : Region) (template : Message)
    (emit : Nat → List (Report ι) → Message) (holds : σ → Collected (Report ι) → Prop) (state : σ) : Prop where
  positive : 1 ≤ degree
  sendsTemplate : sendAggrTemplate templateBuf = .ok [template]
  announces : isData template = false
  frames : ∀ index window, window.length = degree → isData (emit index window) = true
  starts : holds state (boundary 0)
  follows : ∀ current collected datagram report, holds current collected → collected.pending.length < degree →
    datagram.data.bytes = reportMessage sensor report →
    ∃ next, calcAggrPayload datagram current = .ok (next, (push degree emit report collected).2) ∧
      holds next (push degree emit report collected).1

/-- Where the reports are that were not lost: in the messages of complete windows, with
the aggregator, or still on the way to it. -/
structure Delivering {ι σ : Type} (sensor : List TemplateRec) (degree : Nat) (template : Message)
    (emit : Nat → List (Report ι) → Message) (final : Deployment ι σ) (windows : List (List (Report ι)))
    (pending waiting : List (Report ι)) : Prop where
  full : ∀ window ∈ windows, window.length = degree
  opened : pending.length < degree
  templates : ∀ message ∈ final.emitted, isData message = false → message = template
  emitted : final.emitted.filter isData = windows.mapIdx emit
  delivered : final.delivered.filter isData = (windows.flatten ++ pending).map (reportMessage sensor)
  flying : final.inFlight.filter isData = waiting.map (reportMessage sensor)

section System
variable {ι σ : Type} {sensor : List TemplateRec} {degree : Nat}
  {calcAggrPayload : Datagram → σ → Checked (σ × List Message)} {templateBuf : Region} {template : Message}
  {emit : Nat → List (Report ι) → Message} {holds : σ → Collected (Report ι) → Prop} {state : σ}

theorem Aggregates.run (aggregates : Aggregates sensor degree calcAggrPayload templateBuf template emit holds state)
    {datagrams : List Datagram} {received : List (Report ι)}
    (delivered : datagrams.map (fun datagram => datagram.data.bytes) = received.map (reportMessage sensor)) :
    ∃ final, Transducer.run calcAggrPayload datagrams state =
        .ok (final, (play (push degree emit) received (boundary 0)).2) ∧
      holds final (play (push degree emit) received (boundary 0)).1 := by
  induction datagrams using List.reverseRecOn generalizing received with
  | nil =>
    rw [List.map_nil, eq_comm, List.map_eq_nil_iff] at delivered
    subst delivered
    exact ⟨state, rfl, aggregates.starts⟩
  | append_singleton datagrams datagram ih =>
    rw [List.map_append, List.map_singleton, eq_comm, List.map_eq_append_iff] at delivered
    obtain ⟨earlier, last, rfl, front, single⟩ := delivered
    obtain ⟨report, rfl, bytes⟩ := List.map_eq_singleton_iff.mp single
    obtain ⟨middle, executed, held⟩ := ih front.symm
    obtain ⟨next, stepped, kept⟩ := aggregates.follows middle _ datagram report held
      (pending_lt aggregates.positive emit 0 earlier) bytes.symm
    rw [play_append]
    exact ⟨next, run_append_ok executed (run_singleton stepped), kept⟩

private theorem windows_full {received : List (Report ι)} {window : List (Report ι)}
    (member : window ∈ (List.range (received.length / degree)).map (Window.window degree received)) :
    window.length = degree := by
  obtain ⟨index, complete, rfl⟩ := List.mem_map.mp member
  exact window_length (List.mem_range.mp complete)

private theorem sent_windows (degree : Nat) (emit : Nat → List (Report ι) → Message) (received : List (Report ι)) :
    ((List.range (received.length / degree)).map fun index => emit index (window degree received index)) =
      ((List.range (received.length / degree)).map (window degree received)).mapIdx emit := by
  apply List.ext_getElem
  · simp
  · intro index first second
    simp

variable {final : Deployment ι σ} {windows : List (List (Report ι))} {pending waiting : List (Report ι)}

private theorem Delivering.flattened (delivering : Delivering sensor degree template emit final windows pending waiting) :
    windows.flatten.length = windows.length * degree := by
  rw [List.length_flatten, List.map_eq_replicate_iff.mpr delivering.full, List.sum_replicate_nat]

theorem Delivering.windows_length (delivering : Delivering sensor degree template emit final windows pending waiting) :
    windows.length = (final.delivered.filter isData).length / degree := by
  have opened := delivering.opened
  rw [delivering.delivered, List.length_map, List.length_append, delivering.flattened, Nat.add_comm,
    Nat.add_mul_div_right _ _ (show 0 < degree by omega), Nat.div_eq_of_lt opened, Nat.zero_add]

theorem Delivering.arrived (delivering : Delivering sensor degree template emit final windows pending waiting)
    (drained : final.inFlight = []) : waiting = [] := by
  have flying := delivering.flying
  rw [drained, List.filter_nil, eq_comm, List.map_eq_nil_iff] at flying
  exact flying

theorem Delivering.window_delivered (delivering : Delivering sensor degree template emit final windows pending waiting)
    {index : Nat} {reports : List (Report ι)} (found : windows[index]? = some reports) :
    window degree (final.delivered.filter isData) index = reports.map (reportMessage sensor) := by
  rw [delivering.delivered, ← window_map, window_flatten delivering.full pending found]

/-- When everything has arrived and nothing was lost or copied, every report is counted. -/
theorem Delivering.settled (delivering : Delivering sensor degree template emit final windows pending waiting)
    {faults : Faults} {made : List (Report ι)} (accounted : Accounted faults (windows.flatten ++ pending ++ waiting) made)
    (noLoss : ¬ faults.loses) (noCopies : ¬ faults.duplicates) (drained : final.inFlight = []) :
    windows.length = made.length / degree ∧ (windows.flatten ++ pending).Perm made := by
  obtain rfl := delivering.arrived drained
  have opened := delivering.opened
  have same := accounted.conserved noLoss noCopies
  rw [List.append_nil] at same
  refine ⟨?_, same⟩
  rw [← same.length_eq, List.length_append, delivering.flattened, Nat.add_comm,
    Nat.add_mul_div_right _ _ (show 0 < degree by omega), Nat.div_eq_of_lt opened, Nat.zero_add]

theorem Delivering.whole (delivering : Delivering sensor degree template emit final windows pending waiting)
    {faults : Faults} {made : List (Report ι)} (accounted : Accounted faults (windows.flatten ++ pending ++ waiting) made)
    (noLoss : ¬ faults.loses) (noCopies : ¬ faults.duplicates) (drained : final.inFlight = [])
    (full : made.length = degree) : ∃ window, windows = [window] ∧ window.Perm made := by
  obtain ⟨counted, same⟩ := delivering.settled accounted noLoss noCopies drained
  have opened := delivering.opened
  rw [full, Nat.div_self (show 0 < degree by omega)] at counted
  obtain ⟨window, rfl⟩ := List.length_eq_one_iff.mp counted
  have total := same.length_eq
  rw [List.length_append, delivering.flattened, full, counted, Nat.one_mul] at total
  obtain rfl : pending = [] := List.length_eq_zero_iff.mp (by omega)
  exact ⟨window, rfl, by simpa using same⟩

variable [DecidableEq ι] {faults : Faults} {libraries : ι → Library} {actions : Actions ι}

/-- Every run of the deployed system leaves each report that was not lost in one of the
three places, as often as the network lets it. -/
theorem Aggregates.delivers (aggregates : Aggregates sensor degree calcAggrPayload templateBuf template emit holds state)
    (table : Deployable sensor) (started : ∀ collector, CollectorStarted HeaderConfig.sky sensor (libraries collector))
    (executed : Run (deployment sensor calcAggrPayload templateBuf) faults (start libraries state) actions final) :
    ∃ windows pending waiting, Delivering sensor degree template emit final windows pending waiting ∧
      holds final.receiver ⟨windows.length, pending⟩ ∧
      Accounted faults (windows.flatten ++ pending ++ waiting) (reports (sends actions)) := by
  obtain ⟨received, waiting, delivered, flying, accounted⟩ := reports_accounted table started executed
  obtain ⟨out, own, emittedOut⟩ := executed.receiver
  have carried : final.delivered = (receptions (receives actions)).map fun datagram => datagram.data.bytes :=
    executed.delivered.trans (carried_receptions _)
  have emitted : final.emitted = out := emittedOut
  rw [carried, dataDatagrams_bytes] at delivered
  obtain ⟨sent, handed, interspersed⟩ := run_aggregatorProcess aggregates.sendsTemplate own
  obtain ⟨reached, followed, held⟩ := aggregates.run delivered
  cases followed.symm.trans handed
  rw [← emitted] at interspersed
  rw [play_push aggregates.positive] at interspersed held
  simp only [Nat.zero_add, sent_windows degree emit] at interspersed held
  have data : ∀ message ∈ ((List.range (received.length / degree)).map (window degree received)).mapIdx emit,
      isData message = true := by
    intro message member
    obtain ⟨index, inside, rfl⟩ := List.mem_mapIdx.mp member
    exact aggregates.frames index _ (windows_full (List.getElem_mem inside))
  refine ⟨(List.range (received.length / degree)).map (window degree received),
    received.drop (received.length / degree * degree), waiting, ⟨fun window => windows_full, ?_, ?_, ?_, ?_, flying⟩,
    by simpa using held, ?_⟩
  · have counted := Nat.div_add_mod' received.length degree
    have small := Nat.mod_lt received.length aggregates.positive
    rw [List.length_drop]
    omega
  · intro message member kind
    rcases interspersed.mem member with same | window
    · exact same
    · rw [data message window] at kind
      cases kind
  · rw [interspersed.filter fun message same => by rw [same]; exact aggregates.announces]
    exact List.filter_eq_self.mpr data
  · rw [carried, dataDatagrams_bytes, delivered, windows_flatten, List.take_append_drop]
  · rw [windows_flatten, List.take_append_drop]
    exact accounted

/-- Whatever a collector does next, and whatever arrives next at the aggregator or wakes
it, no access of memory goes wrong. -/
theorem Aggregates.progresses (aggregates : Aggregates sensor degree calcAggrPayload templateBuf template emit holds state)
    (table : Deployable sensor) (started : ∀ collector, CollectorStarted HeaderConfig.sky sensor (libraries collector))
    (executed : Run (deployment sensor calcAggrPayload templateBuf) faults (start libraries state) actions final) :
    Progress (deployment sensor calcAggrPayload templateBuf) final := by
  obtain ⟨transmitting, -, -⟩ := collectors_report table started executed
  obtain ⟨windows, pending, waiting, delivering, held, -⟩ := aggregates.delivers table started executed
  refine ⟨?_, ?_⟩
  · intro collector event
    obtain ⟨next, stepped, -⟩ := unicastSenderProcess_transmits table.supported table.templateFits table.dataFits
      (transmitting collector) event
    exact ⟨next, _, stepped⟩
  · intro event flying
    cases event with
    | expire =>
      refine ⟨final.receiver, [template], ?_⟩
      show aggregatorProcess calcAggrPayload templateBuf .expire final.receiver = _
      simp only [aggregatorProcess, aggregates.sendsTemplate, ok_bind, pure_ok]
    | receive datagram =>
      show ∃ next out, receiver calcAggrPayload datagram final.receiver = .ok (next, out)
      cases kind : isTemplate datagram with
      | true => exact ⟨_, _, receiver_template _ kind _⟩
      | false =>
        have arriving : datagram.data.bytes ∈ final.inFlight.filter isData := by
          rw [isTemplate_eq, Bool.not_eq_false'] at kind
          exact List.mem_filter.mpr ⟨flying _ rfl, kind⟩
        rw [delivering.flying] at arriving
        obtain ⟨report, -, received⟩ := List.mem_map.mp arriving
        obtain ⟨next, stepped, -⟩ := aggregates.follows _ _ datagram report held delivering.opened received.symm
        rw [receiver_data _ kind]
        exact ⟨next, _, stepped⟩

/-- On a reliable network the messages in flight can be delivered from every reachable
state, and then every report is counted exactly once. -/
theorem Aggregates.settles (aggregates : Aggregates sensor degree calcAggrPayload templateBuf template emit holds state)
    (table : Deployable sensor) (started : ∀ collector, CollectorStarted HeaderConfig.sky sensor (libraries collector))
    (noLoss : ¬ faults.loses) (noCopies : ¬ faults.duplicates)
    (executed : Run (deployment sensor calcAggrPayload templateBuf) faults (start libraries state) actions final) :
    ∃ deliveries last, Run (deployment sensor calcAggrPayload templateBuf) faults (start libraries state)
        (actions ++ deliveries) last ∧
      sends deliveries = [] ∧ last.inFlight = [] ∧ ∃ windows pending,
        Delivering sensor degree template emit last windows pending [] ∧
        holds last.receiver ⟨windows.length, pending⟩ ∧
        windows.length = (reports (sends actions)).length / degree ∧
        (windows.flatten ++ pending).Perm (reports (sends actions)) := by
  obtain ⟨deliveries, last, whole, drained, none, -, -⟩ := executed.drains
    (fun _ _ reached => aggregates.progresses table started reached)
    (fun _ _ reached => carried_flying table started reached)
  obtain ⟨windows, pending, waiting, delivering, held, accounted⟩ := aggregates.delivers table started whole
  rw [sends_append, none, List.append_nil] at accounted
  obtain ⟨counted, same⟩ := delivering.settled accounted noLoss noCopies drained
  obtain rfl := delivering.arrived drained
  exact ⟨deliveries, last, whole, none, drained, windows, pending, delivering, held, counted, same⟩

/-- Every schedule of the collectors is that of some run, after which all has arrived in
order and the template has been sent once more. -/
theorem Aggregates.schedules (aggregates : Aggregates sensor degree calcAggrPayload templateBuf template emit holds state)
    (table : Deployable sensor) (started : ∀ collector, CollectorStarted HeaderConfig.sky sensor (libraries collector))
    (faults : Faults) (inputs : List (ι × TimerEvent)) :
    ∃ actions final, Run (deployment sensor calcAggrPayload templateBuf) faults (start libraries state) actions final ∧
      sends actions = inputs ∧ final.inFlight = [] ∧ template ∈ final.emitted ∧
      final.delivered.filter isData = (reports inputs).map (reportMessage sensor) := by
  have sent : ∃ actions final,
      Run (deployment sensor calcAggrPayload templateBuf) faults (start libraries state) actions final ∧
      sends actions = inputs ∧ final.delivered = [] ∧ final.inFlight = final.transmitted := by
    induction inputs using List.reverseRecOn with
    | nil => exact ⟨[], _, .nil, rfl, rfl, rfl⟩
    | append_singleton inputs input ih =>
      obtain ⟨actions, middle, executed, same, nothing, flying⟩ := ih
      obtain ⟨next, messages, moved⟩ := (aggregates.progresses table started executed).sends input.1 input.2
      exact ⟨_, _, executed.snoc (.send moved), by rw [sends_snoc, same]; rfl, nothing, by rw [flying]⟩
  obtain ⟨actions, middle, executed, same, nothing, flying⟩ := sent
  obtain ⟨deliveries, last, whole, drained, none, transmitted, arrived⟩ := executed.drains
    (fun _ _ reached => aggregates.progresses table started reached)
    (fun _ _ reached => carried_flying table started reached)
  have expired : (deployment sensor calcAggrPayload templateBuf).receive .expire last.receiver =
      .ok (last.receiver, [template]) := by
    simp only [deployment, system, aggregatorProcess, aggregates.sendsTemplate, ok_bind, pure_ok]
  refine ⟨_, _, whole.snoc (.wake rfl expired), ?_, drained, by simp, ?_⟩
  · rw [sends_snoc, sends_append, none, same, List.append_nil]
    exact List.append_nil inputs
  · obtain ⟨-, data, -⟩ := collectors_report table started executed
    rw [same] at data
    rw [arrived, nothing, List.nil_append, flying]
    exact data

end System

end TinyIpfix
