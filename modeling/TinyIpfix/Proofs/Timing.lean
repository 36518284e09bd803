import TinyIpfix.Proofs.Modes
import TinyIpfix.Timing

/-! The processes in time. The collector serves each of its timers once for every interval
that went by, whatever else wakes it and however late it runs. -/

namespace TinyIpfix
open CMem Transducer Timers

/-- The wake-up that the loop makes of an expired timer. -/
def Wake.event (wake : Wake) : CollectorTimer → TimerEvent
  | .templateTimer => .template wake.reachable
  | .dataTimer => .data wake.reachable wake.readings

def TimerEvent.timer : TimerEvent → CollectorTimer
  | .template _ => .templateTimer
  | .data _ _ => .dataTimer

/-- The template goes first. -/
def CollectorTimer.first (expired : CollectorTimer → Bool) : Option CollectorTimer :=
  if expired .templateTimer then some .templateTimer
  else if expired .dataTimer then some .dataTimer
  else none

private theorem CollectorTimer.first_some {expired : CollectorTimer → Bool} {timer : CollectorTimer}
    (chosen : first expired = some timer) :
    (timer = .templateTimer ∧ expired .templateTimer = true) ∨
    (timer = .dataTimer ∧ expired .templateTimer = false ∧ expired .dataTimer = true) := by
  unfold first at chosen
  cases template : expired .templateTimer with
  | true => simp_all
  | false => cases data : expired .dataTimer <;> simp_all

private theorem CollectorTimer.first_none {expired : CollectorTimer → Bool} (chosen : first expired = none)
    (timer : CollectorTimer) : expired timer = false := by
  unfold first at chosen
  cases template : expired .templateTimer with
  | true => simp [template] at chosen
  | false =>
    cases timer with
    | templateTimer => exact template
    | dataTimer => simpa [template] using chosen

def serveCollector (sensor : List TemplateRec) (served : CollectorTimer × Wake) (library : Library) :
    Checked (Library × List Message) :=
  unicastSenderProcess HeaderConfig.sky sensor (served.2.event served.1) library

theorem CollectorTimer.interval_pos {clockSecond : Nat} (positive : 0 < clockSecond) (timer : CollectorTimer) :
    0 < timer.interval clockSecond := by
  cases timer <;> exact Nat.mul_pos positive (by decide)

section Loop
variable {ς : Type} {system : System CollectorTimer ς} {config : HeaderConfig} {sensor : List TemplateRec} {wake : Wake}
  {held : ς} {library next : Library} {buffer : Region} {out : List Message}

private theorem unicastSenderLoop_template (expired : system.expired held .templateTimer = true)
    (handed : getTemplate library = some buffer)
    (passed : unicastSenderProcess config sensor (wake.event .templateTimer) library = .ok (next, out)) :
    unicastSenderLoop system config sensor wake held library = .ok (system.reset .templateTimer held, next, out) := by
  simp only [Wake.event, unicastSenderProcess, handed] at passed
  obtain ⟨sent, delivered, rest⟩ := bind_inv passed
  cases rest
  simp only [unicastSenderLoop, expired, ↓reduceIte, handed, delivered, ok_bind, pure_ok]

private theorem unicastSenderLoop_data (running : system.expired held .templateTimer = false)
    (expired : system.expired held .dataTimer = true) {after : Library}
    (handed : getData config sensor wake.readings library = .ok (some buffer, after))
    (passed : unicastSenderProcess config sensor (wake.event .dataTimer) library = .ok (next, out)) :
    unicastSenderLoop system config sensor wake held library = .ok (system.reset .dataTimer held, next, out) := by
  simp only [Wake.event, unicastSenderProcess, handed, ok_bind] at passed
  obtain ⟨sent, delivered, rest⟩ := bind_inv passed
  cases rest
  simp only [unicastSenderLoop, running, expired, Bool.false_eq_true, ↓reduceIte, handed, delivered, ok_bind, pure_ok]

private theorem unicastSenderLoop_idle (running : system.expired held .templateTimer = false)
    (still : system.expired held .dataTimer = false) :
    unicastSenderLoop system config sensor wake held library = .ok (held, library, []) := by
  simp only [unicastSenderLoop, running, still, Bool.false_eq_true, ↓reduceIte]

end Loop

section Collector
variable {ς : Type} {system : System CollectorTimer ς} {sensor : List TemplateRec}

/-- A collector that has counted to something. -/
def Usable (sensor : List TemplateRec) (library : Library) : Prop :=
  ∃ served, Transmitting HeaderConfig.sky sensor library served

/-- Since the library was initialized, there is a buffer every time, and the timer that was
served is reset. -/
theorem unicastSenderLoop_serves (deployable : Deployable sensor) :
    Serves system (unicastSenderLoop system HeaderConfig.sky sensor) CollectorTimer.first (serveCollector sensor)
      (Usable sensor) where
  expired flags timer chosen := by
    rcases CollectorTimer.first_some chosen with ⟨rfl, template⟩ | ⟨rfl, -, data⟩
    · exact template
    · exact data
  found flags chosen := CollectorTimer.first_none chosen
  idle wake held library chosen := by
    have still := CollectorTimer.first_none chosen
    exact unicastSenderLoop_idle (still .templateTimer) (still .dataTimer)
  serves wake held library timer usable chosen := by
    obtain ⟨served, transmitting⟩ := usable
    obtain ⟨next, passed, kept⟩ := unicastSenderProcess_transmits deployable.supported deployable.templateFits
      deployable.dataFits transmitting (wake.event timer)
    refine ⟨next, _, passed, ⟨_, kept⟩, ?_⟩
    rcases CollectorTimer.first_some chosen with ⟨rfl, template⟩ | ⟨rfl, running, data⟩
    · obtain ⟨block, -, holds⟩ := transmitting.template
      exact unicastSenderLoop_template template holds.handed passed
    · obtain ⟨buffer, after, handed, -⟩ := getData_serves HeaderConfig.sky
        (short_of_fits deployable.templateFits (by omega)) deployable.dataFits wake.readings transmitting.data
      exact unicastSenderLoop_data running data handed passed

private theorem event_timer (wake : Wake) (timer : CollectorTimer) : (wake.event timer).timer = timer := by
  cases timer <;> rfl

private theorem run_serveCollector (handled : List (CollectorTimer × Wake)) (library : Library) :
    run (serveCollector sensor) handled library =
      run (unicastSenderProcess HeaderConfig.sky sensor) (handled.map fun served => served.2.event served.1) library := by
  induction handled generalizing library with
  | nil => rfl
  | cons served handled ih =>
    simp only [run, List.map_cons, ih]
    rfl

variable {clockSecond : Nat} {held : ς} {library : Library} {actions : List (Timers.Action CollectorTimer Wake)}
  {final : Node ς Library Message}

private theorem collector_starts (documented : system.Documented) (clockSecond : Nat) (held : ς) (library : Library) :
    OnSchedule system (fun _ => system.clockTime held) (CollectorTimer.interval clockSecond)
      (unicastSenderStart system clockSecond held library).system [] := by
  apply onSchedule_set
  · exact (documented.set_clockTime _ _ _).trans (documented.set_clockTime _ _ _)
  · intro timer
    rw [unicastSenderStart, documented.set_timer, documented.set_timer, documented.set_clockTime]
    cases timer <;> rfl

/-- The wake-ups that the loop made of its events, with what they sent, and the timers
after them. -/
theorem collector_handles (documented : system.Documented) (deployable : Deployable sensor)
    (started : CollectorStarted HeaderConfig.sky sensor library)
    (executed : Timers.Run system (unicastSenderLoop system HeaderConfig.sky sensor)
      (unicastSenderStart system clockSecond held library) actions final) :
    ∃ events, run (unicastSenderProcess HeaderConfig.sky sensor) events library = .ok (final.state, final.sent) ∧
      Usable sensor final.state ∧
      (∀ event ∈ events, ∃ wake : Wake, .wake wake ∈ actions ∧ event = wake.event event.timer) ∧
      OnSchedule system (fun _ => system.clockTime held) (CollectorTimer.interval clockSecond) final.system
        (events.map TimerEvent.timer) := by
  obtain ⟨handled, out, served, sent, usable, known, kept⟩ := (collector_starts documented clockSecond held library).run
    documented (unicastSenderLoop_serves deployable) ⟨0, started.transmitting deployable⟩ executed
  rw [run_serveCollector] at served
  refine ⟨_, by rw [sent]; exact served, usable, ?_, ?_⟩
  · intro event member
    obtain ⟨pair, found, rfl⟩ := List.mem_map.mp member
    exact ⟨pair.2, known pair found, by rw [event_timer]⟩
  · rw [List.map_map]
    simpa [Function.comp_def, event_timer] using kept

private theorem collector_plays (deployable : Deployable sensor) (started : CollectorStarted HeaderConfig.sky sensor library)
    {events : List TimerEvent} {after : Library} {sent : List Message}
    (executed : run (unicastSenderProcess HeaderConfig.sky sensor) events library = .ok (after, sent)) :
    sent = (play (transmitted HeaderConfig.sky sensor) events 0).2 := by
  obtain ⟨reached, same, -⟩ := run_simulates (Transmitting HeaderConfig.sky sensor) (started.transmitting deployable)
    fun before event rest (_ : events = _) current transmitting => unicastSenderProcess_transmits deployable.supported
      deployable.templateFits deployable.dataFits transmitting event
  exact (Prod.mk.inj (Except.ok.inj (executed.symm.trans same))).2

end Collector

/-- Under any system that does what is documented, every timer is served at most once for
each of its intervals that went by, and exactly once as soon as nothing is left to do. What
is sent in between is a run of the process, so the messages are numbered without gaps and
none is sent twice. -/
theorem collector_on_schedule {ς : Type} (system : System CollectorTimer ς) (documented : system.Documented)
    (sensor : List TemplateRec) (deployable : Deployable sensor) (clockSecond : Nat) (positive : 0 < clockSecond) (held : ς)
    (library : Library) (started : CollectorStarted HeaderConfig.sky sensor library)
    (actions : List (Timers.Action CollectorTimer Wake)) (final : Node ς Library Message)
    (executed : Timers.Run system (unicastSenderLoop system HeaderConfig.sky sensor)
      (unicastSenderStart system clockSecond held library) actions final) :
    ∃ events, final.sent = (play (transmitted HeaderConfig.sky sensor) events 0).2 ∧
      (∀ event ∈ events, ∃ wake : Wake, .wake wake ∈ actions ∧ event = wake.event event.timer) ∧
      (∀ timer, (events.map TimerEvent.timer).count timer ≤
        (system.clockTime final.system - system.clockTime held) / timer.interval clockSecond) ∧
      (Idle system final.system → ∀ timer, (events.map TimerEvent.timer).count timer =
        (system.clockTime final.system - system.clockTime held) / timer.interval clockSecond) := by
  obtain ⟨events, served, -, known, kept⟩ := collector_handles documented deployable started executed
  exact ⟨events, collector_plays deployable started served, known,
    fun timer => kept.served_le (CollectorTimer.interval_pos positive) timer, fun idle timer => kept.served_eq idle timer⟩

def sampleTicks {τ : Type} : Ticks τ := ⟨0, fun _ => ⟨0, 0, false⟩, 0⟩

/-- A collector that was late for everything in its first seconds, and has caught up. -/
private theorem sample_idles : ∃ (library : Library) (actions : List (Timers.Action CollectorTimer Wake))
    (final : Node (Ticks CollectorTimer) Library Message), CollectorStarted HeaderConfig.sky initTemplate library ∧
    Timers.Run ticking (unicastSenderLoop ticking HeaderConfig.sky initTemplate)
      (unicastSenderStart ticking 1 sampleTicks library) actions final ∧
    Idle ticking final.system ∧ final.system.now = 17 := by
  have table := MsgAggr.sample_deployed.table
  obtain ⟨⟨library, started⟩, -⟩ :=
    MsgAggr.exists_started MsgAggr.sample_deployed ⟨fun _ => 1, fun _ => 2⟩ (fun _ => 3) fun _ => 4
  have late := ticks (unicastSenderLoop ticking HeaderConfig.sky initTemplate)
    (unicastSenderStart ticking 1 sampleTicks library) 17
  obtain ⟨events, -, usable, -, kept⟩ := collector_handles ticking_documented table started late
  obtain ⟨actions, final, caught, -, idle, same⟩ := kept.catches_up ticking_documented
    (CollectorTimer.interval_pos Nat.one_pos) (unicastSenderLoop_serves table) usable ⟨true, fun _ => 1⟩
  exact ⟨library, _, final, started, late.append caught, idle, same⟩

theorem sample_schedule : ∃ (library : Library) (actions : List (Timers.Action CollectorTimer Wake))
    (final : Node (Ticks CollectorTimer) Library Message),
    Timers.Run ticking (unicastSenderLoop ticking HeaderConfig.sky initTemplate)
      (unicastSenderStart ticking 1 sampleTicks library) actions final ∧
    ∃ events, final.sent = (play (transmitted HeaderConfig.sky initTemplate) events 0).2 ∧
      (∀ event ∈ events, ∃ wake : Wake, .wake wake ∈ actions ∧ event = wake.event event.timer) ∧
      (events.map TimerEvent.timer).count .templateTimer = 1 ∧ (events.map TimerEvent.timer).count .dataTimer = 3 := by
  obtain ⟨library, actions, final, started, executed, idle, now⟩ := sample_idles
  obtain ⟨events, sent, known, -, served⟩ := collector_on_schedule ticking ticking_documented initTemplate
    MsgAggr.sample_deployed.table 1 Nat.one_pos sampleTicks library started actions final executed
  have elapsed : ticking.clockTime final.system - ticking.clockTime (sampleTicks : Ticks CollectorTimer) = 17 := now
  refine ⟨library, actions, final, executed, events, sent, known, ?_, ?_⟩
  · rw [served idle, elapsed]
    decide
  · rw [served idle, elapsed]
    decide

/-- A pass through the loop is always defined. However many events and expired timers have
piled up, and in whatever order they are handled, that ends, and not before every interval
that went by was served. -/
theorem collector_catches_up {ς : Type} (system : System CollectorTimer ς) (documented : system.Documented)
    (sensor : List TemplateRec) (deployable : Deployable sensor) (clockSecond : Nat) (positive : 0 < clockSecond) (held : ς)
    (library : Library) (started : CollectorStarted HeaderConfig.sky sensor library)
    (actions : List (Timers.Action CollectorTimer Wake)) (final : Node ς Library Message)
    (executed : Timers.Run system (unicastSenderLoop system HeaderConfig.sky sensor)
      (unicastSenderStart system clockSecond held library) actions final) :
    (∀ wake waiting, ∃ after next out,
      unicastSenderLoop system HeaderConfig.sky sensor wake waiting final.state = .ok (after, next, out)) ∧
    ∀ service last, Timers.Run system (unicastSenderLoop system HeaderConfig.sky sensor) final service last →
      (∀ action ∈ service, action.serves) → service.length + work system last.system ≤ work system final.system ∧
      (Idle system last.system ∨
        (∃ timer next, Timers.Step system (unicastSenderLoop system HeaderConfig.sky sensor) (.move (.expire timer)) last
          next) ∨
        ∀ wake, ∃ next, Timers.Step system (unicastSenderLoop system HeaderConfig.sky sensor) (.wake wake) last next) := by
  have serves : Serves system (unicastSenderLoop system HeaderConfig.sky sensor) _ _ _ := unicastSenderLoop_serves deployable
  obtain ⟨events, -, usable, -, kept⟩ := collector_handles documented deployable started executed
  refine ⟨fun wake waiting => serves.total wake waiting usable, ?_⟩
  intro service last serving only
  obtain ⟨-, -, -, -, still, -, -⟩ := kept.run documented serves usable serving
  exact ⟨kept.bounded documented (CollectorTimer.interval_pos positive) serves usable serving only,
    idle_or_step documented serves still⟩

theorem sample_catching_up : ∃ (library : Library) (actions : List (Timers.Action CollectorTimer Wake))
    (final : Node (Ticks CollectorTimer) Library Message),
    Timers.Run ticking (unicastSenderLoop ticking HeaderConfig.sky initTemplate)
      (unicastSenderStart ticking 1 sampleTicks library) actions final ∧ work ticking final.system = 12 ∧
    (∀ wake waiting, ∃ after next out,
      unicastSenderLoop ticking HeaderConfig.sky initTemplate wake waiting final.state = .ok (after, next, out)) ∧
    ∀ service last, Timers.Run ticking (unicastSenderLoop ticking HeaderConfig.sky initTemplate) final service last →
      (∀ action ∈ service, action.serves) → service.length + work ticking last.system ≤ 12 ∧
      (Idle ticking last.system ∨
        (∃ timer next, Timers.Step ticking (unicastSenderLoop ticking HeaderConfig.sky initTemplate) (.move (.expire timer))
          last next) ∨
        ∀ wake, ∃ next, Timers.Step ticking (unicastSenderLoop ticking HeaderConfig.sky initTemplate) (.wake wake) last
          next) := by
  obtain ⟨⟨library, started⟩, -⟩ :=
    MsgAggr.exists_started MsgAggr.sample_deployed ⟨fun _ => 1, fun _ => 2⟩ (fun _ => 3) fun _ => 4
  have late := ticks (unicastSenderLoop ticking HeaderConfig.sky initTemplate)
    (unicastSenderStart ticking 1 sampleTicks library) 17
  obtain ⟨total, catches⟩ := collector_catches_up ticking ticking_documented initTemplate MsgAggr.sample_deployed.table 1
    Nat.one_pos sampleTicks library started _ _ late
  have behind : work ticking { ticking.set CollectorTimer.dataTimer (CollectorTimer.dataTimer.interval 1)
      (ticking.set CollectorTimer.templateTimer (CollectorTimer.templateTimer.interval 1) sampleTicks) with
      now := 0 + 17 } = 12 := by decide
  refine ⟨library, _, _, late, behind, total, ?_⟩
  intro service last serving only
  obtain ⟨bounded, onward⟩ := catches service last serving only
  exact ⟨bounded.trans_eq behind, onward⟩

section Aggregator
variable {ς : Type} {system : System AggregatorTimer ς} {templateBuf : Region} {template : Message}

def AggregatorTimer.first (expired : AggregatorTimer → Bool) : Option AggregatorTimer :=
  if expired .templateTimer then some .templateTimer else none

def serveAggregator (template : Message) (_ : AggregatorTimer × Unit) (state : Unit) : Checked (Unit × List Message) :=
  .ok (state, [template])

private theorem aggregatorLoop_serves (sending : sendAggrTemplate templateBuf = .ok [template]) :
    Serves system (aggregatorLoop system templateBuf) AggregatorTimer.first (serveAggregator template) fun _ => True where
  expired flags timer chosen := by
    cases timer
    simpa [AggregatorTimer.first] using chosen
  found flags chosen timer := by
    cases timer
    simpa [AggregatorTimer.first] using chosen
  idle input held state chosen := by
    have still : system.expired held .templateTimer = false := by simpa [AggregatorTimer.first] using chosen
    simp only [aggregatorLoop, still, Bool.false_eq_true, ↓reduceIte]
  serves input held state timer usable chosen := by
    cases timer
    have expired : system.expired held .templateTimer = true := by simpa [AggregatorTimer.first] using chosen
    refine ⟨state, [template], rfl, trivial, ?_⟩
    simp only [aggregatorLoop, expired, ↓reduceIte, sending, ok_bind, pure_ok]

private theorem run_serveAggregator (handled : List (AggregatorTimer × Unit)) :
    run (serveAggregator template) handled () = .ok ((), List.replicate handled.length template) := by
  induction handled with
  | nil => rfl
  | cons served handled ih => exact run_cons_ok rfl ih

private theorem count_templateTimer (timers : List AggregatorTimer) : timers.count .templateTimer = timers.length := by
  apply List.count_eq_length.mpr
  intro timer member
  cases timer
  rfl

/-- Nothing but the template was sent, at most once for each interval since the start, and
exactly once if nothing is left to do. -/
structure AnnouncesInTime (system : System AggregatorTimer ς) (clockSecond : Nat) (held : ς) (template : Message)
    (final : Node ς Unit Message) : Prop where
  only : final.sent = List.replicate final.sent.length template
  bounded : final.sent.length ≤
    (system.clockTime final.system - system.clockTime held) / AggregatorTimer.templateTimer.interval clockSecond
  settled : Idle system final.system → final.sent.length =
    (system.clockTime final.system - system.clockTime held) / AggregatorTimer.templateTimer.interval clockSecond

variable {clockSecond : Nat} {held : ς} {actions : List (Timers.Action AggregatorTimer Unit)} {final : Node ς Unit Message}

theorem AggregatorTimer.interval_pos (positive : 0 < clockSecond) (timer : AggregatorTimer) :
    0 < timer.interval clockSecond := by
  cases timer
  exact Nat.mul_pos positive (by decide)

private theorem aggregator_starts (documented : system.Documented) (clockSecond : Nat) (held : ς) :
    OnSchedule system (fun _ => system.clockTime held) (AggregatorTimer.interval clockSecond)
      (aggregatorStart system clockSecond held).system [] := by
  apply onSchedule_set
  · exact documented.set_clockTime _ _ _
  · intro timer
    cases timer
    simp only [aggregatorStart, documented.set_timer, Function.update_self]

private theorem template_on_schedule (documented : system.Documented) (sending : sendAggrTemplate templateBuf = .ok [template])
    (positive : 0 < clockSecond) (executed : Timers.Run system (aggregatorLoop system templateBuf)
      (aggregatorStart system clockSecond held) actions final) : AnnouncesInTime system clockSecond held template final := by
  obtain ⟨handled, out, served, sent, -, -, kept⟩ :=
    (aggregator_starts documented clockSecond held).run documented (aggregatorLoop_serves sending) trivial executed
  cases (run_serveAggregator handled).symm.trans served
  have all : final.sent = List.replicate handled.length template := sent
  have length : final.sent.length = ([] ++ handled.map Prod.fst).count AggregatorTimer.templateTimer := by
    rw [count_templateTimer, List.nil_append, List.length_map, all, List.length_replicate]
  refine ⟨by rw [all, List.length_replicate], ?_, ?_⟩
  · rw [length]
    exact kept.served_le (AggregatorTimer.interval_pos positive) .templateTimer
  · intro idle
    rw [length]
    exact kept.served_eq idle .templateTimer

end Aggregator

/-- After start-up in either mode, the aggregator announces its template once for each of
its intervals, whatever else it was woken for and however late it was. -/
theorem aggregator_on_schedule {ς : Type} (system : System AggregatorTimer ς) (documented : system.Documented)
    (sensor : List TemplateRec) (degree clockSecond : Nat) (positive : 0 < clockSecond) (held : ς) (templateBuf : Region)
    (actions : List (Timers.Action AggregatorTimer Unit)) (final : Node ς Unit Message)
    (executed : Timers.Run system (aggregatorLoop system templateBuf) (aggregatorStart system clockSecond held) actions
      final) :
    (MsgAggr.Deployed sensor degree → ∀ state, MsgAggr.Started HeaderConfig.sky sensor degree templateBuf state →
      AnnouncesInTime system clockSecond held (templateMessage HeaderConfig.sky sensor degree) final) ∧
    ∀ sensorPos rec aggrFunc, DataAggr.Deployed sensor sensorPos rec degree aggrFunc → ∀ state,
      DataAggr.Started HeaderConfig.sky sensor sensorPos templateBuf state →
      AnnouncesInTime system clockSecond held (templateMessage HeaderConfig.sky [rec] 1) final := by
  constructor
  · intro deployed state aggregating
    exact template_on_schedule documented (aggregating.sends deployed) positive executed
  · intro sensorPos rec aggrFunc deployed state aggregating
    exact template_on_schedule documented (aggregating.ready deployed).1 positive executed

theorem sample_announcements : ∃ (templateBuf : Region) (state : MsgAggr.State)
    (actions : List (Timers.Action AggregatorTimer Unit)) (final : Node (Ticks AggregatorTimer) Unit Message),
    MsgAggr.Started HeaderConfig.sky initTemplate 2 templateBuf state ∧
    Timers.Run ticking (aggregatorLoop ticking templateBuf) (aggregatorStart ticking 1 sampleTicks) actions final ∧
    final.sent = List.replicate 2 (templateMessage HeaderConfig.sky initTemplate 2) := by
  obtain ⟨-, templateBuf, aggregating⟩ :=
    MsgAggr.exists_started MsgAggr.sample_deployed ⟨fun _ => 1, fun _ => 2⟩ (fun _ => 3) fun _ => 4
  have late := ticks (aggregatorLoop ticking templateBuf) (aggregatorStart ticking 1 sampleTicks) 102
  have serves : Serves ticking (aggregatorLoop ticking templateBuf) _ _ _ :=
    aggregatorLoop_serves (aggregating.sends MsgAggr.sample_deployed)
  obtain ⟨handled, out, -, -, -, -, kept⟩ :=
    (aggregator_starts ticking_documented 1 sampleTicks).run ticking_documented serves trivial late
  obtain ⟨service, final, caught, -, idle, now⟩ := kept.catches_up ticking_documented
    (AggregatorTimer.interval_pos Nat.one_pos) serves trivial ()
  have announces := (aggregator_on_schedule ticking ticking_documented initTemplate 2 1 Nat.one_pos sampleTicks templateBuf _
    final (late.append caught)).1 MsgAggr.sample_deployed _ aggregating
  have sent := announces.only
  rw [announces.settled idle, now] at sent
  exact ⟨templateBuf, _, _, final, aggregating, late.append caught, sent⟩

end TinyIpfix
