import TinyIpfix.Lib.Transducer
import Mathlib.Algebra.BigOperators.Group.Finset.Basic
import Mathlib.Data.Fintype.Basic
import Mathlib.Data.Fintype.Card
import Mathlib.Tactic.Common

/-! A process that waits for events and serves at most one expired timer for each of them.
Clock, timers and event queue belong to the system and are parameters, of which the results
use what is documented. Time may pass anywhere, so events and expired timers pile up, and
the question is whether any is lost. -/

namespace Timers
open Transducer

variable {τ κ ς σ ω ε : Type}

/-- What can be asked of a timer: the interval it was set to, and when it expires or did. -/
structure Timer where
  interval : Nat
  expirationTime : Nat
  expired : Bool

/-- What the system does between two passes of the process. -/
inductive Move (τ : Type)
  | tick
  | post
  | expire (timer : τ)

/-- The part of the system that a process sees; `ς` is whatever the system keeps. -/
structure System (τ ς : Type) where
  clockTime : ς → Nat
  timer : ς → τ → Timer
  /-- The number of events that wait for the process. -/
  events : ς → Nat
  set : τ → Nat → ς → ς
  reset : τ → ς → ς
  moves : Move τ → ς → ς → Prop
  /-- One event is handed to the process. -/
  hands : ς → ς → Prop

/-- What is documented of the clock, the timers and the events. -/
structure System.Documented [DecidableEq τ] (system : System τ ς) : Prop where
  /-- A timer expires when its interval from now is over. -/
  set_timer : ∀ timer interval state, system.timer (system.set timer interval state) =
    Function.update (system.timer state) timer ⟨interval, system.clockTime state + interval, false⟩
  set_clockTime : ∀ timer interval state, system.clockTime (system.set timer interval state) = system.clockTime state
  /-- The same interval starts again at the time at which the timer expired. -/
  reset_timer : ∀ timer state, (system.timer state timer).expired = true → system.timer (system.reset timer state) =
    Function.update (system.timer state) timer
      ⟨(system.timer state timer).interval,
        (system.timer state timer).expirationTime + (system.timer state timer).interval, false⟩
  reset_clockTime : ∀ timer state, system.clockTime (system.reset timer state) = system.clockTime state
  reset_events : ∀ timer state, system.events (system.reset timer state) = system.events state
  tick : ∀ state next, system.moves .tick state next → system.clockTime state ≤ system.clockTime next ∧
    system.timer next = system.timer state ∧ system.events next = system.events state
  /-- Other events arrive at any time. -/
  post : ∀ state next, system.moves .post state next → system.clockTime next = system.clockTime state ∧
    system.timer next = system.timer state ∧ system.events state ≤ system.events next
  /-- A timer expires no earlier than it should, and that is posted as an event. -/
  expire : ∀ timer state next, system.moves (.expire timer) state next →
    (system.timer state timer).expired = false ∧ (system.timer state timer).expirationTime ≤ system.clockTime state ∧
    system.clockTime next = system.clockTime state ∧ system.events next = system.events state + 1 ∧
    system.timer next = Function.update (system.timer state) timer { system.timer state timer with expired := true }
  hand : ∀ state next, system.hands state next → system.clockTime next = system.clockTime state ∧
    system.timer next = system.timer state ∧ system.events state = system.events next + 1
  /-- No timer stays behind, and no event. -/
  expires : ∀ timer state, (system.timer state timer).expired = false →
    (system.timer state timer).expirationTime ≤ system.clockTime state → ∃ next, system.moves (.expire timer) state next
  handed : ∀ state, 0 < system.events state → ∃ next, system.hands state next

/-- One pass through the loop of the process. -/
abbrev Thread (κ ς σ ω ε : Type) := κ → ς → σ → Except ε (ς × σ × List ω)

structure Node (ς σ ω : Type) where
  system : ς
  state : σ
  sent : List ω

inductive Action (τ κ : Type)
  | move (move : Move τ)
  | wake (input : κ)

inductive Step (system : System τ ς) (thread : Thread κ ς σ ω ε) : Action τ κ → Node ς σ ω → Node ς σ ω → Prop
  | move {node : Node ς σ ω} {move : Move τ} {next : ς} (moved : system.moves move node.system next) :
    Step system thread (.move move) node { node with system := next }
  | wake {node : Node ς σ ω} {input : κ} {handed after : ς} {next : σ} {out : List ω}
    (waiting : system.hands node.system handed) (ran : thread input handed node.state = .ok (after, next, out)) :
    Step system thread (.wake input) node ⟨after, next, node.sent ++ out⟩

inductive Run (system : System τ ς) (thread : Thread κ ς σ ω ε) (first : Node ς σ ω) :
    List (Action τ κ) → Node ς σ ω → Prop
  | nil : Run system thread first [] first
  | snoc {actions : List (Action τ κ)} {action : Action τ κ} {middle final : Node ς σ ω}
    (earlier : Run system thread first actions middle) (last : Step system thread action middle final) :
    Run system thread first (actions ++ [action]) final

def System.expired (system : System τ ς) (state : ς) (timer : τ) : Bool := (system.timer state timer).expired

/-- The thread serves the first of its expired timers, and resets it. -/
structure Serves (system : System τ ς) (thread : Thread κ ς σ ω ε) (first : (τ → Bool) → Option τ)
    (serve : τ × κ → σ → Except ε (σ × List ω)) (ready : σ → Prop) : Prop where
  expired : ∀ flags timer, first flags = some timer → flags timer = true
  found : ∀ flags, first flags = none → ∀ timer, flags timer = false
  idle : ∀ input held state, first (system.expired held) = none → thread input held state = .ok (held, state, [])
  serves : ∀ input held state timer, ready state → first (system.expired held) = some timer →
    ∃ next out, serve (timer, input) state = .ok (next, out) ∧ ready next ∧
      thread input held state = .ok (system.reset timer held, next, out)

section Threads
variable {system : System τ ς} {thread : Thread κ ς σ ω ε} {first : (τ → Bool) → Option τ}
  {serve : τ × κ → σ → Except ε (σ × List ω)} {ready : σ → Prop}

/-- All that one pass can do. -/
theorem Serves.cases (serves : Serves system thread first serve ready) {input : κ} {held after : ς} {state next : σ}
    {out : List ω} (usable : ready state) (ran : thread input held state = .ok (after, next, out)) :
    ((∀ timer, system.expired held timer = false) ∧ after = held ∧ next = state ∧ out = []) ∨
    ∃ timer, system.expired held timer = true ∧ after = system.reset timer held ∧
      serve (timer, input) state = .ok (next, out) ∧ ready next := by
  cases chosen : first (system.expired held) with
  | none =>
    rw [serves.idle input held state chosen] at ran
    cases ran
    exact .inl ⟨serves.found _ chosen, rfl, rfl, rfl⟩
  | some timer =>
    obtain ⟨served, messages, done, kept, passed⟩ := serves.serves input held state timer usable chosen
    rw [passed] at ran
    cases ran
    exact .inr ⟨timer, serves.expired _ timer chosen, rfl, done, kept⟩

theorem Serves.total (serves : Serves system thread first serve ready) (input : κ) (held : ς) {state : σ}
    (usable : ready state) : ∃ after next out, thread input held state = .ok (after, next, out) := by
  cases chosen : first (system.expired held) with
  | none => exact ⟨_, _, _, serves.idle input held state chosen⟩
  | some timer =>
    obtain ⟨next, out, -, -, passed⟩ := serves.serves input held state timer usable chosen
    exact ⟨_, next, out, passed⟩

theorem Run.append {start middle final : Node ς σ ω} {actions more : List (Action τ κ)}
    (early : Run system thread start actions middle) (late : Run system thread middle more final) :
    Run system thread start (actions ++ more) final := by
  induction late with
  | nil => simpa using early
  | snoc earlier last ih =>
    rw [← List.append_assoc]
    exact .snoc ih last

end Threads

/-- A timer that was served this often, and has not expired before its interval was over. -/
structure Timer.Placed (origin interval times now : Nat) (timer : Timer) : Prop where
  width : timer.interval = interval
  expires : timer.expirationTime = origin + times * interval + interval
  begun : origin + times * interval ≤ now
  elapsed : timer.expired = true → timer.expirationTime ≤ now

section Placed
variable {origin interval times now : Nat} {timer : Timer}

theorem Timer.Placed.later (placed : timer.Placed origin interval times now) {later : Nat} (passed : now ≤ later) :
    timer.Placed origin interval times later :=
  ⟨placed.width, placed.expires, placed.begun.trans passed, fun set => (placed.elapsed set).trans passed⟩

theorem Timer.Placed.expire (placed : timer.Placed origin interval times now) (due : timer.expirationTime ≤ now) :
    ({ timer with expired := true } : Timer).Placed origin interval times now :=
  ⟨placed.width, placed.expires, placed.begun, fun _ => due⟩

theorem Timer.Placed.reset (placed : timer.Placed origin interval times now) (expired : timer.expired = true) :
    Timer.Placed origin interval (times + 1) now ⟨timer.interval, timer.expirationTime + timer.interval, false⟩ := by
  have elapsed := placed.elapsed expired
  rw [placed.expires] at elapsed
  refine ⟨placed.width, ?_, ?_, fun set => absurd set (by simp)⟩
  · rw [placed.width, placed.expires, Nat.succ_mul, Nat.add_assoc origin]
  · rw [Nat.succ_mul, ← Nat.add_assoc]
    exact elapsed

end Placed

section Schedule
variable [Fintype τ]

def waiting (timers : τ → Timer) : Finset τ := Finset.univ.filter fun timer => (timers timer).expired = true

@[simp] theorem mem_waiting {timers : τ → Timer} {timer : τ} :
    timer ∈ waiting timers ↔ (timers timer).expired = true := by
  simp [waiting]

variable [DecidableEq τ]

theorem waiting_expire {timers : τ → Timer} {timer : τ} {value : Timer} (running : (timers timer).expired = false)
    (expired : value.expired = true) :
    (waiting (Function.update timers timer value)).card = (waiting timers).card + 1 := by
  have grown : waiting (Function.update timers timer value) = insert timer (waiting timers) := by
    ext other
    by_cases same : other = timer
    · simp [same, expired]
    · simp [same]
  rw [grown, Finset.card_insert_of_notMem (by simp [running])]

theorem waiting_reset {timers : τ → Timer} {timer : τ} {value : Timer} (expired : (timers timer).expired = true)
    (running : value.expired = false) :
    (waiting (Function.update timers timer value)).card + 1 = (waiting timers).card := by
  have shrunk : waiting (Function.update timers timer value) = (waiting timers).erase timer := by
    ext other
    by_cases same : other = timer
    · simp [same, running]
    · simp [same]
  rw [shrunk, Finset.card_erase_add_one (by simp [expired])]

/-- Each timer is where the number of times it was served puts it, whenever that was, and
no expired timer is without an event that will wake the process. -/
structure OnSchedule (system : System τ ς) (origin interval : τ → Nat) (held : ς) (served : List τ) : Prop where
  placed : ∀ timer,
    (system.timer held timer).Placed (origin timer) (interval timer) (served.count timer) (system.clockTime held)
  noticed : (waiting (system.timer held)).card ≤ system.events held

/-- Nothing is left to do before time passes. -/
structure Idle (system : System τ ς) (held : ς) : Prop where
  quiet : system.events held = 0
  early : ∀ timer, (system.timer held timer).expired = false →
    system.clockTime held < (system.timer held timer).expirationTime

variable {system : System τ ς} {origin interval : τ → Nat} {held : ς} {served : List τ}

theorem OnSchedule.served_le (kept : OnSchedule system origin interval held served) (positive : ∀ timer, 0 < interval timer)
    (timer : τ) : served.count timer ≤ (system.clockTime held - origin timer) / interval timer := by
  have begun := (kept.placed timer).begun
  rw [Nat.le_div_iff_mul_le (positive timer)]
  omega

/-- And when nothing is left to do, it was served as often as its interval went by. -/
theorem OnSchedule.served_eq (kept : OnSchedule system origin interval held served) (idle : Idle system held) (timer : τ) :
    served.count timer = (system.clockTime held - origin timer) / interval timer := by
  have none : (waiting (system.timer held)).card = 0 := by
    have noticed := kept.noticed
    rw [idle.quiet] at noticed
    exact Nat.le_zero.mp noticed
  have running : (system.timer held timer).expired = false := by
    cases flag : (system.timer held timer).expired with
    | false => rfl
    | true =>
      have member : timer ∈ waiting (system.timer held) := by simp [flag]
      rw [Finset.card_eq_zero.mp none] at member
      cases member
  have begun := (kept.placed timer).begun
  have early := idle.early timer running
  rw [(kept.placed timer).expires] at early
  symm
  apply Nat.div_eq_of_lt_le
  · omega
  · rw [Nat.succ_mul]
    omega

theorem onSchedule_set {origin : Nat} (now : system.clockTime held = origin)
    (set : ∀ timer, system.timer held timer = ⟨interval timer, origin + interval timer, false⟩) :
    OnSchedule system (fun _ => origin) interval held [] := by
  refine ⟨?_, by simp [waiting, set]⟩
  intro timer
  rw [set, now]
  exact ⟨rfl, by simp, by simp, fun expired => absurd expired (by simp)⟩

variable (documented : system.Documented) {thread : Thread κ ς σ ω ε} {first : (τ → Bool) → Option τ}
  {serve : τ × κ → σ → Except ε (σ × List ω)} {ready : σ → Prop} {node : Node ς σ ω}
include documented

/-- What the system does by itself serves nothing and forgets nothing. -/
theorem OnSchedule.moved (kept : OnSchedule system origin interval held served) {move : Move τ} {next : ς}
    (moved : system.moves move held next) : OnSchedule system origin interval next served := by
  cases move with
  | tick =>
    obtain ⟨later, timers, events⟩ := documented.tick _ _ moved
    refine ⟨?_, by rw [timers, events]; exact kept.noticed⟩
    intro timer
    rw [timers]
    exact (kept.placed timer).later later
  | post =>
    obtain ⟨now, timers, events⟩ := documented.post _ _ moved
    refine ⟨by rw [now, timers]; exact kept.placed, ?_⟩
    rw [timers]
    exact kept.noticed.trans events
  | expire timer =>
    obtain ⟨running, due, now, events, timers⟩ := documented.expire _ _ _ moved
    constructor
    · rw [now, timers]
      exact (Function.forall_update_iff (system.timer held) fun other (value : Timer) =>
        value.Placed (origin other) (interval other) (served.count other) (system.clockTime held)).mpr
        ⟨(kept.placed timer).expire due, fun other _ => kept.placed other⟩
    · rw [timers, events, waiting_expire running rfl]
      exact Nat.succ_le_succ kept.noticed

theorem OnSchedule.resets (kept : OnSchedule system origin interval held served) {handed : ς}
    (waiting : system.hands held handed) {timer : τ} (expired : system.expired handed timer = true) :
    OnSchedule system origin interval (system.reset timer handed) (served ++ [timer]) := by
  obtain ⟨now, timers, events⟩ := documented.hand _ _ waiting
  have fewer : (Timers.waiting (Function.update (system.timer handed) timer ⟨(system.timer handed timer).interval,
      (system.timer handed timer).expirationTime + (system.timer handed timer).interval, false⟩)).card + 1 =
      (Timers.waiting (system.timer handed)).card := waiting_reset expired rfl
  have noticed := kept.noticed
  constructor
  · rw [documented.reset_timer _ _ expired, documented.reset_clockTime, now]
    refine (Function.forall_update_iff (system.timer handed) fun other (value : Timer) =>
      value.Placed (origin other) (interval other) ((served ++ [timer]).count other) (system.clockTime held)).mpr ⟨?_, ?_⟩
    · rw [List.count_append, List.count_singleton_self]
      apply Timer.Placed.reset _ expired
      rw [timers]
      exact kept.placed timer
    · intro other apart
      have elsewhere : List.count other [timer] = 0 := List.count_eq_zero.mpr (by simpa using apart)
      rw [List.count_append, elsewhere, timers]
      exact kept.placed other
  · rw [documented.reset_timer _ _ expired, documented.reset_events]
    rw [← timers] at noticed
    omega

theorem OnSchedule.step (kept : OnSchedule system origin interval node.system served)
    (serves : Serves system thread first serve ready) (usable : ready node.state) {action : Action τ κ} {next : Node ς σ ω}
    (stepped : Step system thread action node next) :
    ∃ handled out, Transducer.run serve handled node.state = .ok (next.state, out) ∧ next.sent = node.sent ++ out ∧
      ready next.state ∧ (∀ pair ∈ handled, action = .wake pair.2) ∧
      OnSchedule system origin interval next.system (served ++ handled.map Prod.fst) := by
  cases stepped with
  | move moved =>
    refine ⟨[], [], rfl, (List.append_nil _).symm, usable, by simp, ?_⟩
    rw [List.map_nil, List.append_nil]
    exact kept.moved documented moved
  | @wake _ input handed after state out waiting ran =>
    rcases serves.cases usable ran with ⟨none, rfl, rfl, rfl⟩ | ⟨timer, expired, rfl, handled, still⟩
    · refine ⟨[], [], rfl, rfl, usable, by simp, ?_⟩
      obtain ⟨now, timers, events⟩ := documented.hand _ _ waiting
      have empty : Timers.waiting (system.timer after) = ∅ := by
        ext timer
        have running : (system.timer after timer).expired = false := none timer
        simp [running]
      simp only [List.map_nil, List.append_nil]
      exact ⟨by rw [now, timers]; exact kept.placed, by simp [empty]⟩
    · exact ⟨[(timer, input)], out, run_singleton handled, rfl, still, by simp, kept.resets documented waiting expired⟩

/-- In every run, what was served makes a run of the serving machine and no timer is late
for another reason than that the process has not run. -/
theorem OnSchedule.run (initial : OnSchedule system origin interval node.system served)
    (serves : Serves system thread first serve ready) (usable : ready node.state) {actions : List (Action τ κ)}
    {final : Node ς σ ω} (executed : Run system thread node actions final) :
    ∃ handled out, Transducer.run serve handled node.state = .ok (final.state, out) ∧ final.sent = node.sent ++ out ∧
      ready final.state ∧ (∀ pair ∈ handled, .wake pair.2 ∈ actions) ∧
      OnSchedule system origin interval final.system (served ++ handled.map Prod.fst) := by
  induction executed with
  | nil => exact ⟨[], [], rfl, (List.append_nil _).symm, usable, by simp, by simpa using initial⟩
  | snoc earlier last ih =>
    obtain ⟨handled, out, executed, sent, still, known, kept⟩ := ih
    obtain ⟨more, added, stepped, grown, usable, latest, onward⟩ := kept.step documented serves still last
    refine ⟨handled ++ more, out ++ added, run_append_ok executed stepped, ?_, usable, ?_, ?_⟩
    · rw [grown, sent, List.append_assoc]
    · intro pair member
      rcases List.mem_append.mp member with older | newer
      · exact List.mem_append_left _ (known pair older)
      · rw [latest pair newer]
        exact List.mem_append_right _ (List.mem_singleton_self _)
    · rw [List.map_append, ← List.append_assoc]
      exact onward

end Schedule

section Work
variable [DecidableEq τ] [Fintype τ]

/-- The steps that need no time to pass and no event from elsewhere. -/
def Action.serves : Action τ κ → Prop
  | .move (.expire _) | .wake _ => True
  | .move .tick | .move .post => False

/-- An interval that is over costs its expiry, a wake-up and the reset. -/
def Timer.owes (timer : Timer) (now : Nat) : Nat :=
  3 * ((now + timer.interval - timer.expirationTime) / timer.interval) - if timer.expired then 2 else 0

def work (system : System τ ς) (held : ς) : Nat :=
  (∑ timer, (system.timer held timer).owes (system.clockTime held)) + system.events held

theorem sum_lower {timers : τ → Timer} {timer : τ} {value : Timer} {now gain : Nat}
    (lower : value.owes now + gain = (timers timer).owes now) :
    (∑ other, (Function.update timers timer value other).owes now) + gain = ∑ other, (timers other).owes now := by
  rw [← Finset.add_sum_erase Finset.univ (fun other => (timers other).owes now) (Finset.mem_univ timer),
    ← Finset.add_sum_erase Finset.univ (fun other => (Function.update timers timer value other).owes now)
      (Finset.mem_univ timer), Function.update_self, ← lower]
  have rest : ∑ other ∈ Finset.univ.erase timer, (Function.update timers timer value other).owes now =
      ∑ other ∈ Finset.univ.erase timer, (timers other).owes now := by
    apply Finset.sum_congr rfl
    intro other member
    rw [Function.update_of_ne (Finset.ne_of_mem_erase member)]
  rw [rest]
  omega

theorem owes_expire {timer : Timer} {now : Nat} (positive : 0 < timer.interval) (running : timer.expired = false)
    (due : timer.expirationTime ≤ now) : ({ timer with expired := true } : Timer).owes now + 2 = timer.owes now := by
  have whole : 1 ≤ (now + timer.interval - timer.expirationTime) / timer.interval := by
    rw [Nat.le_div_iff_mul_le positive]
    omega
  simp only [Timer.owes, running, ↓reduceIte, Bool.false_eq_true]
  omega

theorem owes_reset {timer : Timer} {now : Nat} (positive : 0 < timer.interval) (expired : timer.expired = true)
    (elapsed : timer.expirationTime ≤ now) :
    Timer.owes ⟨timer.interval, timer.expirationTime + timer.interval, false⟩ now + 1 = timer.owes now := by
  have split : now + timer.interval - timer.expirationTime =
      (now + timer.interval - (timer.expirationTime + timer.interval)) + timer.interval := by omega
  simp only [Timer.owes, expired, ↓reduceIte, Bool.false_eq_true]
  rw [split, Nat.add_div_right _ positive]
  omega

variable {system : System τ ς} (documented : system.Documented) {origin interval : τ → Nat} {node : Node ς σ ω}
  {served : List τ} {thread : Thread κ ς σ ω ε} {first : (τ → Bool) → Option τ}
  {serve : τ × κ → σ → Except ε (σ × List ω)} {ready : σ → Prop}
include documented

theorem OnSchedule.descends (kept : OnSchedule system origin interval node.system served)
    (positive : ∀ timer, 0 < interval timer) (serves : Serves system thread first serve ready) (usable : ready node.state)
    {action : Action τ κ} {next : Node ς σ ω} (service : action.serves) (stepped : Step system thread action node next) :
    work system next.system < work system node.system := by
  have width : ∀ timer, 0 < (system.timer node.system timer).interval := by
    intro timer
    rw [(kept.placed timer).width]
    exact positive timer
  cases stepped with
  | @move _ move after moved =>
    cases move with
    | tick | post => cases service
    | expire timer =>
      obtain ⟨running, due, now, events, timers⟩ := documented.expire _ _ _ moved
      have lower := sum_lower (owes_expire (width timer) running due)
      simp only [work, now, events, timers]
      omega
  | @wake _ input handed after state out waiting ran =>
    obtain ⟨now, timers, events⟩ := documented.hand _ _ waiting
    rcases serves.cases usable ran with ⟨none, rfl, rfl, rfl⟩ | ⟨timer, expired, rfl, handled, still⟩
    · simp only [work, now, timers, events]
      omega
    · have reset := documented.reset_timer timer handed expired
      have flag : (system.timer node.system timer).expired = true := by
        rw [← timers]
        exact expired
      rw [timers] at reset
      have lower := sum_lower (owes_reset (width timer) flag ((kept.placed timer).elapsed flag))
      simp only [work, documented.reset_clockTime, documented.reset_events, reset, now, events]
      omega

omit [Fintype τ] in
theorem service_now (serves : Serves system thread first serve ready) (usable : ready node.state) {action : Action τ κ}
    {next : Node ς σ ω} (service : action.serves) (stepped : Step system thread action node next) :
    system.clockTime next.system = system.clockTime node.system := by
  cases stepped with
  | @move _ move after moved =>
    cases move with
    | tick | post => cases service
    | expire timer => exact (documented.expire _ _ _ moved).2.2.1
  | wake waiting ran =>
    have now := (documented.hand _ _ waiting).1
    rcases serves.cases usable ran with ⟨-, rfl, -⟩ | ⟨timer, -, rfl, -⟩
    · exact now
    · exact (documented.reset_clockTime _ _).trans now

theorem idle_or_step (serves : Serves system thread first serve ready) (usable : ready node.state) :
    Idle system node.system ∨ (∃ timer next, Step system thread (.move (.expire timer)) node next) ∨
      ∀ input, ∃ next, Step system thread (.wake input) node next := by
  cases count : system.events node.system with
  | succ events =>
    refine .inr (.inr fun input => ?_)
    obtain ⟨handed, waiting⟩ := documented.handed node.system (by omega)
    obtain ⟨after, state, out, ran⟩ := serves.total input handed usable
    exact ⟨_, .wake waiting ran⟩
  | zero =>
    by_cases early : ∀ timer, (system.timer node.system timer).expired = false →
        system.clockTime node.system < (system.timer node.system timer).expirationTime
    · exact .inl ⟨count, early⟩
    · push Not at early
      obtain ⟨timer, running, due⟩ := early
      obtain ⟨next, moved⟩ := documented.expires timer node.system running due
      exact .inr (.inl ⟨timer, _, .move moved⟩)

/-- Service takes at most as many steps as there is work, in whatever order it is done. -/
theorem OnSchedule.bounded (kept : OnSchedule system origin interval node.system served)
    (positive : ∀ timer, 0 < interval timer) (serves : Serves system thread first serve ready) (usable : ready node.state)
    {actions : List (Action τ κ)} {final : Node ς σ ω} (executed : Run system thread node actions final)
    (service : ∀ action ∈ actions, action.serves) : actions.length + work system final.system ≤ work system node.system := by
  induction executed with
  | nil => simp
  | snoc earlier last ih =>
    obtain ⟨handled, out, -, -, still, -, onward⟩ := kept.run documented serves usable earlier
    have lower := onward.descends documented positive serves still (service _ (by simp)) last
    have before := ih fun action member => service action (by simp [member])
    rw [List.length_append, List.length_singleton]
    omega

theorem OnSchedule.catches_up (kept : OnSchedule system origin interval node.system served)
    (positive : ∀ timer, 0 < interval timer) (serves : Serves system thread first serve ready) (usable : ready node.state)
    (input : κ) :
    ∃ actions final, Run system thread node actions final ∧ (∀ action ∈ actions, action.serves) ∧
      Idle system final.system ∧ system.clockTime final.system = system.clockTime node.system := by
  induction amount : work system node.system using Nat.strong_induction_on generalizing node served with
  | _ amount ih =>
    have onward : ∀ action next, action.serves → Step system thread action node next → ∃ actions final,
        Run system thread node actions final ∧ (∀ action ∈ actions, action.serves) ∧ Idle system final.system ∧
          system.clockTime final.system = system.clockTime node.system := by
      intro action next service stepped
      have lower := kept.descends documented positive serves usable service stepped
      have now := service_now documented serves usable service stepped
      obtain ⟨handled, out, -, -, still, -, later⟩ := kept.step documented serves usable stepped
      obtain ⟨actions, final, executed, rest, idle, same⟩ := ih _ (amount ▸ lower) later still rfl
      exact ⟨[action] ++ actions, final, (Run.snoc .nil stepped).append executed, by simpa using ⟨service, rest⟩, idle,
        same.trans now⟩
    rcases idle_or_step documented serves usable with idle | ⟨timer, next, stepped⟩ | woken
    · exact ⟨[], node, .nil, by simp, idle, rfl⟩
    · exact onward (.move (.expire timer)) next trivial stepped
    · obtain ⟨next, stepped⟩ := woken input
      exact onward (.wake input) next trivial stepped

end Work

section Ticking
variable [DecidableEq τ]

structure Ticks (τ : Type) where
  now : Nat
  timers : τ → Timer
  events : Nat

/-- A system with a clock that never wraps and a queue that never fills. -/
def ticking : System τ (Ticks τ) where
  clockTime state := state.now
  timer state := state.timers
  events state := state.events
  set timer interval state :=
    { state with timers := Function.update state.timers timer ⟨interval, state.now + interval, false⟩ }
  reset timer state :=
    let held := state.timers timer
    { state with
      timers := Function.update state.timers timer ⟨held.interval, held.expirationTime + held.interval, false⟩ }
  moves
    | .tick, state, next => next = { state with now := state.now + 1 }
    | .post, state, next => next = { state with events := state.events + 1 }
    | .expire timer, state, next => (state.timers timer).expired = false ∧ (state.timers timer).expirationTime ≤ state.now ∧
      next = { state with
        timers := Function.update state.timers timer { state.timers timer with expired := true }
        events := state.events + 1 }
  hands state next := state = { next with events := next.events + 1 }

theorem ticking_documented : (ticking : System τ (Ticks τ)).Documented where
  set_timer _ _ _ := rfl
  set_clockTime _ _ _ := rfl
  reset_timer _ _ _ := rfl
  reset_clockTime _ _ := rfl
  reset_events _ _ := rfl
  tick := by
    rintro state next rfl
    exact ⟨Nat.le_succ _, rfl, rfl⟩
  post := by
    rintro state next rfl
    exact ⟨rfl, rfl, Nat.le_succ _⟩
  expire := by
    rintro timer state next ⟨running, due, rfl⟩
    exact ⟨running, due, rfl, rfl, rfl⟩
  hand := by
    rintro state next rfl
    exact ⟨rfl, rfl, rfl⟩
  expires _ _ running due := ⟨_, running, due, rfl⟩
  handed state waiting := ⟨{ state with events := state.events - 1 }, by
    simp only [ticking] at waiting ⊢
    rw [Nat.sub_add_cancel waiting]⟩

theorem ticks (thread : Thread κ (Ticks τ) σ ω ε) (node : Node (Ticks τ) σ ω) (count : Nat) :
    Run ticking thread node (List.replicate count (.move .tick))
      { node with system := { node.system with now := node.system.now + count } } := by
  induction count with
  | zero => exact .nil
  | succ count ih =>
    rw [List.replicate_succ']
    exact .snoc ih (.move rfl)

end Ticking

end Timers
