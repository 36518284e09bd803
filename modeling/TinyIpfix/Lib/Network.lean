import TinyIpfix.Lib.Transducer
import Mathlib.Data.List.Perm.Subperm
import Mathlib.Logic.Function.Basic

/-! Any number of senders, one receiver, and a network between them. A party moves when it
likes, and the network hands over what is in flight in any order. Whether it also loses or
duplicates messages is a parameter, and what can be said of them depends on it. -/

namespace Network
open Transducer

variable {ι α β σ τ κ μ ν ω ε : Type}

/-- What the network may do to a message besides handing it over. -/
structure Faults where
  loses : Prop
  duplicates : Prop

structure Parties (α β σ τ μ ω ε : Type) where
  send : α → σ → Except ε (σ × List μ)
  receive : β → τ → Except ε (τ × List ω)
  /-- The message that an input of the receiver brings, if it comes from the network. -/
  carries : β → Option μ

structure State (ι σ τ μ ω : Type) where
  senders : ι → σ
  receiver : τ
  transmitted : List μ
  inFlight : List μ
  delivered : List μ
  emitted : List ω

/-- Nothing has been sent yet. -/
def start (senders : ι → σ) (receiver : τ) : State ι σ τ μ ω := ⟨senders, receiver, [], [], [], []⟩

inductive Action (ι α β : Type)
  | send (sender : ι) (input : α)
  | receive (input : β)
  | lose
  | duplicate

/-- Machines of one kind side by side. An input names the one that it is for. -/
def together [DecidableEq ι] (step : α → σ → Except ε (σ × List μ)) (input : ι × α) (states : ι → σ) :
    Except ε ((ι → σ) × List μ) := do
  let (next, out) ← step input.2 (states input.1)
  return (Function.update states input.1 next, out)

def playTogether [DecidableEq ι] (next : α → κ → κ × List μ) (input : ι × α) (states : ι → κ) : (ι → κ) × List μ :=
  (Function.update states input.1 (next input.2 (states input.1)).1, (next input.2 (states input.1)).2)

inductive Step [DecidableEq ι] (parties : Parties α β σ τ μ ω ε) (faults : Faults) :
    Action ι α β → State ι σ τ μ ω → State ι σ τ μ ω → Prop
  | send {state : State ι σ τ μ ω} {sender : ι} {input : α} {next : σ} {messages : List μ}
    (sent : parties.send input (state.senders sender) = .ok (next, messages)) :
    Step parties faults (.send sender input) state
      { state with
        senders := Function.update state.senders sender next
        transmitted := state.transmitted ++ messages, inFlight := state.inFlight ++ messages }
  | deliver {state : State ι σ τ μ ω} {input : β} {before after : List μ} {message : μ} {next : τ} {out : List ω}
    (carried : parties.carries input = some message) (flying : state.inFlight = before ++ message :: after)
    (received : parties.receive input state.receiver = .ok (next, out)) :
    Step parties faults (.receive input) state
      { state with
        receiver := next, inFlight := before ++ after
        delivered := state.delivered ++ [message], emitted := state.emitted ++ out }
  | wake {state : State ι σ τ μ ω} {input : β} {next : τ} {out : List ω} (own : parties.carries input = none)
    (received : parties.receive input state.receiver = .ok (next, out)) :
    Step parties faults (.receive input) state
      { state with receiver := next, emitted := state.emitted ++ out }
  | lose {state : State ι σ τ μ ω} {before after : List μ} {message : μ} (may : faults.loses)
    (flying : state.inFlight = before ++ message :: after) :
    Step parties faults .lose state { state with inFlight := before ++ after }
  | duplicate {state : State ι σ τ μ ω} {before after : List μ} {message : μ} (may : faults.duplicates)
    (flying : state.inFlight = before ++ message :: after) :
    Step parties faults .duplicate state { state with inFlight := before ++ message :: message :: after }

inductive Run [DecidableEq ι] (parties : Parties α β σ τ μ ω ε) (faults : Faults) (first : State ι σ τ μ ω) :
    List (Action ι α β) → State ι σ τ μ ω → Prop
  | nil : Run parties faults first [] first
  | snoc {actions : List (Action ι α β)} {action : Action ι α β} {middle final : State ι σ τ μ ω}
    (earlier : Run parties faults first actions middle) (last : Step parties faults action middle final) :
    Run parties faults first (actions ++ [action]) final

def Action.sends? : Action ι α β → Option (ι × α)
  | .send sender input => some (sender, input)
  | _ => none

def Action.receives? : Action ι α β → Option β
  | .receive input => some input
  | _ => none

/-- The inputs of the senders, in the order in which they moved. -/
def sends (actions : List (Action ι α β)) : List (ι × α) :=
  actions.filterMap Action.sends?

def receives (actions : List (Action ι α β)) : List β :=
  actions.filterMap Action.receives?

/-- Whatever a party does next, and whatever is handed over next, is defined. -/
structure Progress (parties : Parties α β σ τ μ ω ε) (state : State ι σ τ μ ω) : Prop where
  sends : ∀ sender input, ∃ next messages, parties.send input (state.senders sender) = .ok (next, messages)
  receives : ∀ input, (∀ message, parties.carries input = some message → message ∈ state.inFlight) →
    ∃ next out, parties.receive input state.receiver = .ok (next, out)

theorem sends_append (earlier later : List (Action ι α β)) : sends (earlier ++ later) = sends earlier ++ sends later :=
  List.filterMap_append

@[simp] theorem sends_snoc (actions : List (Action ι α β)) (action : Action ι α β) :
    sends (actions ++ [action]) = sends actions ++ action.sends?.toList := by
  rw [sends, List.filterMap_append]
  cases action <;> rfl

@[simp] theorem receives_snoc (actions : List (Action ι α β)) (action : Action ι α β) :
    receives (actions ++ [action]) = receives actions ++ action.receives?.toList := by
  rw [receives, List.filterMap_append]
  cases action <;> rfl

section Projections
variable [DecidableEq ι] {parties : Parties α β σ τ μ ω ε} {faults : Faults} {first final : State ι σ τ μ ω}
  {actions : List (Action ι α β)}

/-- Whatever the network does, the senders make a run of their own, and what they put out
is what is transmitted. -/
theorem Run.senders (executed : Run parties faults first actions final) :
    ∃ out, run (together parties.send) (sends actions) first.senders = .ok (final.senders, out) ∧
      final.transmitted = first.transmitted ++ out := by
  induction executed with
  | nil => exact ⟨[], rfl, (List.append_nil _).symm⟩
  | @snoc actions action middle final earlier last ih =>
    obtain ⟨out, executed, transmitted⟩ := ih
    rw [sends_snoc]
    cases last with
    | @send _ sender input next messages sent =>
      have moved : together parties.send (sender, input) middle.senders =
          .ok (Function.update middle.senders sender next, messages) := by
        rw [together, sent]
        rfl
      exact ⟨out ++ messages, run_append_ok executed (run_singleton moved), by rw [transmitted, List.append_assoc]⟩
    | deliver | wake | lose | duplicate => exact ⟨out, by simpa [Action.sends?] using executed, transmitted⟩

theorem Run.receiver (executed : Run parties faults first actions final) :
    ∃ out, run parties.receive (receives actions) first.receiver = .ok (final.receiver, out) ∧
      final.emitted = first.emitted ++ out := by
  induction executed with
  | nil => exact ⟨[], rfl, (List.append_nil _).symm⟩
  | snoc earlier last ih =>
    obtain ⟨out, executed, emitted⟩ := ih
    rw [receives_snoc]
    cases last with
    | deliver _ _ received | wake _ received =>
      exact ⟨_, run_append_ok executed (run_singleton received), by rw [emitted, List.append_assoc]⟩
    | send | lose | duplicate => exact ⟨out, by simpa [Action.receives?] using executed, emitted⟩

theorem Run.delivered (executed : Run parties faults first actions final) :
    final.delivered = first.delivered ++ (receives actions).filterMap parties.carries := by
  induction executed with
  | nil => exact (List.append_nil _).symm
  | snoc earlier last ih =>
    rw [receives_snoc, List.filterMap_append, ← List.append_assoc, ← ih]
    cases last with
    | deliver carried _ _ => simp [Action.receives?, carried]
    | wake own _ => simp [Action.receives?, own]
    | send | lose | duplicate => simp [Action.receives?]

theorem Run.invariant (inv : State ι σ τ μ ω → Prop)
    (kept : ∀ action state next, inv state → Step parties faults action state next → inv next)
    (initial : inv first) (executed : Run parties faults first actions final) : inv final := by
  induction executed with
  | nil => exact initial
  | snoc earlier last ih => exact kept _ _ _ ih last

/-- Where progress is always possible, everything in flight can still be delivered. -/
theorem Run.drains (executed : Run parties faults first actions final)
    (progress : ∀ actions state, Run parties faults first actions state → Progress parties state)
    (carried : ∀ actions state, Run parties faults first actions state → ∀ message ∈ state.inFlight,
      ∃ input, parties.carries input = some message) :
    ∃ deliveries last, Run parties faults first (actions ++ deliveries) last ∧ last.inFlight = [] ∧
      sends deliveries = [] ∧ last.transmitted = final.transmitted ∧
      last.delivered = final.delivered ++ final.inFlight := by
  induction remaining : final.inFlight generalizing actions final with
  | nil => exact ⟨[], final, by rwa [List.append_nil], remaining, rfl, rfl, (List.append_nil _).symm⟩
  | cons message rest ih =>
    obtain ⟨input, carries⟩ := carried actions final executed message (by simp [remaining])
    obtain ⟨next, out, received⟩ := (progress actions final executed).receives input (by
      intro other same
      cases carries.symm.trans same
      simp [remaining])
    have delivered := executed.snoc (.deliver carries (show final.inFlight = [] ++ message :: rest from remaining) received)
    obtain ⟨deliveries, last, whole, drained, none, same, arrived⟩ := ih delivered rfl
    refine ⟨.receive input :: deliveries, last, ?_, drained, ?_, same, by rw [arrived, List.append_assoc]; rfl⟩
    · rwa [List.append_assoc, List.singleton_append] at whole
    · rw [sends, List.filterMap_cons_none rfl, ← sends, none]

end Projections

theorem run_together [DecidableEq ι] {send : α → σ → Except ε (σ × List μ)} {next : α → κ → κ × List μ}
    (related : σ → κ → Prop)
    (follows : ∀ input state abstract, related state abstract → ∃ stepped,
      send input state = .ok (stepped, (next input abstract).2) ∧ related stepped (next input abstract).1)
    {senders : ι → σ} {abstracts : ι → κ} (initial : ∀ sender, related (senders sender) (abstracts sender))
    (inputs : List (ι × α)) :
    ∃ final, run (together send) inputs senders = .ok (final, (play (playTogether next) inputs abstracts).2) ∧
      ∀ sender, related (final sender) ((play (playTogether next) inputs abstracts).1 sender) := by
  refine run_simulates (fun (states : ι → σ) (counts : ι → κ) => ∀ sender, related (states sender) (counts sender))
    initial ?_
  intro before input after _ states held
  obtain ⟨stepped, moved, kept⟩ := follows input.2 _ _ (held input.1)
  refine ⟨Function.update states input.1 stepped, by rw [together, moved]; rfl, ?_⟩
  intro sender
  by_cases same : sender = input.1
  · subst same
    simpa [playTogether] using kept
  · simpa [playTogether, Function.update_of_ne same] using held sender

section Accounts
variable {faults : Faults} {held transmitted : List μ}

/-- What became of the messages transmitted, by what the network may do to them: those
that are delivered or in flight are `held`. -/
structure Accounted (faults : Faults) (held transmitted : List μ) : Prop where
  genuine : ∀ message ∈ held, message ∈ transmitted
  once : ¬ faults.duplicates → held.Subperm transmitted
  complete : ¬ faults.loses → transmitted.Subperm held

theorem Accounted.conserved (accounted : Accounted faults held transmitted) (noLoss : ¬ faults.loses)
    (noCopies : ¬ faults.duplicates) : held.Perm transmitted :=
  (accounted.once noCopies).antisymm (accounted.complete noLoss)

theorem Accounted.distinct (accounted : Accounted faults held transmitted) (noCopies : ¬ faults.duplicates)
    (key : μ → κ) (apart : (transmitted.map key).Nodup) : (held.map key).Nodup := by
  obtain ⟨some, same, part⟩ := accounted.once noCopies
  exact (same.map key).nodup_iff.mp (apart.sublist (part.map key))

theorem Accounted.perm {other : List μ} (accounted : Accounted faults held transmitted) (same : other.Perm held) :
    Accounted faults other transmitted := by
  refine ⟨?_, ?_, ?_⟩
  · intro message member
    exact accounted.genuine message (same.mem_iff.mp member)
  · intro noCopies
    exact same.subperm.trans (accounted.once noCopies)
  · intro noLoss
    exact (accounted.complete noLoss).trans same.symm.subperm

theorem Accounted.filter (accounted : Accounted faults held transmitted) (keep : μ → Bool) :
    Accounted faults (held.filter keep) (transmitted.filter keep) := by
  refine ⟨?_, ?_, ?_⟩
  · intro message member
    obtain ⟨found, kept⟩ := List.mem_filter.mp member
    exact List.mem_filter.mpr ⟨accounted.genuine message found, kept⟩
  · intro noCopies
    exact (accounted.once noCopies).filter keep
  · intro noLoss
    exact (accounted.complete noLoss).filter keep

theorem Accounted.send (accounted : Accounted faults held transmitted) (messages : List μ) :
    Accounted faults (held ++ messages) (transmitted ++ messages) := by
  refine ⟨?_, ?_, ?_⟩
  · intro message member
    rcases List.mem_append.mp member with older | sent
    · exact List.mem_append_left _ (accounted.genuine message older)
    · exact List.mem_append_right _ sent
  · intro noCopies
    exact (accounted.once noCopies).append (List.Subperm.refl _)
  · intro noLoss
    exact (accounted.complete noLoss).append (List.Subperm.refl _)

theorem Accounted.lose {other : List μ} (accounted : Accounted faults held transmitted) (may : faults.loses)
    (fewer : other.Sublist held) : Accounted faults other transmitted :=
  ⟨fun message member => accounted.genuine message (fewer.subset member),
    fun noCopies => fewer.subperm.trans (accounted.once noCopies), fun noLoss => absurd may noLoss⟩

theorem Accounted.duplicate {other : List μ} (accounted : Accounted faults held transmitted) (may : faults.duplicates)
    (more : held.Sublist other) (known : other ⊆ held) : Accounted faults other transmitted :=
  ⟨fun message member => accounted.genuine message (known member), fun noCopies => absurd may noCopies,
    fun noLoss => (accounted.complete noLoss).trans more.subperm⟩

private theorem perm_origins {f : ν → μ} {origins : List ν} (same : held.Perm (origins.map f)) :
    ∃ tracked : List ν, held = tracked.map f ∧ tracked.Perm origins := by
  have lifted : Relation.Comp (fun messages (sources : List ν) => messages = sources.map f) List.Perm held origins := by
    rw [List.eq_map_comp_perm]
    exact same
  exact lifted

private theorem extend_origins {f : ν → μ} {origins part : List ν} {some whole : List μ} (sub : some.Sublist whole)
    (shape : part.map f = some) (genuine : ∀ message ∈ whole, message ∈ origins.map f)
    (inside : ∀ origin ∈ part, origin ∈ origins) :
    ∃ tracked, tracked.map f = whole ∧ part.Sublist tracked ∧ ∀ origin ∈ tracked, origin ∈ origins := by
  induction sub generalizing part with
  | slnil => exact ⟨part, shape, List.Sublist.refl _, inside⟩
  | cons message sub ih =>
    obtain ⟨tracked, whole, contains, known⟩ :=
      ih shape (fun other member => genuine other (by simp [member])) inside
    obtain ⟨origin, member, same⟩ := List.mem_map.mp (genuine message (by simp))
    refine ⟨origin :: tracked, by rw [List.map_cons, whole, same], contains.cons origin, ?_⟩
    intro other found
    rcases List.mem_cons.mp found with rfl | later
    · exact member
    · exact known other later
  | cons_cons message sub ih =>
    obtain ⟨origin, part, rfl, same, rest⟩ := List.map_eq_cons_iff.mp shape
    obtain ⟨tracked, whole, contains, known⟩ :=
      ih rest (fun other member => genuine other (by simp [member])) (fun other member => inside other (by simp [member]))
    refine ⟨origin :: tracked, by rw [List.map_cons, whole, same], contains.cons_cons origin, ?_⟩
    intro other found
    rcases List.mem_cons.mp found with rfl | later
    · exact inside other (by simp)
    · exact known other later

/-- If each message has an origin, so has each that is held, and the origins are accounted
for as the messages are. -/
theorem Accounted.lift {f : ν → μ} {origins : List ν} (accounted : Accounted faults held (origins.map f)) :
    ∃ tracked, tracked.map f = held ∧ Accounted faults tracked origins := by
  by_cases copies : faults.duplicates
  · by_cases loss : faults.loses
    · have nothing : ([] : List ν).map f = [] := rfl
      obtain ⟨tracked, whole, -, known⟩ := extend_origins (List.nil_sublist held) nothing accounted.genuine
        (fun origin member => absurd member (by simp))
      exact ⟨tracked, whole, known, fun noCopies => absurd copies noCopies, fun noLoss => absurd loss noLoss⟩
    · obtain ⟨some, same, sub⟩ := accounted.complete loss
      obtain ⟨part, shape, permuted⟩ := perm_origins same
      obtain ⟨tracked, whole, contains, known⟩ := extend_origins sub shape.symm accounted.genuine
        (fun origin member => permuted.mem_iff.mp member)
      refine ⟨tracked, whole, known, fun noCopies => absurd copies noCopies, fun _ => ?_⟩
      exact permuted.symm.subperm.trans contains.subperm
  · obtain ⟨some, same, sub⟩ := accounted.once copies
    obtain ⟨part, contained, rfl⟩ := List.sublist_map_iff.mp sub
    obtain ⟨tracked, whole, permuted⟩ := perm_origins same.symm
    have once : tracked.Subperm origins := permuted.subperm.trans contained.subperm
    refine ⟨tracked, whole.symm, fun origin member => once.subset member, fun _ => once, ?_⟩
    intro noLoss
    have total := (accounted.complete noLoss).length_le
    rw [whole, List.length_map, List.length_map] at total
    exact (once.perm_of_length_le total).symm.subperm

end Accounts

section Delivery
variable [DecidableEq ι] {parties : Parties α β σ τ μ ω ε} {faults : Faults} {senders : ι → σ} {receiver : τ}
  {actions : List (Action ι α β)} {final : State ι σ τ μ ω}

/-- In every run, what was delivered and what is in flight is accounted for. -/
theorem Run.accounted (executed : Run parties faults (start senders receiver) actions final) :
    Accounted faults (final.delivered ++ final.inFlight) final.transmitted := by
  refine executed.invariant
    (fun state => Accounted faults (state.delivered ++ state.inFlight) state.transmitted) ?_ ?_
  · intro action state next accounted moved
    cases moved with
    | send _ =>
      simp only [← List.append_assoc]
      exact accounted.send _
    | deliver _ flying _ =>
      apply accounted.perm
      simp only [flying, List.append_assoc, List.singleton_append]
      exact (List.perm_middle.symm).append_left _
    | wake _ _ => exact accounted
    | lose may flying =>
      apply accounted.lose may
      rw [flying]
      exact ((List.sublist_cons_self _ _).append_left _).append_left _
    | duplicate may flying =>
      apply accounted.duplicate may
      · rw [flying]
        exact ((List.sublist_cons_self _ _).append_left _).append_left _
      · intro message member
        simpa [flying] using member
  · exact ⟨fun message member => absurd member (by simp [start]), fun _ => List.Subperm.refl _,
      fun _ => List.Subperm.refl _⟩

end Delivery

end Network
