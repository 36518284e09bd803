import Mathlib.Data.List.Induction
import Mathlib.Tactic.Common

/-! Runs of a machine that reads inputs, may fail, and emits outputs, and the total
machine it is compared with. A simulation relates the two state by state and
makes the outputs equal. -/

namespace Transducer

variable {σ τ ι ω ε : Type}

def run (step : ι → σ → Except ε (σ × List ω)) : List ι → σ → Except ε (σ × List ω)
  | [], state => .ok (state, [])
  | input :: inputs, state => do
    let (next, first) ← step input state
    let (final, rest) ← run step inputs next
    return (final, first ++ rest)

/-- A run of a machine that cannot fail. -/
def play (next : ι → τ → τ × List ω) (inputs : List ι) (start : τ) : τ × List ω :=
  inputs.foldl (fun current input => ((next input current.1).1, current.2 ++ (next input current.1).2)) (start, [])

section Runs
variable {step : ι → σ → Except ε (σ × List ω)}

@[simp] theorem run_nil (state : σ) : run step [] state = .ok (state, []) := rfl

theorem run_cons_ok {input : ι} {inputs : List ι} {state next final : σ} {first rest : List ω}
    (head : step input state = .ok (next, first)) (tail : run step inputs next = .ok (final, rest)) :
    run step (input :: inputs) state = .ok (final, first ++ rest) := by
  simp only [run, head, tail, bind, Except.bind, pure, Except.pure]

theorem run_cons_inv {input : ι} {inputs : List ι} {state final : σ} {out : List ω}
    (executed : run step (input :: inputs) state = .ok (final, out)) :
    ∃ next first rest, step input state = .ok (next, first) ∧
      run step inputs next = .ok (final, rest) ∧ out = first ++ rest := by
  cases head : step input state with
  | error fault => simp [run, head, bind, Except.bind] at executed
  | ok pair =>
    cases tail : run step inputs pair.1 with
    | error fault => simp [run, head, tail, bind, Except.bind] at executed
    | ok result =>
      simp only [run, head, tail, bind, Except.bind, pure, Except.pure, Except.ok.injEq, Prod.mk.injEq] at executed
      obtain ⟨rfl, rfl⟩ := executed
      exact ⟨pair.1, pair.2, result.2, rfl, tail, rfl⟩

theorem run_append_ok {front rest : List ι} {state middle final : σ} {first second : List ω}
    (head : run step front state = .ok (middle, first)) (tail : run step rest middle = .ok (final, second)) :
    run step (front ++ rest) state = .ok (final, first ++ second) := by
  induction front generalizing state first with
  | nil =>
    cases head
    exact tail
  | cons input inputs ih =>
    obtain ⟨next, early, late, stepped, remaining, rfl⟩ := run_cons_inv head
    rw [List.cons_append, List.append_assoc]
    exact run_cons_ok stepped (ih remaining)

theorem run_append_inv {front rest : List ι} {state final : σ} {out : List ω}
    (executed : run step (front ++ rest) state = .ok (final, out)) :
    ∃ middle first second, run step front state = .ok (middle, first) ∧
      run step rest middle = .ok (final, second) ∧ out = first ++ second := by
  induction front generalizing state out with
  | nil => exact ⟨state, [], out, rfl, executed, rfl⟩
  | cons input inputs ih =>
    obtain ⟨next, early, late, stepped, remaining, rfl⟩ := run_cons_inv executed
    obtain ⟨middle, first, second, head, tail, rfl⟩ := ih remaining
    exact ⟨middle, early ++ first, second, run_cons_ok stepped head, tail, (List.append_assoc _ _ _).symm⟩

theorem run_singleton {input : ι} {state next : σ} {out : List ω}
    (executed : step input state = .ok (next, out)) : run step [input] state = .ok (next, out) := by
  simpa using run_cons_ok executed (run_nil next)

theorem run_invariant (inv : σ → Prop) {inputs : List ι}
    (kept : ∀ input ∈ inputs, ∀ state next out, inv state → step input state = .ok (next, out) → inv next)
    {state final : σ} {out : List ω} (initial : inv state) (executed : run step inputs state = .ok (final, out)) :
    inv final := by
  induction inputs generalizing state out with
  | nil =>
    cases executed
    exact initial
  | cons input inputs ih =>
    obtain ⟨next, first, rest, stepped, remaining, -⟩ := run_cons_inv executed
    exact ih (fun later member => kept later (by simp [member])) (kept input (by simp) state next first initial stepped)
      remaining

theorem run_total (inv : σ → Prop)
    (total : ∀ input state, inv state → ∃ next out, step input state = .ok (next, out) ∧ inv next)
    (inputs : List ι) {state : σ} (initial : inv state) :
    ∃ final out, run step inputs state = .ok (final, out) ∧ inv final := by
  induction inputs generalizing state with
  | nil => exact ⟨state, [], rfl, initial⟩
  | cons input inputs ih =>
    obtain ⟨next, first, stepped, kept⟩ := total input state initial
    obtain ⟨final, rest, executed, held⟩ := ih kept
    exact ⟨final, first ++ rest, run_cons_ok stepped executed, held⟩

/-- Inputs the machine ignores can be removed from a run. -/
theorem run_filter (keep : ι → Bool)
    (ignored : ∀ input, keep input = false → ∀ state, step input state = .ok (state, []))
    (inputs : List ι) (state : σ) : run step inputs state = run step (inputs.filter keep) state := by
  induction inputs generalizing state with
  | nil => rfl
  | cons input inputs ih =>
    cases kept : keep input with
    | true =>
      rw [List.filter_cons_of_pos kept, run, run]
      simp only [ih]
    | false =>
      rw [List.filter_cons_of_neg (by simp [kept]), run, ignored input kept]
      simp only [bind, Except.bind, ih]
      cases run step (inputs.filter keep) state <;> rfl

/-- The first list with further inputs of a kind put in anywhere. -/
inductive Interspersed (kind : ι → Prop) : List ι → List ι → Prop
  | nil : Interspersed kind [] []
  | keep (input : ι) {inputs others : List ι} (rest : Interspersed kind inputs others) :
    Interspersed kind (input :: inputs) (input :: others)
  | insert (input : ι) {inputs others : List ι} (added : kind input) (rest : Interspersed kind inputs others) :
    Interspersed kind inputs (input :: others)

theorem Interspersed.prepend {kind : ι → Prop} (front : List ι) {inputs others : List ι}
    (rest : Interspersed kind inputs others) : Interspersed kind (front ++ inputs) (front ++ others) := by
  induction front with
  | nil => exact rest
  | cons input front ih => exact .keep input ih

theorem Interspersed.filter {kind : ι → Prop} {keep : ι → Bool} (dropped : ∀ input, kind input → keep input = false)
    {inputs others : List ι} (interspersed : Interspersed kind inputs others) :
    others.filter keep = inputs.filter keep := by
  induction interspersed with
  | nil => rfl
  | keep input rest ih => rw [List.filter_cons, List.filter_cons, ih]
  | insert input added rest ih => rw [List.filter_cons_of_neg (by simp [dropped input added]), ih]

theorem Interspersed.mem {kind : ι → Prop} {inputs others : List ι} (interspersed : Interspersed kind inputs others)
    {input : ι} (member : input ∈ others) : kind input ∨ input ∈ inputs := by
  induction interspersed with
  | nil => cases member
  | keep first rest ih =>
    rcases List.mem_cons.mp member with rfl | later
    · exact .inr List.mem_cons_self
    · exact (ih later).imp_right (List.mem_cons_of_mem _)
  | insert first added rest ih =>
    rcases List.mem_cons.mp member with rfl | later
    · exact .inl added
    · exact ih later

/-- Inputs that change nothing do not change a run either, wherever they arrive. -/
theorem run_interspersed {kind : ι → Prop} (ignored : ∀ input, kind input → ∀ state, step input state = .ok (state, []))
    {inputs others : List ι} (interspersed : Interspersed kind inputs others) (state : σ) :
    run step others state = run step inputs state := by
  induction interspersed generalizing state with
  | nil => rfl
  | keep input rest ih =>
    rw [run, run]
    simp only [ih]
  | insert input added rest ih =>
    rw [run, ignored input added]
    simp only [bind, Except.bind, ih]
    cases run step _ state <;> rfl

theorem run_congr {other : ι → σ → Except ε (σ × List ω)} {inputs : List ι}
    (same : ∀ input ∈ inputs, ∀ state, step input state = other input state) (state : σ) :
    run step inputs state = run other inputs state := by
  induction inputs generalizing state with
  | nil => rfl
  | cons input inputs ih =>
    rw [run, run, same input (by simp)]
    simp only [ih (fun later member => same later (by simp [member]))]

end Runs

section Plays
variable (next : ι → τ → τ × List ω)

@[simp] theorem play_nil (start : τ) : play next [] start = (start, []) := rfl

theorem play_append (inputs : List ι) (input : ι) (start : τ) :
    play next (inputs ++ [input]) start =
      ((next input (play next inputs start).1).1,
        (play next inputs start).2 ++ (next input (play next inputs start).1).2) := by
  simp [play]

theorem play_concat (first second : List ι) (start : τ) :
    play next (first ++ second) start = ((play next second (play next first start).1).1,
      (play next first start).2 ++ (play next second (play next first start).1).2) := by
  induction second using List.reverseRecOn with
  | nil => simp
  | append_singleton second input ih =>
    rw [← List.append_assoc, play_append, ih, play_append, List.append_assoc]

theorem play_cons (input : ι) (inputs : List ι) (start : τ) :
    play next (input :: inputs) start = ((play next inputs (next input start).1).1,
      (next input start).2 ++ (play next inputs (next input start).1).2) := by
  rw [← List.singleton_append, play_concat]
  rfl

end Plays

/-- A step that follows the total machine from every state it reaches makes the
whole run follow it: no failure, related final states and equal outputs. -/
theorem run_simulates {step : ι → σ → Except ε (σ × List ω)} {next : ι → τ → τ × List ω}
    (related : σ → τ → Prop) {inputs : List ι} {state : σ} {start : τ} (initial : related state start)
    (follows : ∀ before input after, inputs = before ++ input :: after → ∀ current,
      related current (play next before start).1 →
      ∃ stepped, step input current = .ok (stepped, (next input (play next before start).1).2) ∧
        related stepped (next input (play next before start).1).1) :
    ∃ final, run step inputs state = .ok (final, (play next inputs start).2) ∧
      related final (play next inputs start).1 := by
  induction inputs using List.reverseRecOn with
  | nil => exact ⟨state, rfl, initial⟩
  | append_singleton inputs input ih =>
    obtain ⟨middle, executed, held⟩ := ih (fun before earlier after shape =>
      follows before earlier (after ++ [input]) (by simp [shape]))
    obtain ⟨final, stepped, result⟩ := follows inputs input [] rfl middle held
    refine ⟨final, ?_, by rw [play_append]; exact result⟩
    rw [play_append]
    exact run_append_ok executed (run_singleton stepped)

end Transducer
