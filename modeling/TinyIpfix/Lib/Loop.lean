import TinyIpfix.Lib.Memory
import Mathlib.Tactic.Common

/-! Loops with a `uint8_t` counter. A list stands for the successive iterations;
the counter bounds how many of them a loop can make and still end. -/

namespace CLoop
open CMem

variable {α σ : Type}

/-- `for (uint8_t i = 0; i < n; i++)`, one iteration for each item. -/
def forEach (items : List α) (body : α → σ → Checked σ) (state : σ) : Checked σ :=
  if items.length < 256 then items.foldlM (fun current item => body item current) state
  else .error .endlessLoop

theorem forEach_long {items : List α} (long : 256 ≤ items.length) (body : α → σ → Checked σ) (state : σ) :
    forEach items body state = .error .endlessLoop := if_neg (by omega)

private theorem foldlM_invariant {body : α → σ → Checked σ} (inv : List α → σ → Prop) (front rest : List α)
    (state : σ) (held : inv front state)
    (step : ∀ before item after, front ++ rest = before ++ item :: after → ∀ current, inv before current →
      ∃ next, body item current = .ok next ∧ inv (before ++ [item]) next) :
    ∃ final, rest.foldlM (fun current item => body item current) state = .ok final ∧ inv (front ++ rest) final := by
  induction rest generalizing front state with
  | nil => exact ⟨state, rfl, by simpa using held⟩
  | cons item rest ih =>
    obtain ⟨next, executed, kept⟩ := step front item rest rfl state held
    obtain ⟨final, finished, result⟩ := ih (front ++ [item]) next kept (by simpa using step)
    refine ⟨final, ?_, by simpa using result⟩
    rw [List.foldlM_cons, executed]
    exact finished

/-- An invariant of the iterations already made holds when the loop ends. -/
theorem forEach_invariant {items : List α} {body : α → σ → Checked σ} {state : σ} (inv : List α → σ → Prop)
    (short : items.length < 256) (initial : inv [] state)
    (step : ∀ before item after, items = before ++ item :: after → ∀ current, inv before current →
      ∃ next, body item current = .ok next ∧ inv (before ++ [item]) next) :
    ∃ final, forEach items body state = .ok final ∧ inv items final := by
  rw [forEach, if_pos short]
  exact foldlM_invariant inv [] items state initial step

theorem forEach_range {count : Nat} {body : Nat → σ → Checked σ} {state : σ} (inv : Nat → σ → Prop)
    (short : count < 256) (initial : inv 0 state)
    (step : ∀ index < count, ∀ current, inv index current →
      ∃ next, body index current = .ok next ∧ inv (index + 1) next) :
    ∃ final, forEach (List.range count) body state = .ok final ∧ inv count final := by
  obtain ⟨final, executed, held⟩ : ∃ final, forEach (List.range count) body state = .ok final ∧
      inv (List.range count).length final := by
    refine forEach_invariant (fun done current => inv done.length current) (by simpa using short) initial ?_
    intro before index after shape current held
    have inside : before.length < count := by
      have total := congrArg List.length shape
      simp only [List.length_range, List.length_append, List.length_cons] at total
      omega
    have position : index = before.length := by
      have entry := congrArg (fun items => items[before.length]?) shape
      simpa [inside] using entry.symm
    subst position
    obtain ⟨next, executed, kept⟩ := step before.length inside current held
    exact ⟨next, executed, by simpa using kept⟩
  exact ⟨final, executed, by simpa using held⟩

theorem forEach_ok_short {items : List α} {body : α → σ → Checked σ} {state final : σ}
    (executed : forEach items body state = .ok final) : items.length < 256 := by
  by_contra long
  rw [forEach_long (by omega)] at executed
  cases executed

private theorem foldlM_history {body : α → σ → Checked σ} (inv : List α → σ → Prop) (front rest : List α)
    {state final : σ} (held : inv front state)
    (kept : ∀ before item after, front ++ rest = before ++ item :: after → ∀ current next, inv before current →
      body item current = .ok next → inv (before ++ [item]) next)
    (executed : rest.foldlM (fun current item => body item current) state = .ok final) : inv (front ++ rest) final := by
  induction rest generalizing front state with
  | nil =>
    cases executed
    simpa using held
  | cons item rest ih =>
    rw [List.foldlM_cons] at executed
    obtain ⟨next, head, tail⟩ := bind_inv executed
    have result := ih (front ++ [item]) (kept front item rest rfl state next held head) (by simpa using kept) tail
    simpa using result

/-- What holds of the iterations already made, in a loop that succeeds, holds at its end. -/
theorem forEach_history {items : List α} {body : α → σ → Checked σ} {state final : σ} (inv : List α → σ → Prop)
    (initial : inv [] state)
    (kept : ∀ before item after, items = before ++ item :: after → ∀ current next, inv before current →
      body item current = .ok next → inv (before ++ [item]) next)
    (executed : forEach items body state = .ok final) : inv items final := by
  rw [forEach, if_pos (forEach_ok_short executed)] at executed
  exact foldlM_history inv [] items initial kept executed

theorem forEach_total {items : List α} {body : α → σ → Checked σ} {state : σ} (f : σ → α → σ)
    (short : items.length < 256) (total : ∀ item ∈ items, ∀ current, body item current = .ok (f current item)) :
    forEach items body state = .ok (items.foldl f state) := by
  rw [forEach, if_pos short]
  induction items generalizing state with
  | nil => rfl
  | cons item items ih =>
    rw [List.foldlM_cons, total item (by simp), List.foldl_cons]
    exact ih (by simp only [List.length_cons] at short; omega) (fun later member => total later (by simp [member]))

theorem counter_succ {counter : UInt8} {count : Nat} (counted : counter.toNat = count) (short : count < 255) :
    (counter + 1).toNat = count + 1 := by
  rw [UInt8.toNat_add, counted]
  exact Nat.mod_eq_of_lt (by simp; omega)

/-- The same loop step by step: a wrapping counter, its test, and fuel. -/
def iterate (items : List α) (body : α → σ → Checked σ) : Nat → UInt8 → σ → Option (Checked σ)
  | 0, _, _ => none
  | fuel + 1, counter, state =>
    match items[counter.toNat]? with
    | none => some (.ok state)
    | some item =>
      match body item state with
      | .ok next => iterate items body fuel (counter + 1) next
      | .error fault => some (.error fault)

private theorem iterate_from (front rest : List α) (body : α → σ → Checked σ) (counter : UInt8) (state : σ)
    (position : counter.toNat = front.length) (short : (front ++ rest).length < 256) :
    iterate (front ++ rest) body (rest.length + 1) counter state =
      some (rest.foldlM (fun current item => body item current) state) := by
  induction rest generalizing front counter state with
  | nil => simp [iterate, position]
  | cons item rest ih =>
    simp only [List.length_append, List.length_cons] at short
    have found : (front ++ item :: rest)[counter.toNat]? = some item := by simp [position]
    have moved : (counter + 1).toNat = (front ++ [item]).length := by
      rw [List.length_append, List.length_singleton]
      exact counter_succ position (by omega)
    rw [iterate, found, List.foldlM_cons]
    cases executed : body item state with
    | ok next =>
      simp only [executed]
      have later := ih (front ++ [item]) (counter + 1) next moved (by
        simp only [List.length_append, List.length_singleton]; omega)
      rw [List.append_assoc, List.singleton_append] at later
      exact later
    | error fault => simp only [executed]; rfl

/-- With fewer than 256 items the counting loop ends, and with the result of `forEach`. -/
theorem iterate_ends {items : List α} (short : items.length < 256) (body : α → σ → Checked σ) (state : σ) :
    iterate items body (items.length + 1) 0 state = some (forEach items body state) := by
  rw [forEach, if_pos short]
  exact iterate_from [] items body 0 state rfl short

/-- With more items the counter wraps and the loop can only end in a fault. -/
theorem iterate_endless {items : List α} (long : 256 ≤ items.length) (body : α → σ → Checked σ)
    (fuel : Nat) (counter : UInt8) (state : σ) (final : Checked σ)
    (ended : iterate items body fuel counter state = some final) : ∃ fault, final = .error fault := by
  induction fuel generalizing counter state with
  | zero => cases ended
  | succ fuel ih =>
    have inside : counter.toNat < items.length := Nat.lt_of_lt_of_le counter.toNat_lt long
    rw [iterate, List.getElem?_eq_getElem inside] at ended
    cases executed : body items[counter.toNat] state with
    | ok next =>
      simp only [executed] at ended
      exact ih (counter + 1) next ended
    | error fault =>
      simp only [executed, Option.some.injEq] at ended
      exact ⟨fault, ended.symm⟩

end CLoop
