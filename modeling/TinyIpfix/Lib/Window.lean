import TinyIpfix.Lib.Transducer
import Mathlib.Data.Nat.Basic
import Mathlib.Tactic.Ring

/-! Collecting a stream in windows of a fixed degree. The machine keeps the items of
the open window and the number of windows closed; closing one emits a value that
depends only on these. -/

namespace Window
open Transducer

variable {α ω : Type}

structure Collected (α : Type) where
  closed : Nat
  pending : List α

/-- No item is pending. -/
def boundary (closed : Nat) : Collected α := ⟨closed, []⟩

def push (degree : Nat) (emit : Nat → List α → ω) (item : α) (state : Collected α) : Collected α × List ω :=
  if state.pending.length + 1 = degree then
    (⟨state.closed + 1, []⟩, [emit state.closed (state.pending ++ [item])])
  else (⟨state.closed, state.pending ++ [item]⟩, [])

/-- Two streams that agree under some views are collected alike, if what is emitted for a
window depends on the views alone. -/
theorem push_agrees {β γ : Type} {f : α → γ} {g : β → γ} (degree : Nat) (emit : Nat → List α → ω)
    (other : Nat → List β → ω) {state : Collected α} {twin : Collected β} {item : α} {partner : β}
    (counts : state.closed = twin.closed) (pending : state.pending.map f = twin.pending.map g) (same : f item = g partner)
    (emits : ∀ items partners, items.length = degree → items.map f = partners.map g →
      emit state.closed items = other state.closed partners) :
    (push degree emit item state).2 = (push degree other partner twin).2 ∧
      (push degree emit item state).1.closed = (push degree other partner twin).1.closed ∧
      (push degree emit item state).1.pending.map f = (push degree other partner twin).1.pending.map g := by
  have lengths : state.pending.length = twin.pending.length := by simpa using congrArg List.length pending
  have longer : (state.pending ++ [item]).map f = (twin.pending ++ [partner]).map g := by
    rw [List.map_append, List.map_append, pending, List.map_singleton, List.map_singleton, same]
  simp only [push, ← lengths]
  split
  next closes =>
    refine ⟨?_, by rw [counts], rfl⟩
    rw [emits _ _ (by rw [List.length_append, List.length_singleton, closes]) longer, counts]
  next continues => exact ⟨rfl, counts, longer⟩

/-- The `index`-th window of a stream; the last one may be incomplete. -/
def window (degree : Nat) (items : List α) (index : Nat) : List α :=
  (items.drop (index * degree)).take degree

theorem window_length {degree : Nat} {items : List α} {index : Nat} (complete : index < items.length / degree) :
    (window degree items index).length = degree := by
  have positive : 0 < degree := by
    rcases Nat.eq_zero_or_pos degree with rfl | positive
    · simp at complete
    · exact positive
  have covered : (index + 1) * degree ≤ items.length := (Nat.le_div_iff_mul_le positive).mp complete
  rw [Nat.succ_mul] at covered
  simp only [window, List.length_take, List.length_drop]
  omega

theorem window_append {degree : Nat} {items : List α} {index : Nat} (complete : index < items.length / degree)
    (more : List α) : window degree (items ++ more) index = window degree items index := by
  have full := window_length complete
  simp only [window, List.length_take, List.length_drop] at full
  have inside : index * degree ≤ items.length ∨ degree = 0 := by omega
  rcases inside with inside | rfl
  · rw [window, window, List.drop_append_of_le_length inside, List.take_append_of_le_length (by simp; omega)]
  · simp [window]

theorem window_sublist (degree : Nat) (items : List α) (index : Nat) : (window degree items index).Sublist items :=
  (List.take_sublist _ _).trans (List.drop_sublist _ _)

theorem mem_window {degree : Nat} {items : List α} {index : Nat} {item : α}
    (member : item ∈ window degree items index) : item ∈ items :=
  List.mem_of_mem_drop (List.mem_of_mem_take member)

theorem window_map {β : Type} (f : α → β) (degree : Nat) (items : List α) (index : Nat) :
    (window degree items index).map f = window degree (items.map f) index := by
  rw [window, window, List.map_take, List.map_drop]

theorem windows_flatten (degree : Nat) (items : List α) (count : Nat) :
    ((List.range count).map (window degree items)).flatten = items.take (count * degree) := by
  induction count with
  | zero => simp
  | succ count ih =>
    rw [List.range_succ, List.map_append, List.flatten_append, ih, Nat.succ_mul, List.take_add, List.map_singleton,
      List.flatten_singleton, window]

theorem window_flatten {degree : Nat} {windows : List (List α)} (full : ∀ items ∈ windows, items.length = degree)
    (rest : List α) {index : Nat} {items : List α} (found : windows[index]? = some items) :
    window degree (windows.flatten ++ rest) index = items := by
  induction windows generalizing index with
  | nil => cases found
  | cons first windows ih =>
    have length := full first (by simp)
    cases index with
    | zero =>
      cases found
      rw [window, Nat.zero_mul, List.drop_zero, List.flatten_cons, List.append_assoc, ← length, List.take_left]
    | succ index =>
      have later := ih (fun other member => full other (by simp [member])) found
      rw [window] at later ⊢
      rw [List.flatten_cons, List.append_assoc, Nat.succ_mul, Nat.add_comm, ← List.drop_drop, ← length, List.drop_left,
        length, later]

/-- Collecting a stream emits one value for each complete window, in order, and
leaves the items of the incomplete one pending. -/
theorem play_push {degree : Nat} (positive : 0 < degree) (emit : Nat → List α → ω) (closed : Nat) (items : List α) :
    play (push degree emit) items (boundary closed) =
      (⟨closed + items.length / degree, items.drop (items.length / degree * degree)⟩,
        (List.range (items.length / degree)).map fun index => emit (closed + index) (window degree items index)) := by
  induction items using List.reverseRecOn with
  | nil => simp [boundary]
  | append_singleton items item ih =>
    have counted := Nat.div_add_mod' items.length degree
    have small := Nat.mod_lt items.length positive
    have started : items.length / degree * degree ≤ items.length := Nat.div_mul_le_self _ _
    have older : ∀ index ∈ List.range (items.length / degree),
        emit (closed + index) (window degree (items ++ [item]) index) =
          emit (closed + index) (window degree items index) := by
      intro index member
      rw [window_append (List.mem_range.mp member)]
    rw [play_append, ih, push]
    simp only [List.length_drop, List.length_append, List.length_singleton]
    split
    next closes =>
      have quotient : (items.length + 1) / degree = items.length / degree + 1 := by
        rw [Nat.div_eq_iff positive, Nat.succ_mul]
        omega
      have last : items.drop (items.length / degree * degree) ++ [item] =
          window degree (items ++ [item]) (items.length / degree) := by
        rw [window, List.drop_append_of_le_length started, List.take_of_length_le (by simp; omega)]
      have rest : (items ++ [item]).drop ((items.length / degree + 1) * degree) = [] := by
        apply List.drop_of_length_le
        rw [List.length_append, List.length_singleton, Nat.succ_mul]
        omega
      rw [quotient, rest, List.range_succ, List.map_append, List.map_congr_left older, List.map_singleton, last,
        Nat.add_assoc]
    next continues =>
      have quotient : (items.length + 1) / degree = items.length / degree := by
        rw [Nat.div_eq_iff positive]
        omega
      rw [quotient, List.map_congr_left older, List.drop_append_of_le_length started, List.append_nil]

theorem pending_lt {degree : Nat} (positive : 0 < degree) (emit : Nat → List α → ω) (closed : Nat) (items : List α) :
    (play (push degree emit) items (boundary closed)).1.pending.length < degree := by
  have counted := Nat.div_add_mod' items.length degree
  have small := Nat.mod_lt items.length positive
  rw [play_push positive, List.length_drop]
  omega

/-- The items pending before the next one, together with it, open the window it falls in. -/
theorem pending_prefix {degree : Nat} (positive : 0 < degree) (emit : Nat → List α → ω) (closed : Nat)
    (before : List α) (item : α) (after : List α) :
    (play (push degree emit) before (boundary closed)).1.pending ++ [item] <+:
      window degree (before ++ item :: after) (before.length / degree) := by
  have counted := Nat.div_add_mod' before.length degree
  have small := Nat.mod_lt before.length positive
  rw [play_push positive, window, List.drop_append_of_le_length (Nat.div_mul_le_self _ _)]
  have split : before.drop (before.length / degree * degree) ++ item :: after =
      (before.drop (before.length / degree * degree) ++ [item]) ++ after := by simp
  rw [split, List.prefix_take_iff]
  refine ⟨List.prefix_append _ _, ?_⟩
  simp only [List.length_append, List.length_drop, List.length_singleton]
  omega

theorem play_push_open {degree : Nat} (emit : Nat → List α → ω) (closed : Nat) {items : List α}
    (short : items.length < degree) : play (push degree emit) items (boundary closed) = (⟨closed, items⟩, []) := by
  rw [play_push (by omega), Nat.div_eq_of_lt short, Nat.zero_mul, List.drop_zero]
  rfl

theorem play_push_once {degree : Nat} (positive : 0 < degree) (emit : Nat → List α → ω) (closed : Nat) {items : List α}
    (full : items.length = degree) :
    play (push degree emit) items (boundary closed) = (boundary (closed + 1), [emit closed items]) := by
  have whole : window degree items 0 = items := by
    rw [window, Nat.zero_mul, List.drop_zero, ← full, List.take_length]
  rw [play_push positive, full, Nat.div_self positive, List.range_one, List.map_singleton, whole, Nat.one_mul, ← full,
    List.drop_length]
  rfl

end Window
