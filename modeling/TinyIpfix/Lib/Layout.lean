import Mathlib.Data.List.Basic
import Mathlib.Tactic.Common
import Mathlib.Tactic.Ring

/-! Records laid out back to back. A list of widths cuts a byte string into fields; a
decoder of single items takes a whole string apart. -/

namespace Layout

variable {α β γ : Type}

/-- The fields of the given widths, one behind the other. -/
def fields : List Nat → List α → List (List α)
  | [], _ => []
  | width :: widths, items => items.take width :: fields widths (items.drop width)

/-- Cut a string into fields that use it up exactly. -/
def cut (widths : List Nat) (items : List α) : Option (List (List α)) :=
  if items.length = widths.sum then some (fields widths items) else none

/-- Where the item at an index starts. -/
def offset (widths : List Nat) (index : Nat) : Nat := (widths.take index).sum

/-- Decode items until nothing is left; the fuel bounds their number. -/
def decodeEach (item : List α → Option (β × List α)) : Nat → List α → Option (List β)
  | _, [] => some []
  | 0, _ :: _ => none
  | fuel + 1, input :: inputs => do
    let (first, rest) ← item (input :: inputs)
    let others ← decodeEach item fuel rest
    return first :: others

@[simp] theorem offset_zero (widths : List Nat) : offset widths 0 = 0 := rfl

theorem offset_succ (widths : List Nat) {index : Nat} (inside : index < widths.length) :
    offset widths (index + 1) = offset widths index + widths[index] := by
  rw [offset, List.take_succ_eq_append_getElem inside, List.sum_append, List.sum_singleton, offset]

theorem offset_le_sum (widths : List Nat) (index : Nat) : offset widths index ≤ widths.sum := by
  have parts := congrArg List.sum (List.take_append_drop index widths)
  rw [List.sum_append] at parts
  rw [← parts, offset]
  exact Nat.le_add_right _ _

@[simp] theorem fields_length (widths : List Nat) (items : List α) : (fields widths items).length = widths.length := by
  induction widths generalizing items with
  | nil => rfl
  | cons width widths ih => rw [fields, List.length_cons, ih, List.length_cons]

theorem fields_append (first second : List Nat) (items : List α) :
    fields (first ++ second) items = fields first items ++ fields second (items.drop first.sum) := by
  induction first generalizing items with
  | nil => simp [fields]
  | cons width first ih => simp [fields, ih]

theorem fields_prefix {widths : List Nat} {front : List α} (covered : widths.sum ≤ front.length) (rest : List α) :
    fields widths (front ++ rest) = fields widths front := by
  induction widths generalizing front with
  | nil => rfl
  | cons width widths ih =>
    rw [List.sum_cons] at covered
    rw [fields, fields, List.take_append_of_le_length (by omega), List.drop_append_of_le_length (by omega),
      ih (by rw [List.length_drop]; omega)]

theorem fields_flatMap (encode : γ → List α) (items : List γ) :
    fields (items.map fun item => (encode item).length) (items.flatMap encode) = items.map encode := by
  induction items with
  | nil => rfl
  | cons item items ih => rw [List.map_cons, List.flatMap_cons, fields, List.take_left, List.drop_left, ih, List.map_cons]

theorem cut_flatMap (encode : γ → List α) (items : List γ) :
    cut (items.map fun item => (encode item).length) (items.flatMap encode) = some (items.map encode) := by
  rw [cut, if_pos (List.length_flatMap ..), fields_flatMap]

theorem fields_replicate (widths : List Nat) {chunks : List (List α)}
    (sized : ∀ chunk ∈ chunks, chunk.length = widths.sum) :
    fields (List.replicate chunks.length widths).flatten chunks.flatten = chunks.flatMap (fields widths) := by
  induction chunks with
  | nil => rfl
  | cons chunk chunks ih =>
    have length := sized chunk (by simp)
    rw [List.length_cons, List.replicate_succ, List.flatten_cons, List.flatten_cons, fields_append,
      fields_prefix (Nat.le_of_eq length.symm), ← length, List.drop_left,
      ih (fun later member => sized later (by simp [member]))]
    rfl

theorem cut_replicate (widths : List Nat) {chunks : List (List α)}
    (sized : ∀ chunk ∈ chunks, chunk.length = widths.sum) :
    cut (List.replicate chunks.length widths).flatten chunks.flatten = some (chunks.flatMap (fields widths)) := by
  have total : chunks.flatten.length = (List.replicate chunks.length widths).flatten.sum := by
    rw [List.length_flatten, List.sum_flatten, List.map_replicate]
    congr 1
    exact List.map_eq_replicate_iff.mpr sized
  rw [cut, if_pos total, fields_replicate widths sized]

theorem flatMap_getElem? {size : Nat} (pieces : γ → List α) (sized : ∀ item, (pieces item).length = size)
    (items : List γ) (outer : Nat) {inner : Nat} (inside : inner < size) :
    (items.flatMap pieces)[outer * size + inner]? = items[outer]?.bind fun item => (pieces item)[inner]? := by
  induction items generalizing outer with
  | nil => simp
  | cons item items ih =>
    rw [List.flatMap_cons]
    cases outer with
    | zero =>
      rw [Nat.zero_mul, Nat.zero_add, List.getElem?_append_left (by rw [sized]; exact inside)]
      rfl
    | succ outer =>
      rw [List.getElem?_append_right (by rw [sized, Nat.succ_mul]; omega), sized, List.getElem?_cons_succ, ← ih]
      congr 1
      rw [Nat.succ_mul]
      omega

/-- A decoder that undoes the encoding of one item undoes that of a list of them. -/
theorem decodeEach_flatMap {encode : γ → List α} {item : List α → Option (β × List α)} {describe : γ → β}
    (roundtrip : ∀ value rest, item (encode value ++ rest) = some (describe value, rest))
    (nonempty : ∀ value, encode value ≠ []) (values : List γ) {fuel : Nat} (enough : values.length ≤ fuel) :
    decodeEach item fuel (values.flatMap encode) = some (values.map describe) := by
  induction values generalizing fuel with
  | nil => cases fuel <;> rfl
  | cons value values ih =>
    obtain ⟨fuel, rfl⟩ : ∃ less, fuel = less + 1 := ⟨fuel - 1, by simp only [List.length_cons] at enough; omega⟩
    obtain ⟨first, others, shape⟩ := List.exists_cons_of_ne_nil (nonempty value)
    have decoded := roundtrip value (values.flatMap encode)
    rw [shape, List.cons_append] at decoded
    rw [List.flatMap_cons, shape, List.cons_append, decodeEach, decoded]
    simp only [Option.bind_eq_bind, Option.bind_some, ih (by simpa using enough), List.map_cons]
    rfl

end Layout
