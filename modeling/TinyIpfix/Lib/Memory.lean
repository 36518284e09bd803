import Mathlib.Data.List.Basic
import Mathlib.Tactic.Common

/-! Byte objects of a C program. A region is what a pointer sees: the bytes of one
object and the memory that follows it. Writes are checked against the object;
reads are checked where the caller asks for it and otherwise see what follows. -/

namespace CMem

/-- Why a computation has no defined result. -/
inductive Fault
  | nullPointer
  | negativeLength
  | readOutside
  | writeOutside
  | endlessLoop
  deriving Repr, DecidableEq

abbrev Checked (α : Type) := Except Fault α

structure Region where
  bytes : List UInt8
  beyond : Nat → UInt8

namespace Region

def size (region : Region) : Nat := region.bytes.length

def byteAt (region : Region) (index : Nat) : UInt8 :=
  region.bytes.getD index (region.beyond (index - region.size))

/-- The first `count` bytes seen from the pointer, also past the object. -/
def view (region : Region) (count : Nat) : List UInt8 :=
  (List.range count).map region.byteAt

/-- The pointer moved `offset` bytes on. -/
def advance (region : Region) (offset : Nat) : Region :=
  ⟨region.bytes.drop offset, fun index => region.beyond (offset - region.size + index)⟩

def load (region : Region) (index : Nat) : Checked UInt8 :=
  if index < region.size then .ok (region.byteAt index) else .error .readOutside

def write (region : Region) (start : Nat) (source : List UInt8) : Checked Region :=
  if start + source.length ≤ region.size then
    .ok { region with bytes := region.bytes.take start ++ source ++ region.bytes.drop (start + source.length) }
  else .error .writeOutside

def store (region : Region) (index : Nat) (byte : UInt8) : Checked Region :=
  region.write index [byte]

/-- `region[index] |= byte`. -/
def storeOr (region : Region) (index : Nat) (byte : UInt8) : Checked Region := do
  let old ← region.load index
  region.store index (old ||| byte)

end Region

/-- `memcpy` with the length as the signed value the caller computed. The source
bytes are taken as they were before the call. -/
def memcpy (target : Region) (position : Nat) (source : Region) (start : Nat) (length : Int) : Checked Region :=
  if length < 0 then .error .negativeLength
  else if start + length.toNat ≤ source.size then
    target.write position ((source.bytes.drop start).take length.toNat)
  else .error .readOutside

/-- A fresh block inside a memory whose contents are arbitrary. -/
def malloc (size : Nat) (memory : Nat → UInt8) : Region :=
  ⟨(List.range size).map memory, fun index => memory (size + index)⟩

/-- Dereferencing a pointer that may be `NULL`. -/
def deref {α : Type} : Option α → Checked α
  | some object => .ok object
  | none => .error .nullPointer

@[simp] theorem ok_bind {α β : Type} (value : α) (next : α → Checked β) :
    (Except.ok value >>= next : Checked β) = next value := rfl

@[simp] theorem error_bind {α β : Type} (fault : Fault) (next : α → Checked β) :
    (Except.error fault >>= next : Checked β) = .error fault := rfl

/-- A sequence succeeds only if both of its parts do. -/
theorem bind_inv {α β : Type} {first : Checked α} {next : α → Checked β} {result : β}
    (executed : first >>= next = .ok result) : ∃ value, first = .ok value ∧ next value = .ok result := by
  cases first with
  | ok value => exact ⟨value, rfl, executed⟩
  | error fault => cases executed

@[simp] theorem pure_ok {α : Type} (value : α) : (pure value : Checked α) = .ok value := rfl

@[simp] theorem deref_some {α : Type} (object : α) : deref (some object) = .ok object := rfl

@[simp] theorem deref_none {α : Type} : deref (none : Option α) = .error .nullPointer := rfl

@[simp] theorem malloc_size (size : Nat) (memory : Nat → UInt8) : (malloc size memory).size = size := by
  simp [malloc, Region.size]

namespace Region

theorem byteAt_inside (region : Region) {index : Nat} (inside : index < region.size) :
    region.byteAt index = region.bytes[index] := by
  simp only [byteAt, List.getD_eq_getElem?_getD, List.getElem?_eq_getElem (by exact inside), Option.getD_some]

@[simp] theorem view_length (region : Region) (count : Nat) : (region.view count).length = count := by
  simp [view]

theorem view_take (region : Region) {count : Nat} (inside : count ≤ region.size) :
    region.view count = region.bytes.take count := by
  apply List.ext_getElem
  · simpa [size] using (Nat.min_eq_left inside).symm
  · intro index first second
    rw [view_length] at first
    simp only [view, List.getElem_map, List.getElem_range, List.getElem_take]
    exact region.byteAt_inside (by omega)

theorem view_mono (region : Region) {first second : Nat} (less : first ≤ second) :
    region.view first <+: region.view second := by
  obtain ⟨more, rfl⟩ := Nat.exists_eq_add_of_le less
  rw [view, view, List.range_add, List.map_append]
  exact List.prefix_append _ _

theorem view_prefix (region : Region) {front : List UInt8} {count : Nat}
    (starts : front <+: region.bytes) (covers : count ≤ front.length) :
    region.view count = front.take count := by
  have inside : front.length ≤ region.size := starts.length_le
  rw [view_take region (by omega), List.prefix_iff_eq_take.mp starts, List.take_take, Nat.min_eq_left covers]

@[simp] theorem advance_size (region : Region) (offset : Nat) :
    (region.advance offset).size = region.size - offset := by
  simp [advance, size]

theorem byteAt_advance (region : Region) (offset index : Nat) :
    (region.advance offset).byteAt index = region.byteAt (offset + index) := by
  simp only [byteAt, advance, size, List.getD_eq_getElem?_getD, List.getElem?_drop, List.length_drop]
  by_cases inside : offset + index < region.bytes.length
  · simp [List.getElem?_eq_getElem inside]
  · rw [List.getElem?_eq_none (by omega)]
    congr 2
    omega

theorem load_ok (region : Region) {index : Nat} (inside : index < region.size) :
    region.load index = .ok region.bytes[index] := by
  rw [load, if_pos inside, byteAt_inside region inside]

theorem load_within {region : Region} {front items rest : List UInt8} (shape : region.bytes = front ++ items ++ rest)
    {index : Nat} (inside : index < items.length) : region.load (front.length + index) = .ok items[index] := by
  have within : front.length + index < region.size := by
    rw [size, shape, List.length_append, List.length_append]
    omega
  rw [load_ok region within]
  simp only [shape]
  rw [List.getElem_append_left (by rw [List.length_append]; omega), List.getElem_append_right (by omega)]
  simp only [Nat.add_sub_cancel_left]

theorem write_ok (region : Region) {start : Nat} {source : List UInt8}
    (inside : start + source.length ≤ region.size) :
    region.write start source =
      .ok ⟨region.bytes.take start ++ source ++ region.bytes.drop (start + source.length), region.beyond⟩ :=
  if_pos inside

theorem write_ok_iff (region : Region) (start : Nat) (source : List UInt8) :
    (∃ after, region.write start source = .ok after) ↔ start + source.length ≤ region.size := by
  unfold write
  split <;> simp_all

theorem store_eq (region : Region) (index : Nat) (byte : UInt8) :
    region.store index byte =
      if index < region.bytes.length then .ok ⟨region.bytes.set index byte, region.beyond⟩ else .error .writeOutside := by
  have shape : region.bytes.take index ++ [byte] ++ region.bytes.drop (index + 1) =
      if index < region.bytes.length then region.bytes.set index byte else region.bytes.take index ++ [byte] := by
    split
    next inside => rw [List.set_eq_take_append_cons_drop, if_pos inside, List.append_assoc]; rfl
    next outside => rw [List.drop_of_length_le (by omega), List.append_nil]
  rw [store, write, List.length_singleton, shape]
  split
  next inside => rw [if_pos (by exact inside), if_pos (by exact inside)]
  next outside => rw [if_neg (by exact outside)]

theorem storeOr_eq (region : Region) (index : Nat) (byte : UInt8) :
    region.storeOr index byte =
      if index < region.bytes.length then
        .ok ⟨region.bytes.set index (region.byteAt index ||| byte), region.beyond⟩
      else .error .readOutside := by
  by_cases inside : index < region.bytes.length
  · rw [if_pos inside, storeOr, load, if_pos (by exact inside)]
    change region.store index (region.byteAt index ||| byte) = _
    rw [store_eq, if_pos inside]
  · rw [if_neg inside, storeOr, load, if_neg (by exact inside)]
    rfl

theorem write_size {region after : Region} {start : Nat} {source : List UInt8}
    (written : region.write start source = .ok after) : after.size = region.size := by
  unfold write at written
  split at written
  next inside =>
    cases written
    simp only [size, List.length_append, List.length_take, List.length_drop] at inside ⊢
    omega
  next => cases written

theorem write_extends (region : Region) {front source : List UInt8}
    (starts : front <+: region.bytes) (inside : front.length + source.length ≤ region.size) :
    ∃ after, region.write front.length source = .ok after ∧
      front ++ source <+: after.bytes ∧ after.size = region.size ∧ after.beyond = region.beyond := by
  refine ⟨_, region.write_ok inside, ?_, write_size (region.write_ok inside), rfl⟩
  rw [← List.prefix_iff_eq_take.mp starts]
  exact List.prefix_append _ _

/-- A write at or behind `front.length` leaves `front` in place. -/
theorem write_behind {region after : Region} {front source : List UInt8} {start : Nat}
    (starts : front <+: region.bytes) (behind : front.length ≤ start)
    (written : region.write start source = .ok after) : front <+: after.bytes := by
  unfold write at written
  split at written
  next inside =>
    cases written
    rw [List.append_assoc]
    exact (List.prefix_take_iff.mpr ⟨starts, behind⟩).trans (List.prefix_append _ _)
  next => cases written

end Region

theorem memcpy_ok_iff (target source : Region) (position start : Nat) (length : Int) :
    (∃ after, memcpy target position source start length = .ok after) ↔
      0 ≤ length ∧ start + length.toNat ≤ source.size ∧ position + length.toNat ≤ target.size := by
  unfold memcpy
  split
  next negative => simp only [reduceCtorEq, exists_false, false_iff]; omega
  next =>
    split
    next inside =>
      rw [Region.write_ok_iff]
      simp only [List.length_take, List.length_drop, Region.size] at inside ⊢
      omega
    next => simp only [reduceCtorEq, exists_false, false_iff]; omega

theorem memcpy_size {target source after : Region} {position start : Nat} {length : Int}
    (copied : memcpy target position source start length = .ok after) : after.size = target.size := by
  unfold memcpy at copied
  split at copied
  · cases copied
  · split at copied
    · exact Region.write_size copied
    · cases copied

theorem memcpy_ok {target source : Region} {position start : Nat} {length : Int}
    (positive : 0 ≤ length) (inside : start + length.toNat ≤ source.size) :
    memcpy target position source start length =
      target.write position ((source.bytes.drop start).take length.toNat) := by
  rw [memcpy, if_neg (by omega), if_pos inside]

theorem memcpy_self {region : Region} {length : Nat} (inside : length ≤ region.size) :
    memcpy region 0 region 0 length = .ok region := by
  have taken : (region.bytes.take length).length = length := by
    rw [List.length_take]
    exact Nat.min_eq_left inside
  rw [memcpy_ok (by omega) (by simpa using inside), Int.toNat_natCast, List.drop_zero,
    Region.write_ok _ (by rw [taken, Nat.zero_add]; exact inside), taken, List.take_zero, List.nil_append, Nat.zero_add,
    List.take_append_drop]

theorem memcpy_forward {region : Region} {front before piece after : List UInt8}
    (shape : region.bytes = front ++ before ++ piece ++ after) :
    ∃ moved, memcpy region front.length region (front ++ before).length (piece.length : Nat) = .ok moved ∧
      front ++ piece <+: moved.bytes ∧ moved.size = region.size := by
  have total : region.size = front.length + before.length + piece.length + after.length := by
    rw [Region.size, shape, List.length_append, List.length_append, List.length_append]
  have source : (region.bytes.drop (front ++ before).length).take piece.length = piece := by
    rw [shape, List.append_assoc, List.drop_left, List.take_left]
  have starts : front <+: region.bytes := by
    rw [shape, List.append_assoc, List.append_assoc]
    exact List.prefix_append _ _
  obtain ⟨moved, written, holds, size, -⟩ := region.write_extends starts (by omega : front.length + piece.length ≤ _)
  refine ⟨moved, ?_, holds, size⟩
  rw [memcpy_ok (by omega) (by rw [Int.toNat_natCast, List.length_append]; omega), Int.toNat_natCast, source]
  exact written

namespace Region

theorem store_prefix {region : Region} {front rest : List UInt8} {index : Nat} (starts : front ++ rest <+: region.bytes)
    (inside : index < front.length) (byte : UInt8) :
    ∃ after, region.store index byte = .ok after ∧ front.set index byte ++ rest <+: after.bytes ∧
      after.size = region.size := by
  obtain ⟨more, shape⟩ := starts
  refine ⟨⟨region.bytes.set index byte, region.beyond⟩, ?_, ⟨more, ?_⟩, by simp [size]⟩
  · rw [store_eq, if_pos]
    rw [← shape, List.length_append, List.length_append]
    omega
  · simp only [← shape]
    rw [List.append_assoc, List.append_assoc, List.set_append_left _ _ inside]

end Region

end CMem
