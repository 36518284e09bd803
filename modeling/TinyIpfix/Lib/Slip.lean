import Mathlib.Data.List.Forall2
import Mathlib.Tactic.Common

/-! Packets on a serial line, as SLIP frames them: ends around every packet, and escapes
for the ends and the escapes in it. -/

namespace Slip

def endByte : UInt8 := 192

def escByte : UInt8 := 219

def escEnd : UInt8 := 220

def escEsc : UInt8 := 221

def escaped (byte : UInt8) : List UInt8 :=
  if byte = endByte then [escByte, escEnd] else if byte = escByte then [escByte, escEsc] else [byte]

def stuffed (packet : List UInt8) : List UInt8 := packet.flatMap escaped

def wrapped (body : List UInt8) : List UInt8 := endByte :: (body ++ [endByte])

def unstuffed : List UInt8 → Option (List UInt8)
  | [] => some []
  | [byte] => if byte = escByte then none else some [byte]
  | byte :: next :: rest =>
    if byte = escByte then
      if next = escEnd then (unstuffed rest).map (endByte :: ·)
      else if next = escEsc then (unstuffed rest).map (escByte :: ·)
      else none
    else (unstuffed (next :: rest)).map (byte :: ·)

/-- All that stands between two ends. Two ends in a row part nothing. -/
def received (line : List UInt8) : Option (List (List UInt8)) :=
  ((line.splitOn endByte).filter (· ≠ [])).mapM unstuffed

section Stuffing

theorem unstuffed_cons {byte : UInt8} (plain : byte ≠ escByte) (rest : List UInt8) :
    unstuffed (byte :: rest) = (unstuffed rest).map (byte :: ·) := by
  cases rest with
  | nil => simp [unstuffed, plain]
  | cons next rest => rw [unstuffed, if_neg plain]

theorem unstuffed_plain {body : List UInt8} (plain : escByte ∉ body) : unstuffed body = some body := by
  induction body with
  | nil => rfl
  | cons byte body ih =>
    rw [List.mem_cons, not_or] at plain
    rw [unstuffed_cons (Ne.symm plain.1), ih plain.2, Option.map_some]

theorem unstuffed_stuffed (packet : List UInt8) : unstuffed (stuffed packet) = some packet := by
  induction packet with
  | nil => rfl
  | cons byte packet ih =>
    rw [stuffed, List.flatMap_cons, ← stuffed, escaped]
    by_cases isEnd : byte = endByte
    · rw [if_pos isEnd, isEnd]
      simp [unstuffed, ih]
    · by_cases isEsc : byte = escByte
      · rw [if_neg isEnd, if_pos isEsc, isEsc]
        have other : escEsc ≠ escEnd := by decide
        simp [unstuffed, ih, other]
      · rw [if_neg isEnd, if_neg isEsc, List.singleton_append, unstuffed_cons isEsc, ih, Option.map_some]

theorem notMem_stuffed (packet : List UInt8) : endByte ∉ stuffed packet := by
  intro member
  obtain ⟨byte, -, inside⟩ := List.mem_flatMap.mp member
  rw [escaped] at inside
  split at inside
  next => revert inside; decide
  next other =>
    split at inside
    next => revert inside; decide
    next => exact other (List.mem_singleton.mp inside).symm

theorem stuffed_ne_nil {packet : List UInt8} (filled : packet ≠ []) : stuffed packet ≠ [] := by
  obtain ⟨byte, rest, rfl⟩ := List.exists_cons_of_ne_nil filled
  rw [stuffed, List.flatMap_cons, escaped]
  split
  next => simp
  next =>
    split
    next => simp
    next => simp

end Stuffing

section Lines

/-- What stands between two ends for this packet. -/
structure Stands (body packet : List UInt8) : Prop where
  unbroken : endByte ∉ body
  filled : body ≠ []
  reads : unstuffed body = some packet

/-- Packets one after the other, each between ends of its own. -/
def Holds (line : List UInt8) (packets : List (List UInt8)) : Prop :=
  ∃ bodies, line = bodies.flatMap wrapped ∧ List.Forall₂ Stands bodies packets

theorem stands_stuffed {packet : List UInt8} (filled : packet ≠ []) : Stands (stuffed packet) packet :=
  ⟨notMem_stuffed packet, stuffed_ne_nil filled, unstuffed_stuffed packet⟩

/-- What needs no escapes may also stand as it is. -/
theorem stands_plain {body : List UInt8} (filled : body ≠ []) (unbroken : endByte ∉ body) (plain : escByte ∉ body) :
    Stands body body := ⟨unbroken, filled, unstuffed_plain plain⟩

theorem Holds.nil : Holds [] [] := ⟨[], rfl, .nil⟩

theorem Holds.append {line body packet : List UInt8} {packets : List (List UInt8)} (holds : Holds line packets)
    (stands : Stands body packet) : Holds (line ++ wrapped body) (packets ++ [packet]) := by
  obtain ⟨bodies, rfl, each⟩ := holds
  refine ⟨bodies ++ [body], by rw [List.flatMap_append, List.flatMap_singleton], ?_⟩
  exact List.rel_append each (.cons stands .nil)

theorem received_wrapped {body packet : List UInt8} (stands : Stands body packet) (line : List UInt8) :
    received (wrapped body ++ line) = (received line).map (packet :: ·) := by
  have pieces : (wrapped body ++ line).splitOn endByte = [] :: body :: line.splitOn endByte := by
    have shape : wrapped body ++ line = [] ++ endByte :: (body ++ endByte :: line) := by simp [wrapped]
    rw [shape, List.splitOn_append_cons_self_of_not_mem List.not_mem_nil,
      List.splitOn_append_cons_self_of_not_mem stands.unbroken]
  rw [received, pieces, List.filter_cons_of_neg (by simp), List.filter_cons_of_pos (by simpa using stands.filled),
    List.mapM_cons, stands.reads, ← received]
  cases received line with
  | none => rfl
  | some packets => rfl

theorem Holds.received {line : List UInt8} {packets : List (List UInt8)} (holds : Holds line packets) :
    received line = some packets := by
  obtain ⟨bodies, rfl, each⟩ := holds
  induction each with
  | nil => rfl
  | cons stands each ih => rw [List.flatMap_cons, received_wrapped stands, ih, Option.map_some]

end Lines

end Slip
