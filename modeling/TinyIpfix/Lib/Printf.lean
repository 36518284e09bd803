import TinyIpfix.Lib.Memory
import Mathlib.Algebra.Group.Nat.Defs
import Mathlib.Data.Option.Basic

/-! Text as C programs make it: numbers as digits, and a buffer that `snprintf` fills piece
by piece. As long as the pieces fit, the buffer holds all of them. -/

namespace Printf
open CMem

def ascii (text : String) : List UInt8 := text.toList.map fun char => UInt8.ofNat char.toNat

section Numbers

def digitByte (digit : Nat) : UInt8 := UInt8.ofNat digit.digitChar.toNat

/-- What `%u` and `%x` print. -/
def printed (base value : Nat) : List UInt8 := (Nat.toDigits base value).map fun digit => UInt8.ofNat digit.toNat

def digitValue (byte : UInt8) : Option Nat :=
  if 48 ≤ byte.toNat ∧ byte.toNat ≤ 57 then some (byte.toNat - 48)
  else if 97 ≤ byte.toNat ∧ byte.toNat ≤ 102 then some (byte.toNat - 87)
  else none

def scanDigit (base value : Nat) (byte : UInt8) : Option Nat := do
  let digit ← digitValue byte
  guard (digit < base)
  return value * base + digit

def scanned (base : Nat) (text : List UInt8) : Option Nat := do
  guard (text ≠ [])
  text.foldlM (scanDigit base) 0

theorem digitValue_digitByte {digit : Nat} (small : digit < 16) : digitValue (digitByte digit) = some digit := by
  have each : ∀ value : Fin 16, digitValue (digitByte value) = some value.val := by decide
  exact each ⟨digit, small⟩

theorem printed_cases {base : Nat} (two : 1 < base) (value : Nat) :
    (value < base ∧ printed base value = [digitByte value]) ∨
    (base ≤ value ∧ printed base value = printed base (value / base) ++ [digitByte (value % base)]) := by
  rcases Nat.lt_or_ge value base with small | large
  · exact .inl ⟨small, by rw [printed, Nat.toDigits_of_lt_base small]; rfl⟩
  · exact .inr ⟨large, by rw [printed, Nat.toDigits_of_base_le two large, List.map_append]; rfl⟩

theorem printed_ne_nil (base value : Nat) : printed base value ≠ [] := by
  simp [printed]

theorem printed_length_le {base value count : Nat} (two : 1 < base) (some : 0 < count) (small : value < base ^ count) :
    (printed base value).length ≤ count := by
  rw [printed, List.length_map]
  exact (Nat.length_toDigits_le_iff two some).mpr small

theorem printed_digits {base : Nat} (two : 1 < base) (small : base ≤ 16) (value : Nat) :
    ∀ byte ∈ printed base value, ∃ digit < base, byte = digitByte digit := by
  induction value using Nat.strongRecOn with
  | ind value ih =>
    rcases printed_cases two value with ⟨single, shape⟩ | ⟨large, shape⟩
    · intro byte member
      rw [shape] at member
      exact ⟨value, single, List.mem_singleton.mp member⟩
    · intro byte member
      rw [shape] at member
      rcases List.mem_append.mp member with front | last
      · exact ih _ (Nat.div_lt_self (by omega) two) byte front
      · exact ⟨value % base, Nat.mod_lt _ (by omega), List.mem_singleton.mp last⟩

theorem scanDigit_digitByte {base digit : Nat} (small : base ≤ 16) (inside : digit < base) (value : Nat) :
    scanDigit base value (digitByte digit) = some (value * base + digit) := by
  simp [scanDigit, digitValue_digitByte (show digit < 16 by omega), inside]

theorem scanned_printed {base : Nat} (two : 1 < base) (small : base ≤ 16) (value : Nat) :
    scanned base (printed base value) = some value := by
  have folded : (printed base value).foldlM (scanDigit base) 0 = some value := by
    induction value using Nat.strongRecOn with
    | ind value ih =>
      rcases printed_cases two value with ⟨single, shape⟩ | ⟨large, shape⟩
      · simp [shape, scanDigit_digitByte small single]
      · have last := scanDigit_digitByte small (Nat.mod_lt value (show base > 0 by omega)) (value / base)
        rw [shape, List.foldlM_append, ih _ (Nat.div_lt_self (by omega) two)]
        simp [last, Nat.div_add_mod']
  simp [scanned, printed_ne_nil, folded]

end Numbers

section Pieces

theorem takeWhile_before {α : Type} [DecidableEq α] {stop : α} {front : List α} (apart : ∀ entry ∈ front, entry ≠ stop)
    (rest : List α) : (front ++ stop :: rest).takeWhile (· ≠ stop) = front ∧
      (front ++ stop :: rest).dropWhile (· ≠ stop) = stop :: rest := by
  have before : ∀ entry ∈ front, decide (entry ≠ stop) = true := by
    intro entry member
    simpa using apart entry member
  rw [List.takeWhile_append_of_pos before, List.dropWhile_append_of_pos before]
  simp

/-- What stands before the first of these bytes, and what stands behind it. -/
def cut (stop : UInt8) (text : List UInt8) : Option (List UInt8 × List UInt8) :=
  if stop ∈ text then some (text.takeWhile (· ≠ stop), (text.dropWhile (· ≠ stop)).drop 1) else none

theorem cut_append {stop : UInt8} {front : List UInt8} (apart : stop ∉ front) (rest : List UInt8) :
    cut stop (front ++ stop :: rest) = some (front, rest) := by
  have other : ∀ byte ∈ front, byte ≠ stop := by
    rintro byte member rfl
    exact apart member
  obtain ⟨before, behind⟩ := takeWhile_before other rest
  rw [cut, if_pos (by simp), before, behind]
  rfl

theorem isPrefixOf?_append (front rest : List UInt8) : front.isPrefixOf? (front ++ rest) = some rest := by
  induction front with
  | nil => rfl
  | cons byte front ih => simp [List.isPrefixOf?, ih]

theorem splitOn_lines {stop : UInt8} {lines : List (List UInt8)} (apart : ∀ line ∈ lines, stop ∉ line) (rest : List UInt8) :
    ((lines.flatMap fun line => line ++ [stop]) ++ rest).splitOn stop = lines ++ rest.splitOn stop := by
  induction lines with
  | nil => rfl
  | cons line lines ih =>
    have later := ih fun other member => apart other (by simp [member])
    rw [List.flatMap_cons, List.append_assoc, List.append_assoc, List.singleton_append,
      List.splitOn_append_cons_self_of_not_mem (apart line (by simp)), later, List.cons_append]

theorem mapM_reads {α β : Type} {print : α → List UInt8} {read : List UInt8 → Option β} {value : α → β}
    (reads : ∀ entry, read (print entry) = some (value entry)) (entries : List α) :
    (entries.map print).mapM read = some (entries.map value) := by
  induction entries with
  | nil => rfl
  | cons entry entries ih =>
    rw [List.map_cons, List.mapM_cons, reads, ih]
    rfl

end Pieces

section Buffers

/-- `snprintf(&target[start], size, ..)` of this text. -/
def snprintf (target : Region) (start size : Nat) (text : List UInt8) : Checked Region :=
  if size = 0 then .ok target else target.write start (text.take (size - 1) ++ [0])

/-- The string at the start of a buffer. -/
def cString (source : Region) : Checked (List UInt8) :=
  if 0 ∈ source.bytes then .ok (source.bytes.takeWhile (· ≠ 0)) else .error .readOutside

/-- A buffer with the length of the text that was printed into it. -/
structure TextBuffer where
  buf : Region
  blen : Nat

/-- `sizeof(buf) - blen`, as an unsigned number. -/
def TextBuffer.room (buffer : TextBuffer) : Nat := (buffer.buf.size + 65536 - buffer.blen) % 65536

/-- What is printed counts, whether it fits or not. -/
def TextBuffer.add (text : List UInt8) (buffer : TextBuffer) : Checked TextBuffer := do
  let buf ← snprintf buffer.buf buffer.blen buffer.room text
  return ⟨buf, buffer.blen + text.length⟩

/-- All of the text is in the buffer. It ends there unless the buffer was just emptied. -/
structure Written (size : Nat) (buffer : TextBuffer) (text : List UInt8) : Prop where
  sized : buffer.buf.size = size
  filled : buffer.blen = text.length
  starts : text <+: buffer.buf.bytes
  ended : text ≠ [] → text ++ [0] <+: buffer.buf.bytes

/-- A program that appends this text to a buffer that has room for it. -/
def Appends (size : Nat) (program : TextBuffer → Checked TextBuffer) (text : List UInt8) : Prop :=
  ∀ buffer held, Written size buffer held → held.length + text.length < size →
    ∃ next, program buffer = .ok next ∧ Written size next (held ++ text)

variable {size : Nat}

theorem Appends.add (small : size < 65536) (text : List UInt8) : Appends size (TextBuffer.add text) text := by
  intro buffer held written fits
  have room : buffer.room = size - held.length := by
    rw [TextBuffer.room, written.sized, written.filled]
    omega
  have whole : text.take (buffer.room - 1) = text := List.take_of_length_le (by rw [room]; omega)
  have printed : snprintf buffer.buf buffer.blen buffer.room text = buffer.buf.write held.length (text ++ [0]) := by
    rw [snprintf, if_neg (by rw [room]; omega), whole, written.filled]
  have inside : held.length + (text ++ [0]).length ≤ buffer.buf.size := by
    rw [written.sized, List.length_append, List.length_singleton]
    omega
  obtain ⟨after, done, extended, kept, -⟩ := buffer.buf.write_extends written.starts inside
  rw [← List.append_assoc] at extended
  refine ⟨⟨after, buffer.blen + text.length⟩, ?_, kept.trans written.sized, ?_, ?_, fun _ => extended⟩
  · simp only [TextBuffer.add, printed, done, ok_bind, pure_ok]
  · rw [written.filled, List.length_append]
  · exact (List.prefix_append _ _).trans extended

theorem written_empty {buffer : TextBuffer} (sized : buffer.buf.size = size) : Written size ⟨buffer.buf, 0⟩ [] :=
  ⟨sized, rfl, List.nil_prefix, fun some => absurd rfl some⟩

theorem cString_written {buffer : TextBuffer} {text : List UInt8} (written : Written size buffer text)
    (some : text ≠ []) (plain : 0 ∉ text) : cString buffer.buf = .ok text := by
  obtain ⟨rest, shape⟩ := written.ended some
  have string : buffer.buf.bytes.takeWhile (· ≠ 0) = text := by
    rw [← shape, List.append_assoc, List.takeWhile_append_of_pos]
    · simp
    · intro byte member
      simpa using fun zero : byte = 0 => plain (zero ▸ member)
  rw [cString, if_pos (by simp [← shape]), string]

end Buffers

section Output

/-- A buffer that is sent whenever it is full enough, and what was sent so far. -/
structure Output where
  buffer : TextBuffer
  sent : List UInt8

def Output.print (program : TextBuffer → Checked TextBuffer) (output : Output) : Checked Output := do
  let buffer ← program output.buffer
  return { output with buffer }

def Output.sendString (output : Output) : Checked Output := do
  let text ← cString output.buffer.buf
  return { output with sent := output.sent ++ text }

/-- `blen = 0`. -/
def Output.restart (output : Output) : Output := { output with buffer := ⟨output.buffer.buf, 0⟩ }

/-- All of the text was sent but for what the buffer still holds. -/
structure Carries (size : Nat) (output : Output) (all held : List UInt8) : Prop where
  written : Written size output.buffer held
  plain : 0 ∉ held
  whole : output.sent ++ held = all

variable {size : Nat} {output : Output} {all held : List UInt8}

theorem Carries.print (carries : Carries size output all held) {program : TextBuffer → Checked TextBuffer}
    {text : List UInt8} (appends : Appends size program text) (plain : 0 ∉ text) (fits : held.length + text.length < size) :
    ∃ next, output.print program = .ok next ∧ Carries size next (all ++ text) (held ++ text) := by
  obtain ⟨buffer, done, written⟩ := appends output.buffer held carries.written fits
  refine ⟨{ output with buffer }, by simp only [Output.print, done, ok_bind, pure_ok], written, ?_, ?_⟩
  · rw [List.mem_append, not_or]
    exact ⟨carries.plain, plain⟩
  · rw [← carries.whole, List.append_assoc]

theorem Carries.flush (carries : Carries size output all held) (some : held ≠ []) :
    ∃ next, output.sendString = .ok next ∧ next.sent = all ∧ Carries size next.restart all [] := by
  have text := cString_written carries.written some carries.plain
  refine ⟨{ output with sent := all }, ?_, rfl, written_empty carries.written.sized, List.not_mem_nil, List.append_nil _⟩
  simp only [Output.sendString, text, ok_bind, pure_ok, carries.whole]

end Output

end Printf
