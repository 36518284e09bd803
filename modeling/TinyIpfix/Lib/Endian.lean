import Mathlib.Data.List.Basic
import Mathlib.Data.Nat.Bitwise
import Mathlib.Tactic.Common
import Mathlib.Tactic.Positivity
import Mathlib.Tactic.Ring

/-! Big-endian byte strings of a fixed width, and the representation of unsigned
integers in the memory of a little-endian host. -/

namespace Endian

/-- The `width` big-endian bytes of `value`; higher bits are dropped. -/
def encode : Nat → Nat → List UInt8
  | 0, _ => []
  | width + 1, value => UInt8.ofNat (value / 256 ^ width) :: encode width value

def decode (bytes : List UInt8) : Nat :=
  bytes.foldl (fun value byte => value * 256 + byte.toNat) 0

/-- The object representation of an unsigned integer on a little-endian host. -/
def stored16 (value : UInt16) : List UInt8 := [value.toUInt8, (value >>> 8).toUInt8]

def stored32 (value : UInt32) : List UInt8 :=
  [value.toUInt8, (value >>> 8).toUInt8, (value >>> 16).toUInt8, (value >>> 24).toUInt8]

def stored64 (value : UInt64) : List UInt8 :=
  [value.toUInt8, (value >>> 8).toUInt8, (value >>> 16).toUInt8, (value >>> 24).toUInt8,
    (value >>> 32).toUInt8, (value >>> 40).toUInt8, (value >>> 48).toUInt8, (value >>> 56).toUInt8]

@[simp] theorem stored16_length (value : UInt16) : (stored16 value).length = 2 := rfl

@[simp] theorem stored32_length (value : UInt32) : (stored32 value).length = 4 := rfl

@[simp] theorem stored64_length (value : UInt64) : (stored64 value).length = 8 := rfl

@[simp] theorem encode_length (width value : Nat) : (encode width value).length = width := by
  induction width with
  | zero => rfl
  | succ width ih => rw [encode, List.length_cons, ih]

@[simp] theorem decode_nil : decode [] = 0 := rfl

theorem decode_append (front : List UInt8) (byte : UInt8) :
    decode (front ++ [byte]) = decode front * 256 + byte.toNat := by
  simp [decode]

private theorem foldl_shift (bytes : List UInt8) (start : Nat) :
    bytes.foldl (fun value byte => value * 256 + byte.toNat) start = start * 256 ^ bytes.length + decode bytes := by
  induction bytes generalizing start with
  | nil => simp
  | cons byte bytes ih =>
    have whole : decode (byte :: bytes) = byte.toNat * 256 ^ bytes.length + decode bytes := by
      rw [decode, List.foldl_cons, ih, Nat.zero_mul, Nat.zero_add]
    rw [List.foldl_cons, ih, whole, List.length_cons, pow_succ]
    ring

theorem decode_cons (byte : UInt8) (bytes : List UInt8) :
    decode (byte :: bytes) = byte.toNat * 256 ^ bytes.length + decode bytes := by
  rw [decode, List.foldl_cons, foldl_shift, Nat.zero_mul, Nat.zero_add]

theorem decode_lt (bytes : List UInt8) : decode bytes < 256 ^ bytes.length := by
  induction bytes with
  | nil => simp
  | cons byte bytes ih =>
    have small := byte.toNat_lt
    rw [decode_cons, List.length_cons, pow_succ]
    calc byte.toNat * 256 ^ bytes.length + decode bytes
        < byte.toNat * 256 ^ bytes.length + 256 ^ bytes.length := by omega
      _ = (byte.toNat + 1) * 256 ^ bytes.length := by ring
      _ ≤ 256 * 256 ^ bytes.length := Nat.mul_le_mul_right _ (by omega)
      _ = 256 ^ bytes.length * 256 := Nat.mul_comm _ _

theorem decode_encode (width value : Nat) : decode (encode width value) = value % 256 ^ width := by
  induction width with
  | zero => simp [encode, Nat.mod_one]
  | succ width ih =>
    rw [encode, decode_cons, encode_length, ih, UInt8.toNat_ofNat', pow_succ 256 width, Nat.mod_mul, Nat.add_comm,
      Nat.mul_comm (256 ^ width)]

theorem decode_encode_of_lt (width : Nat) {value : Nat} (fits : value < 256 ^ width) :
    decode (encode width value) = value := by
  rw [decode_encode, Nat.mod_eq_of_lt fits]

private theorem encode_add (width high low : Nat) : encode width (high * 256 ^ width + low) = encode width low := by
  have general : ∀ narrow, narrow ≤ width → encode narrow (high * 256 ^ width + low) = encode narrow low := by
    intro narrow within
    induction narrow with
    | zero => rfl
    | succ narrow ih =>
      obtain ⟨extra, rfl⟩ := Nat.exists_eq_add_of_le within
      have split : high * 256 ^ (narrow + 1 + extra) = 256 ^ narrow * (256 * (high * 256 ^ extra)) := by ring
      rw [encode, encode, ih (by omega), split, Nat.mul_add_div (by positivity)]
      congr 1
      apply UInt8.toNat_inj.mp
      rw [UInt8.toNat_ofNat', UInt8.toNat_ofNat', Nat.mul_add_mod]
  exact general width (Nat.le_refl _)

theorem encode_getElem {width index : Nat} (value : Nat) (inside : index < (encode width value).length) :
    (encode width value)[index] = UInt8.ofNat (value / 256 ^ (width - 1 - index)) := by
  induction width generalizing index with
  | zero => simp [encode] at inside
  | succ width ih =>
    cases index with
    | zero => simp [encode]
    | succ index =>
      rw [encode_length] at inside
      simp only [encode, List.getElem_cons_succ]
      rw [ih]
      congr 3
      omega

theorem encode_mod (width value : Nat) : encode width (value % 256 ^ width) = encode width value := by
  have whole := Nat.div_add_mod' value (256 ^ width)
  conv => rhs; rw [← whole, encode_add]

theorem encode_append (high low value : Nat) :
    encode (high + low) value = encode high (value / 256 ^ low) ++ encode low value := by
  induction high with
  | zero => simp [encode]
  | succ high ih =>
    rw [Nat.add_right_comm, encode, ih, encode, List.cons_append, Nat.div_div_eq_div_mul, ← pow_add, Nat.add_comm low]

theorem encode_join (high low : Nat) {upper lower : Nat} (small : lower < 256 ^ low) :
    encode (high + low) (upper * 256 ^ low + lower) = encode high upper ++ encode low lower := by
  have whole : (upper * 256 ^ low + lower) / 256 ^ low = upper := by
    rw [Nat.add_comm, Nat.add_mul_div_right _ _ (by positivity), Nat.div_eq_of_lt small, Nat.zero_add]
  rw [encode_append, whole, encode_add]

section Join

theorem shiftLeft_or (high width : Nat) {low : Nat} (small : low < 2 ^ width) :
    high <<< width ||| low = high * 2 ^ width + low := by
  rw [← Nat.shiftLeft_add_eq_or_of_lt small, Nat.shiftLeft_eq]

theorem join16_toNat (high low : UInt8) :
    ((high.toUInt16 <<< 8) ||| low.toUInt16).toNat = high.toNat * 256 + low.toNat := by
  have highSmall := high.toNat_lt
  have joined := shiftLeft_or high.toNat 8 low.toNat_lt
  have wide : high.toNat <<< 8 < 65536 := by rw [Nat.shiftLeft_eq]; omega
  simp only [UInt16.toNat_or, UInt16.toNat_shiftLeft, UInt8.toNat_toUInt16, UInt16.reduceToNat, Nat.reduceMod,
    Nat.reducePow, Nat.mod_eq_of_lt wide]
  exact joined

theorem join16_split (value : UInt16) :
    ((UInt8.ofNat (value.toNat / 256)).toUInt16 <<< 8) ||| (UInt8.ofNat value.toNat).toUInt16 = value := by
  have small := value.toNat_lt
  apply UInt16.toNat_inj.mp
  rw [join16_toNat, UInt8.toNat_ofNat', UInt8.toNat_ofNat']
  omega

theorem join32_toNat (high low : UInt16) :
    ((high.toUInt32 <<< 16) ||| low.toUInt32).toNat = high.toNat * 65536 + low.toNat := by
  have highSmall := high.toNat_lt
  have joined := shiftLeft_or high.toNat 16 low.toNat_lt
  have wide : high.toNat <<< 16 < 4294967296 := by rw [Nat.shiftLeft_eq]; omega
  simp only [UInt32.toNat_or, UInt32.toNat_shiftLeft, UInt16.toNat_toUInt32, UInt32.reduceToNat, Nat.reduceMod,
    Nat.reducePow, Nat.mod_eq_of_lt wide]
  exact joined

theorem join64_toNat (high low : UInt32) :
    ((high.toUInt64 <<< 32) ||| low.toUInt64).toNat = high.toNat * 4294967296 + low.toNat := by
  have highSmall := high.toNat_lt
  have joined := shiftLeft_or high.toNat 32 low.toNat_lt
  have wide : high.toNat <<< 32 < 18446744073709551616 := by rw [Nat.shiftLeft_eq]; omega
  simp only [UInt64.toNat_or, UInt64.toNat_shiftLeft, UInt32.toNat_toUInt64, UInt64.reduceToNat, Nat.reduceMod,
    Nat.reducePow, Nat.mod_eq_of_lt wide]
  exact joined

theorem stored16_eq (value : UInt16) : stored16 value = (encode 2 value.toNat).reverse := by
  simp [stored16, encode, ← UInt8.toNat_inj, Nat.shiftRight_eq_div_pow]

theorem stored32_eq (value : UInt32) : stored32 value = (encode 4 value.toNat).reverse := by
  simp [stored32, encode, ← UInt8.toNat_inj, Nat.shiftRight_eq_div_pow]

theorem stored64_eq (value : UInt64) : stored64 value = (encode 8 value.toNat).reverse := by
  simp [stored64, encode, ← UInt8.toNat_inj, Nat.shiftRight_eq_div_pow]

theorem stored32_join (high low : UInt16) :
    stored32 ((high.toUInt32 <<< 16) ||| low.toUInt32) = stored16 low ++ stored16 high := by
  rw [stored32_eq, stored16_eq, stored16_eq, join32_toNat, ← List.reverse_append]
  congr 1
  exact encode_join 2 2 low.toNat_lt

theorem stored64_join (high low : UInt32) :
    stored64 ((high.toUInt64 <<< 32) ||| low.toUInt64) = stored32 low ++ stored32 high := by
  rw [stored64_eq, stored32_eq, stored32_eq, join64_toNat, ← List.reverse_append]
  congr 1
  exact encode_join 4 4 low.toNat_lt

end Join

end Endian
