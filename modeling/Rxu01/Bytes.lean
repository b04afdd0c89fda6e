import Mathlib.Algebra.Group.Nat.Defs
import Mathlib.Data.List.Basic

set_option autoImplicit false

/- Byte buffers as lists: bounded copies into a buffer and the two-byte
little-endian form of a 16-bit word. -/
namespace Bytes

variable {α : Type}

/-- A `memcpy` of `bytes` to `offset`. The length is kept when the copy fits. -/
def write (buffer : List α) (offset : Nat) (bytes : List α) : List α :=
  buffer.take offset ++ bytes ++ buffer.drop (offset + bytes.length)

/-- A copy that starts where an already written front ends extends the front. -/
theorem write_extend (front rest bytes : List α) :
    write (front ++ rest) front.length bytes = front ++ bytes ++ rest.drop bytes.length := by
  simp only [write, List.take_left', List.drop_append, List.append_assoc]
  rw [List.drop_eq_nil_of_le (Nat.le_add_right _ _), Nat.add_sub_cancel_left, List.nil_append]

theorem write_extend_at (front rest bytes : List α) (offset : Nat)
    (start : front.length = offset) :
    write (front ++ rest) offset bytes = front ++ bytes ++ rest.drop bytes.length := by
  rw [← start]
  exact write_extend front rest bytes

/-- A fixed-size array filled from the start keeps what it was filled with. -/
theorem padded_take (size : Nat) (source : List α) (blank : α) (fits : source.length ≤ size) :
    (Vector.ofFn (fun index : Fin size => source.getD index.val blank)).toList.take source.length =
      source := by
  apply List.ext_getElem
  · rw [List.length_take, Vector.length_toList]
    exact Nat.min_eq_left fits
  · intro index _ inside
    simp [List.getElem?_eq_getElem inside]

/-- Low byte of a 16-bit word. -/
def low (value : UInt16) : UInt8 := (value &&& 0xFF).toUInt8

/-- High byte of a 16-bit word. -/
def high (value : UInt16) : UInt8 := ((value >>> 8) &&& 0xFF).toUInt8

/-- The word whose low and high bytes are given. -/
def join (first second : UInt8) : UInt16 := first.toUInt16 ||| (second.toUInt16 <<< 8)

theorem low_toNat (value : UInt16) : (low value).toNat = value.toNat % 256 := by
  simp only [low, UInt16.toNat_toUInt8, UInt16.toNat_and]
  rw [show UInt16.toNat 0xFF = 2 ^ 8 - 1 from rfl, Nat.and_two_pow_sub_one_eq_mod]
  omega

theorem high_toNat (value : UInt16) : (high value).toNat = value.toNat / 256 := by
  have bound := value.toNat_lt
  simp only [high, UInt16.toNat_toUInt8, UInt16.toNat_and, UInt16.toNat_shiftRight]
  rw [show UInt16.toNat 0xFF = 2 ^ 8 - 1 from rfl, Nat.and_two_pow_sub_one_eq_mod,
    show UInt16.toNat 8 % 16 = 8 from rfl, Nat.shiftRight_eq_div_pow]
  omega

theorem join_toNat (first second : UInt8) :
    (join first second).toNat = first.toNat + 256 * second.toNat := by
  have lower := first.toNat_lt
  have upper := second.toNat_lt
  simp only [join, UInt16.toNat_or, UInt8.toNat_toUInt16, UInt16.toNat_shiftLeft]
  rw [show UInt16.toNat 8 % 16 = 8 from rfl, Nat.shiftLeft_eq,
    Nat.mod_eq_of_lt (show second.toNat * 2 ^ 8 < 2 ^ 16 by omega), Nat.or_comm,
    Nat.mul_comm, ← Nat.two_pow_add_eq_or_of_lt (show first.toNat < 2 ^ 8 from lower)]
  omega

@[simp] theorem join_low_high (value : UInt16) : join (low value) (high value) = value := by
  apply UInt16.toNat_inj.mp
  rw [join_toNat, low_toNat, high_toNat]
  omega

@[simp] theorem low_join (first second : UInt8) : low (join first second) = first := by
  have lower := first.toNat_lt
  apply UInt8.toNat_inj.mp
  rw [low_toNat, join_toNat]
  omega

@[simp] theorem high_join (first second : UInt8) : high (join first second) = second := by
  have lower := first.toNat_lt
  apply UInt8.toNat_inj.mp
  rw [high_toNat, join_toNat]
  omega

theorem low_xor (left right : UInt16) : low (left ^^^ right) = low left ^^^ low right := by
  apply UInt8.eq_of_toBitVec_eq
  ext index inside
  simp [low, Bool.and_xor_distrib_right]

theorem high_xor (left right : UInt16) : high (left ^^^ right) = high left ^^^ high right := by
  apply UInt8.eq_of_toBitVec_eq
  ext index inside
  simp [high, Bool.and_xor_distrib_right]

/-- Masking with `width` ones from bit `shift` on keeps that field in place. -/
theorem and_field (value shift width : Nat) :
    value &&& ((2 ^ width - 1) * 2 ^ shift) = value / 2 ^ shift % 2 ^ width * 2 ^ shift := by
  have positive : 0 < 2 ^ shift := Nat.two_pow_pos shift
  have low : (value &&& ((2 ^ width - 1) * 2 ^ shift)) % 2 ^ shift = 0 := by
    rw [Nat.and_mod_two_pow, Nat.mul_mod_left, Nat.and_zero]
  have high : (value &&& ((2 ^ width - 1) * 2 ^ shift)) / 2 ^ shift = value / 2 ^ shift % 2 ^ width := by
    rw [Nat.and_div_two_pow, Nat.mul_div_cancel _ positive, Nat.and_two_pow_sub_one_eq_mod]
  have whole := Nat.div_add_mod (value &&& ((2 ^ width - 1) * 2 ^ shift)) (2 ^ shift)
  rw [low, high, Nat.add_zero, Nat.mul_comm] at whole
  exact whole.symm

section Bits

variable (value bits probe : UInt8)

/-- Setting bits outside a probe does not show. -/
theorem or_probe (apart : bits &&& probe = 0) : (value ||| bits) &&& probe = value &&& probe := by
  apply UInt8.eq_of_toBitVec_eq
  have vectors := congrArg UInt8.toBitVec apart
  ext index inside
  have bit := congrArg (fun vector => vector.getLsbD index) vectors
  simp at bit ⊢
  grind

/-- Nor does clearing them. -/
theorem clear_probe (apart : bits &&& probe = 0) :
    (value &&& ~~~bits) &&& probe = value &&& probe := by
  apply UInt8.eq_of_toBitVec_eq
  have vectors := congrArg UInt8.toBitVec apart
  ext index inside
  have bit := congrArg (fun vector => vector.getLsbD index) vectors
  simp at bit ⊢
  grind

theorem clear_bits : (value &&& ~~~bits) &&& bits = 0 := by
  apply UInt8.eq_of_toBitVec_eq
  ext index inside
  simp

theorem or_bits (inside : bits &&& probe = bits) :
    ((value ||| bits) &&& probe) &&& bits = bits := by
  apply UInt8.eq_of_toBitVec_eq
  have vectors := congrArg UInt8.toBitVec inside
  ext index below
  have bit := congrArg (fun vector => vector.getLsbD index) vectors
  simp at bit ⊢
  grind

end Bits

end Bytes
