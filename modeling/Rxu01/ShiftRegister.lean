import Mathlib.RingTheory.AdjoinRoot
import Rxu01.BinaryPolynomial

set_option autoImplicit false

/- A linear feedback shift register of any width and the cyclic code behind it:
a step multiplies by `X` modulo the generator, and what the generator divides
has neither a short burst, nor a single pair, nor an odd number of set bits. -/
namespace ShiftRegister

open Polynomial BinaryPolynomial

variable {width : Nat}

/-- One step: shift out the top bit and feed it back through the taps. -/
def shift (taps register : BitVec width) : BitVec width :=
  if register.msb then (register <<< 1) ^^^ taps else register <<< 1

noncomputable def generator (taps : BitVec width) : (ZMod 2)[X] := X ^ width + ofWord taps

theorem generator_monic (taps : BitVec width) : (generator taps).Monic :=
  monic_X_pow_add (ofWord_degree taps)

theorem generator_degree (taps : BitVec width) : (generator taps).degree = width := by
  rw [generator, degree_add_eq_left_of_degree_lt]
  · exact degree_X_pow width
  · rw [degree_X_pow]
    exact ofWord_degree taps

theorem ofWord_shift (taps register : BitVec width) :
    X * ofWord register =
      ofWord (shift taps register) + if register.msb then generator taps else 0 := by
  rw [ofWord_shiftLeft, shift]
  cases register.msb with
  | false => rfl
  | true =>
      have doubled : ofWord taps + ofWord taps = 0 := CharTwo.add_self_eq_zero _
      simp only [↓reduceIte, ofWord_xor, generator]
      rw [add_assoc, add_left_comm (ofWord taps), doubled, add_zero]

section Residue

variable (taps : BitVec width)

/-- Polynomials up to multiples of the generator. -/
noncomputable def residue : (ZMod 2)[X] →+* AdjoinRoot (generator taps) :=
  AdjoinRoot.mk (generator taps)

theorem residue_eq_zero {polynomial : (ZMod 2)[X]} :
    residue taps polynomial = 0 ↔ generator taps ∣ polynomial :=
  AdjoinRoot.mk_eq_zero

theorem residue_small {polynomial : (ZMod 2)[X]} (small : polynomial.degree < width)
    (zero : residue taps polynomial = 0) : polynomial = 0 := by
  apply eq_zero_of_dvd_of_degree_lt ((residue_eq_zero taps).mp zero)
  rw [generator_degree]
  exact small

theorem residue_injective {left right : BitVec width}
    (same : residue taps (ofWord left) = residue taps (ofWord right)) : left = right := by
  have zero : ofWord (left ^^^ right) = 0 := by
    apply residue_small taps (ofWord_degree _)
    rw [ofWord_xor, map_add, same, ← map_add, CharTwo.add_self_eq_zero, map_zero]
  rw [ofWord_xor] at zero
  exact ofWord_injective (CharTwo.add_eq_zero.mp zero)

/-- A register with the residue of a polynomial holds its remainder. -/
theorem remainder_of_residue {register : BitVec width} {polynomial : (ZMod 2)[X]}
    (same : residue taps (ofWord register) = residue taps polynomial) :
    ofWord register = polynomial %ₘ generator taps := by
  have small : (ofWord register).degree < (generator taps).degree := by
    rw [generator_degree]
    exact ofWord_degree register
  have divides : generator taps ∣ ofWord register - polynomial := by
    rw [← residue_eq_zero, map_sub, same, sub_self]
  calc
    ofWord register = ofWord register %ₘ generator taps :=
      ((modByMonic_eq_self_iff (generator_monic taps)).mpr small).symm
    _ = polynomial %ₘ generator taps := modByMonic_eq_of_dvd_sub (generator_monic taps) divides

theorem residue_shift (register : BitVec width) :
    residue taps (ofWord (shift taps register)) =
      residue taps X * residue taps (ofWord register) := by
  have generated : residue taps (generator taps) = 0 :=
    (residue_eq_zero taps).mpr (dvd_refl _)
  rw [← map_mul, ofWord_shift taps, map_add]
  cases register.msb with
  | false => simp
  | true => simp [generated]

theorem residue_shifts (register : BitVec width) (count : Nat) :
    residue taps (ofWord ((shift taps)^[count] register)) =
      residue taps X ^ count * residue taps (ofWord register) := by
  induction count with
  | zero => simp
  | succ count ih =>
      rw [Function.iterate_succ_apply', residue_shift, ih, pow_succ', mul_assoc]

end Residue

/-- The step undone: the low bit tells whether the taps were fed back. -/
def unshift (taps register : BitVec width) : BitVec width :=
  if register.getLsbD 0 then ((register ^^^ taps) >>> 1) ||| BitVec.twoPow width (width - 1)
  else register >>> 1

theorem unshift_shift (taps : BitVec width) (odd : taps.getLsbD 0 = true)
    (register : BitVec width) : unshift taps (shift taps register) = register := by
  have last := BitVec.msb_eq_getLsbD_last register
  cases top : register.msb with
  | false =>
      have low : (register <<< 1).getLsbD 0 = false := by simp
      rw [shift, top, if_neg Bool.false_ne_true, unshift, low, if_neg Bool.false_ne_true]
      ext index inside
      simp only [BitVec.getElem_ushiftRight, BitVec.getLsbD_shiftLeft]
      grind
  | true =>
      have low : ((register <<< 1) ^^^ taps).getLsbD 0 = true := by simp [odd]
      rw [shift, top, if_pos rfl, unshift, low, if_pos rfl, BitVec.xor_assoc, BitVec.xor_self,
        BitVec.xor_zero]
      ext index inside
      simp only [BitVec.getElem_or, BitVec.getElem_ushiftRight, BitVec.getLsbD_shiftLeft,
        BitVec.getElem_twoPow]
      grind

section Detection

variable {taps : BitVec width} {bits : List Bool}

/-- A factor `X + 1` in the generator leaves no odd number of set bits. -/
theorem even_weight (parity : (generator taps).eval 1 = 0)
    (divides : generator taps ∣ ofBits bits) : Even (bits.count true) := by
  obtain ⟨quotient, product⟩ := divides
  have value := ofBits_eval_one bits
  rw [product, eval_mul, parity, zero_mul] at value
  exact ZMod.natCast_eq_zero_iff_even.mp value.symm

theorem generator_coprime (constant : (generator taps).eval 0 = 1) :
    IsCoprime (generator taps) X := by
  refine (irreducible_X.coprime_iff_not_dvd.mpr fun divides => ?_).symm
  rw [X_dvd_iff, coeff_zero_eq_eval_zero, constant] at divides
  exact one_ne_zero divides

/-- Nor is there a burst no longer than the register. -/
theorem burst_zeros (constant : (generator taps).eval 0 = 1) (burst : Burst width bits)
    (divides : generator taps ∣ ofBits bits) : bits = List.replicate bits.length false := by
  obtain ⟨before, after, split⟩ := core_split bits
  have short := (burst_iff_core width bits).mp burst
  have factored : ofBits bits = ofBits (core bits) * X ^ after := by
    calc
      ofBits bits = ofBits (List.replicate before false ++ core bits ++
          List.replicate after false) := congrArg ofBits split
      _ = ofBits (core bits) * X ^ after := by simp [ofBits_append]
  rw [factored] at divides
  have inner : ofBits (core bits) = 0 := by
    apply residue_small taps
    · exact (ofBits_degree _).trans_le (by exact_mod_cast short)
    · exact (residue_eq_zero taps).mpr
        ((generator_coprime constant).pow_right.dvd_of_dvd_mul_right divides)
  apply ofBits_eq_zero
  rw [factored, inner, zero_mul]

end Detection

/-- Nor are there two set bits closer than the order of `X`. -/
theorem pair_apart {taps : BitVec (width + 1)} {bits : List Bool}
    (constant : (generator taps).eval 0 = 1)
    (order : ∀ count < bits.length, 0 < count → (shift taps)^[count] 1#(width + 1) ≠ 1#(width + 1))
    (divides : generator taps ∣ ofBits bits) : bits.count true ≠ 2 := by
  intro pair
  obtain ⟨low, high, lower, inside, same⟩ := ofBits_pair pair
  have factored : ofBits bits = (X ^ (high - low) + 1) * X ^ low := by
    rw [same, add_mul, one_mul, ← pow_add, Nat.sub_add_cancel lower.le]
  rw [factored] at divides
  have cyclic : residue taps (X ^ (high - low) + 1) = 0 :=
    (residue_eq_zero taps).mpr
      ((generator_coprime constant).pow_right.dvd_of_dvd_mul_right divides)
  apply order (high - low) (by omega) (by omega)
  apply residue_injective taps
  rw [residue_shifts, ofWord_one, map_one, mul_one, ← map_pow, ← map_one (residue taps),
    ← sub_eq_zero, ← map_sub, CharTwo.sub_eq_add]
  exact cyclic

end ShiftRegister
