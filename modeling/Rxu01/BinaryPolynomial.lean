import Mathlib.Algebra.Polynomial.Eval.Degree
import Mathlib.Algebra.Field.ZMod
import Mathlib.Algebra.CharP.Two
import Mathlib.Data.List.DropRight
import Mathlib.Data.List.GetD
import Mathlib.Tactic.Ring

set_option autoImplicit false

/- Bit strings and bit vectors as polynomials over the field of two elements,
the first (most significant) bit the highest coefficient. -/
namespace BinaryPolynomial

open Polynomial

/-- A bit string read as a polynomial. -/
noncomputable def ofBits : List Bool → (ZMod 2)[X]
  | [] => 0
  | bit :: rest => (if bit then X ^ rest.length else 0) + ofBits rest

@[simp] theorem ofBits_nil : ofBits [] = 0 := rfl

theorem ofBits_cons (bit : Bool) (rest : List Bool) :
    ofBits (bit :: rest) = (if bit then X ^ rest.length else 0) + ofBits rest := rfl

theorem ofBits_append (front back : List Bool) :
    ofBits (front ++ back) = ofBits front * X ^ back.length + ofBits back := by
  induction front with
  | nil => simp
  | cons bit rest ih =>
      rw [List.cons_append, ofBits_cons, ofBits_cons, ih, List.length_append, add_mul, ← add_assoc]
      cases bit <;> simp [pow_add]

@[simp] theorem ofBits_zeros (count : Nat) : ofBits (List.replicate count false) = 0 := by
  induction count with
  | zero => rfl
  | succ count ih => simp [List.replicate_succ, ofBits_cons, ih]

theorem ofBits_ones (count : Nat) :
    ofBits (List.replicate count true) = ∑ power ∈ Finset.range count, X ^ power := by
  induction count with
  | zero => rfl
  | succ count ih =>
      rw [List.replicate_succ, ofBits_cons, ih, List.length_replicate, Finset.sum_range_succ,
        add_comm]
      rfl

theorem ofBits_degree (bits : List Bool) : (ofBits bits).degree < bits.length := by
  induction bits with
  | nil => simp
  | cons bit rest ih =>
      have wider : (rest.length : WithBot Nat) < ((bit :: rest).length : Nat) := by
        exact_mod_cast Nat.lt_succ_self rest.length
      rw [ofBits_cons]
      refine (degree_add_le _ _).trans_lt (max_lt ?_ (ih.trans wider))
      cases bit with
      | false => simp
      | true => simpa using wider

theorem ofBits_xor (left right : List Bool) (same : left.length = right.length) :
    ofBits (List.zipWith xor left right) = ofBits left + ofBits right := by
  induction left generalizing right with
  | nil =>
      cases right with
      | nil => simp
      | cons bit rest => cases same
  | cons first left ih =>
      cases right with
      | nil => cases same
      | cons second right =>
          have rest : left.length = right.length := Nat.succ.inj same
          have doubled : (X : (ZMod 2)[X]) ^ right.length + X ^ right.length = 0 :=
            CharTwo.add_self_eq_zero _
          rw [List.zipWith_cons_cons, ofBits_cons, ofBits_cons, ofBits_cons, ih right rest,
            List.length_zipWith, rest, Nat.min_self, add_add_add_comm]
          cases first <;> cases second <;> simp [doubled]

/-- Only the string of zeros reads as zero. -/
theorem ofBits_eq_zero {bits : List Bool} (zero : ofBits bits = 0) :
    bits = List.replicate bits.length false := by
  induction bits with
  | nil => rfl
  | cons bit rest ih =>
      cases bit with
      | false =>
          rw [ofBits_cons, if_neg Bool.false_ne_true, zero_add] at zero
          rw [List.length_cons, List.replicate_succ, ← ih zero]
      | true =>
          -- the leading power is larger than everything below it
          have cancelled : ofBits rest = X ^ rest.length := by
            rw [ofBits_cons, if_pos rfl] at zero
            exact (CharTwo.add_eq_zero.mp zero).symm
          have small := ofBits_degree rest
          rw [cancelled, degree_X_pow] at small
          exact absurd small (lt_irrefl _)

theorem zipWith_xor_zeros {left right : List Bool} (same : left.length = right.length)
    (zeros : List.zipWith xor left right =
      List.replicate (List.zipWith xor left right).length false) : left = right := by
  induction left generalizing right with
  | nil => exact (List.length_eq_zero_iff.mp same.symm).symm
  | cons first left ih =>
      cases right with
      | nil => cases same
      | cons second right =>
          rw [List.zipWith_cons_cons, List.length_cons, List.replicate_succ] at zeros
          obtain ⟨head, tail⟩ := List.cons.inj zeros
          rw [ih (Nat.succ.inj same) tail]
          cases first <;> cases second <;> simp_all

theorem ofBits_injective {left right : List Bool} (length : left.length = right.length)
    (same : ofBits left = ofBits right) : left = right := by
  apply zipWith_xor_zeros length
  apply ofBits_eq_zero
  rw [ofBits_xor left right length, same]
  exact CharTwo.add_self_eq_zero _

/-- The value at one is the parity of the string. -/
theorem ofBits_eval_one (bits : List Bool) : (ofBits bits).eval 1 = (bits.count true : ZMod 2) := by
  induction bits with
  | nil => simp
  | cons bit rest ih =>
      rw [ofBits_cons, eval_add, ih]
      cases bit <;> simp [add_comm]

theorem ofBits_single {bits : List Bool} (single : bits.count true = 1) :
    ∃ power < bits.length, ofBits bits = X ^ power := by
  induction bits with
  | nil => simp at single
  | cons bit rest ih =>
      cases bit with
      | false =>
          obtain ⟨power, inside, same⟩ := ih (by simpa using single)
          exact ⟨power, Nat.lt_succ_of_lt inside, by simp [ofBits_cons, same]⟩
      | true =>
          have none : rest.count true = 0 := by simpa using single
          have zeros : rest = List.replicate rest.length false := by
            apply List.eq_replicate_iff.mpr ⟨rfl, ?_⟩
            intro bit member
            have absent := List.count_eq_zero.mp none
            cases bit with
            | false => rfl
            | true => exact absurd member absent
          refine ⟨rest.length, Nat.lt_succ_self _, ?_⟩
          rw [ofBits_cons, if_pos rfl, zeros, ofBits_zeros, add_zero, List.length_replicate]

theorem ofBits_pair {bits : List Bool} (pair : bits.count true = 2) :
    ∃ low high, low < high ∧ high < bits.length ∧ ofBits bits = X ^ high + X ^ low := by
  induction bits with
  | nil => simp at pair
  | cons bit rest ih =>
      cases bit with
      | false =>
          obtain ⟨low, high, order, inside, same⟩ := ih (by simpa using pair)
          exact ⟨low, high, order, Nat.lt_succ_of_lt inside, by simp [ofBits_cons, same]⟩
      | true =>
          obtain ⟨low, inside, same⟩ : ∃ power < rest.length, ofBits rest = X ^ power :=
            ofBits_single (by simpa using pair)
          refine ⟨low, rest.length, inside, Nat.lt_succ_self _, ?_⟩
          rw [ofBits_cons, if_pos rfl, same]

section Words

variable {width : Nat}

/-- The bits of a word, most significant first. -/
def wordBits (word : BitVec width) : List Bool :=
  List.ofFn (fun index : Fin width => word.getMsbD index.val)

@[simp] theorem wordBits_length (word : BitVec width) : (wordBits word).length = width :=
  List.length_ofFn

theorem wordBits_injective {left right : BitVec width} (same : wordBits left = wordBits right) :
    left = right := by
  apply BitVec.eq_of_getMsbD_eq
  intro index inside
  have entry := congrFun (List.ofFn_injective same) ⟨index, inside⟩
  exact entry

theorem wordBits_xor (left right : BitVec width) :
    wordBits (left ^^^ right) = List.zipWith xor (wordBits left) (wordBits right) := by
  apply List.ext_getElem
  · simp
  · intro index _ _
    simp [wordBits]

theorem wordBits_append {high low : Nat} (front : BitVec high) (back : BitVec low) :
    wordBits (front ++ back) = wordBits front ++ wordBits back := by
  apply List.ext_getElem
  · simp
  · intro index _ inside
    simp only [List.length_append, wordBits_length] at inside
    simp only [wordBits, List.getElem_ofFn, List.getElem_append, List.length_ofFn,
      BitVec.getMsbD_append]
    split <;> rename_i order <;> grind

/-- Shifting left by one feeds a zero in and lets the top bit out. -/
theorem wordBits_shiftLeft (word : BitVec width) :
    wordBits word ++ [false] = word.msb :: wordBits (word <<< 1) := by
  apply List.ext_getElem
  · simp
  · intro index _ inside
    cases index with
    | zero =>
        cases width with
        | zero => simp [BitVec.msb, BitVec.getMsbD]
        | succ width => simp [wordBits, BitVec.msb]
    | succ index =>
        simp only [List.length_cons, wordBits_length] at inside
        by_cases last : index + 1 < width
        · simp [wordBits, last, BitVec.getMsbD_shiftLeft]
        · have past : word.getMsbD (index + 1) = false := BitVec.getMsbD_of_ge _ _ (by omega)
          simp [wordBits, List.getElem_append, last, BitVec.getMsbD_shiftLeft, past]

@[simp] theorem wordBits_zero : wordBits (0#(width)) = List.replicate width false := by
  apply List.ext_getElem
  · simp
  · intro index _ _
    simp [wordBits]

noncomputable def ofWord (word : BitVec width) : (ZMod 2)[X] := ofBits (wordBits word)

@[simp] theorem ofWord_zero : ofWord (0#(width)) = 0 := by
  rw [ofWord, wordBits_zero, ofBits_zeros]

theorem ofWord_one : ofWord (1#(width + 1)) = 1 := by
  have bits : wordBits (1#(width + 1)) = List.replicate width false ++ [true] := by
    apply List.ext_getElem
    · simp
    · intro index inside _
      rw [wordBits_length] at inside
      simp [wordBits, BitVec.getMsbD, List.getElem_append]
      grind
  rw [ofWord, bits, ofBits_append, ofBits_zeros]
  simp [ofBits_cons]

theorem ofWord_degree (word : BitVec width) : (ofWord word).degree < width := by
  have bound := ofBits_degree (wordBits word)
  rw [wordBits_length] at bound
  exact bound

theorem ofWord_xor (left right : BitVec width) :
    ofWord (left ^^^ right) = ofWord left + ofWord right := by
  rw [ofWord, wordBits_xor, ofBits_xor _ _ (by simp)]
  rfl

theorem ofWord_append {high low : Nat} (front : BitVec high) (back : BitVec low) :
    ofWord (front ++ back) = ofWord front * X ^ low + ofWord back := by
  rw [ofWord, wordBits_append, ofBits_append, wordBits_length]
  rfl

theorem ofWord_shiftLeft (word : BitVec width) :
    X * ofWord word = ofWord (word <<< 1) + if word.msb then X ^ width else 0 := by
  have shifted := congrArg ofBits (wordBits_shiftLeft word)
  rw [ofBits_append, ofBits_cons word.msb, wordBits_length] at shifted
  simpa [ofBits_cons, ofWord, mul_comm, add_comm] using shifted

theorem ofWord_injective {left right : BitVec width} (same : ofWord left = ofWord right) :
    left = right :=
  wordBits_injective (ofBits_injective (by simp) same)

end Words

/-- Every set bit lies in one window of `width` consecutive positions. -/
def Burst (width : Nat) (bits : List Bool) : Prop :=
  ∃ start, ∀ index, bits.getD index false = true → start ≤ index ∧ index < start + width

theorem zeros_of_unset {bits : List Bool} (unset : ∀ index, bits.getD index false ≠ true) :
    bits = List.replicate bits.length false := by
  apply List.eq_replicate_iff.mpr ⟨rfl, ?_⟩
  intro bit member
  obtain ⟨index, inside, rfl⟩ := List.mem_iff_getElem.mp member
  have entry := unset index
  rw [List.getD_eq_getElem _ _ inside] at entry
  exact Bool.eq_false_of_not_eq_true entry

/-- A burst that reaches the back of a string leaves the front alone. -/
theorem burst_front {width : Nat} (front middle back : List Bool)
    (burst : Burst width (front ++ (middle ++ back))) (far : width ≤ middle.length + 1)
    (set : back ≠ List.replicate back.length false) :
    front = List.replicate front.length false := by
  obtain ⟨start, window⟩ := burst
  apply zeros_of_unset
  intro index early
  have inside : index < front.length := by
    by_contra outside
    rw [List.getD_eq_default _ _ (Nat.le_of_not_lt outside)] at early
    cases early
  apply set
  apply zeros_of_unset
  intro index' late
  have low := window index (by rwa [List.getD_append _ _ _ _ inside])
  have high := window (front.length + (middle.length + index')) (by
    rw [List.getD_append_right _ _ _ _ (by omega), List.getD_append_right _ _ _ _ (by omega)]
    rw [← late]
    congr 1
    omega)
  omega

theorem burst_back {width : Nat} {front back : List Bool} (burst : Burst width (front ++ back)) :
    Burst width back := by
  obtain ⟨start, window⟩ := burst
  refine ⟨start - front.length, fun index set => ?_⟩
  have position := window (front.length + index) (by
    rw [List.getD_append_right _ _ _ _ (Nat.le_add_right _ _), Nat.add_sub_cancel_left]
    exact set)
  omega

theorem getD_framed (before after : Nat) (middle : List Bool) (index : Nat) :
    (List.replicate before false ++ middle ++ List.replicate after false).getD index false = true ↔
      before ≤ index ∧ middle.getD (index - before) false = true := by
  rw [List.append_assoc]
  by_cases early : index < before
  · rw [List.getD_append _ _ _ _ (by simpa using early),
      List.getD_eq_getElem _ _ (by simpa using early), List.getElem_replicate]
    simp only [Bool.false_eq_true, false_iff, not_and]
    omega
  · rw [List.getD_append_right _ _ _ _ (by simpa using early), List.length_replicate]
    simp only [Nat.le_of_not_lt early, true_and]
    by_cases inside : index - before < middle.length
    · rw [List.getD_append _ _ _ _ inside]
    · rw [List.getD_append_right _ _ _ _ (Nat.le_of_not_lt inside),
        List.getD_eq_default middle _ (Nat.le_of_not_lt inside)]
      simp

theorem burst_of_framed {width : Nat} (before after : Nat) (middle : List Bool)
    (short : middle.length ≤ width) :
    Burst width (List.replicate before false ++ middle ++ List.replicate after false) := by
  refine ⟨before, fun index set => ?_⟩
  obtain ⟨late, inner⟩ := (getD_framed before after middle index).mp set
  refine ⟨late, ?_⟩
  by_contra outside
  rw [List.getD_eq_default _ _ (by omega)] at inner
  cases inner

/-- The string from its first set bit to its last. -/
def core (bits : List Bool) : List Bool :=
  (bits.dropWhile fun bit => !bit).rdropWhile fun bit => !bit

theorem core_split (bits : List Bool) : ∃ before after : Nat,
    bits = List.replicate before false ++ core bits ++ List.replicate after false := by
  have front : (bits.takeWhile fun bit => !bit) =
      List.replicate (bits.takeWhile fun bit => !bit).length false := by
    apply List.eq_replicate_iff.mpr ⟨rfl, ?_⟩
    intro bit member
    simpa using List.mem_takeWhile_imp member
  have back : ((bits.dropWhile fun bit => !bit).rtakeWhile fun bit => !bit) =
      List.replicate ((bits.dropWhile fun bit => !bit).rtakeWhile fun bit => !bit).length false := by
    apply List.eq_replicate_iff.mpr ⟨rfl, ?_⟩
    intro bit member
    simpa using List.mem_rtakeWhile_imp member
  refine ⟨(bits.takeWhile fun bit => !bit).length,
    ((bits.dropWhile fun bit => !bit).rtakeWhile fun bit => !bit).length, ?_⟩
  rw [← front, ← back, core, List.append_assoc, List.rdropWhile_append_rtakeWhile,
    List.takeWhile_append_dropWhile]

/-- The core of a string that is not all zeros begins and ends with a set bit. -/
theorem core_ends (bits : List Bool) (set : core bits ≠ []) :
    (core bits).getD 0 false = true ∧ (core bits).getD ((core bits).length - 1) false = true := by
  have positive : 0 < (core bits).length := List.length_pos_iff.mpr set
  constructor
  · obtain ⟨rest, whole⟩ : core bits <+: bits.dropWhile fun bit => !bit :=
      List.rdropWhile_prefix (fun bit => !bit) _
    have nonempty : (bits.dropWhile fun bit => !bit) ≠ [] := by
      rw [← whole]
      exact List.append_ne_nil_of_left_ne_nil set rest
    have first := List.head_dropWhile_not (fun bit => !bit) nonempty
    simp only [← whole, List.head_append_of_ne_nil set, Bool.not_eq_false'] at first
    rw [List.getD_eq_getElem _ _ positive, ← List.head_eq_getElem_zero set]
    exact first
  · have last := List.rdropWhile_last_not (fun bit => !bit) (bits.dropWhile fun bit => !bit) set
    change ¬ (!(core bits).getLast set) = true at last
    rw [List.getD_eq_getElem _ _ (by omega), ← List.getLast_eq_getElem set]
    simpa using last

theorem burst_iff_core (width : Nat) (bits : List Bool) :
    Burst width bits ↔ (core bits).length ≤ width := by
  obtain ⟨before, after, split⟩ := core_split bits
  constructor
  · rintro ⟨start, window⟩
    by_cases set : core bits = []
    · simp [set]
    · have positive : 0 < (core bits).length := List.length_pos_iff.mpr set
      obtain ⟨first, last⟩ := core_ends bits set
      have inner : ∀ index, (core bits).getD index false = true →
          bits.getD (before + index) false = true := by
        intro index member
        rw [split]
        exact (getD_framed before after (core bits) _).mpr
          ⟨Nat.le_add_right _ _, by rwa [Nat.add_sub_cancel_left]⟩
      have low := window (before + 0) (inner 0 first)
      have high := window (before + ((core bits).length - 1)) (inner _ last)
      omega
  · intro short
    rw [split]
    exact burst_of_framed before after (core bits) short

instance (width : Nat) (bits : List Bool) : Decidable (Burst width bits) :=
  decidable_of_iff _ (burst_iff_core width bits).symm

end BinaryPolynomial
