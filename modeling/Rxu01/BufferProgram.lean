import Rxu01.Bytes
import Mathlib.Data.List.GetD

set_option autoImplicit false

/- Programs that read and write one byte buffer, with a record of every access,
and the rules that say what they compute and that they stay inside. -/
namespace BufferProgram

inductive Access where
  | read (index : Nat)
  | write (index : Nat)
  deriving DecidableEq, Repr

def Access.index : Access → Nat
  | .read index => index
  | .write index => index

structure Memory where
  bytes : List UInt8
  accesses : List Access := []

abbrev Program (β : Type) : Type := StateM Memory β

/-- A read outside the buffer is recorded and gives 0. -/
def read (index : Nat) : Program UInt8 := fun memory =>
  (memory.bytes.getD index 0, { memory with accesses := memory.accesses ++ [.read index] })

/-- A write outside the buffer is recorded and does nothing. -/
def write (index : Nat) (byte : UInt8) : Program Unit := fun memory =>
  ((), { bytes := memory.bytes.set index byte, accesses := memory.accesses ++ [.write index] })

/-- A `memcpy` out of the buffer. -/
def load (offset : Nat) : Nat → Program (List UInt8)
  | 0 => pure []
  | count + 1 => do
      let byte ← read offset
      let rest ← load (offset + 1) count
      pure (byte :: rest)

/-- A `memcpy` into the buffer. -/
def store (offset : Nat) : List UInt8 → Program Unit
  | [] => pure ()
  | byte :: rest => do
      write offset byte
      store (offset + 1) rest

/-- The program computes the value, turns one content into the other and makes no
access outside. -/
def Runs {β : Type} (before after : List UInt8) (program : Program β) (value : β) : Prop :=
  after.length = before.length ∧ ∀ log, ∃ added,
    program ⟨before, log⟩ = (value, ⟨after, log ++ added⟩) ∧
      ∀ access ∈ added, access.index < before.length

section Rules

variable {β γ : Type} {before after final : List UInt8}

theorem Runs.pure (value : β) : Runs before before (Pure.pure value) value := by
  refine ⟨rfl, fun log => ⟨[], ?_, nofun⟩⟩
  rw [List.append_nil]
  rfl

theorem Runs.bind {program : Program β} {next : β → Program γ} {value : β} {result : γ}
    (first : Runs before after program value) (rest : Runs after final (next value) result) :
    Runs before final (program >>= next) result := by
  obtain ⟨length, first⟩ := first
  obtain ⟨length', rest⟩ := rest
  refine ⟨length'.trans length, ?_⟩
  intro log
  obtain ⟨added, made, inside⟩ := first log
  obtain ⟨added', made', inside'⟩ := rest (log ++ added)
  refine ⟨added ++ added', ?_, ?_⟩
  · change next (program ⟨before, log⟩).1 (program ⟨before, log⟩).2 = _
    rw [made, made', List.append_assoc]
  · intro access member
    rcases List.mem_append.mp member with early | late
    · exact inside access early
    · rw [← length]
      exact inside' access late

/-- Both branches run, each under its condition. -/
theorem Runs.ite {condition : Prop} [Decidable condition] {program program' : Program β}
    {value value' : β} (positive : condition → Runs before after program value)
    (negative : ¬ condition → Runs before after program' value') :
    Runs before after (if condition then program else program')
      (if condition then value else value') := by
  by_cases holds : condition
  · rw [if_pos holds, if_pos holds]
    exact positive holds
  · rw [if_neg holds, if_neg holds]
    exact negative holds

theorem Runs.read {index : Nat} (inside : index < before.length) :
    Runs before before (read index) (before.getD index 0) := by
  refine ⟨rfl, fun log => ⟨[.read index], rfl, ?_⟩⟩
  intro access member
  obtain rfl := List.mem_singleton.mp member
  exact inside

theorem Runs.write {index : Nat} (inside : index < before.length) (byte : UInt8) :
    Runs before (before.set index byte) (write index byte) () := by
  refine ⟨List.length_set .., fun log => ⟨[.write index], rfl, ?_⟩⟩
  intro access member
  obtain rfl := List.mem_singleton.mp member
  exact inside

theorem Runs.load {offset count : Nat} (inside : offset + count ≤ before.length) :
    Runs before before (load offset count) ((before.drop offset).take count) := by
  induction count generalizing offset with
  | zero => exact Runs.pure _
  | succ count ih =>
      have here : offset < before.length := by omega
      have shape : (before.drop offset).take (count + 1) =
          before.getD offset 0 :: (before.drop (offset + 1)).take count := by
        rw [List.drop_eq_getElem_cons here, List.take_succ_cons, List.getD_eq_getElem _ _ here]
      rw [shape]
      exact (Runs.read here).bind ((ih (by omega)).bind (Runs.pure _))

/-- Writing a byte and then the others behind it is writing all of them. -/
theorem write_cons {offset : Nat} (inside : offset < before.length) (byte : UInt8)
    (rest : List UInt8) :
    Bytes.write (before.set offset byte) (offset + 1) rest =
      Bytes.write before offset (byte :: rest) := by
  have front : (before.set offset byte).take (offset + 1) = before.take offset ++ [byte] := by
    rw [List.take_succ_eq_append_getElem (by rw [List.length_set]; exact inside),
      List.take_set_of_le (Nat.le_refl _), List.getElem_set_self]
  have back : (before.set offset byte).drop (offset + 1 + rest.length) =
      before.drop (offset + 1 + rest.length) := List.drop_set_of_lt (by omega)
  unfold Bytes.write
  rw [front, back, List.length_cons, List.append_assoc (before.take offset), Nat.add_assoc,
    Nat.add_comm 1]
  rfl

theorem write_singleton {offset : Nat} (inside : offset < before.length) (byte : UInt8) :
    Bytes.write before offset [byte] = before.set offset byte := by
  rw [← write_cons inside]
  simp [Bytes.write]

theorem Runs.write_byte {index : Nat} (inside : index < before.length) (byte : UInt8) :
    Runs before (Bytes.write before index [byte]) (BufferProgram.write index byte) () := by
  rw [write_singleton inside]
  exact Runs.write inside byte

theorem Runs.store {offset : Nat} {bytes : List UInt8}
    (inside : offset + bytes.length ≤ before.length) :
    Runs before (Bytes.write before offset bytes) (store offset bytes) () := by
  induction bytes generalizing offset before with
  | nil =>
      have same : Bytes.write before offset [] = before := by simp [Bytes.write]
      rw [same]
      exact Runs.pure ()
  | cons byte rest ih =>
      rw [List.length_cons] at inside
      have here : offset < before.length := by omega
      rw [← write_cons here]
      exact (Runs.write here byte).bind (ih (by rw [List.length_set]; omega))

end Rules

end BufferProgram
