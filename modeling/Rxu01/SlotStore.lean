import Mathlib.Data.List.Basic

set_option autoImplicit false

/- One-place buffers that are filled from one side and emptied from the other. -/

/-- An item that left a buffer, and whether it was handed over or thrown away. -/
structure Departure (ι α : Type) where
  slot : ι
  item : α
  returned : Bool

/-- What arrived at which buffer, what each buffer holds and what left it, oldest
first. Nothing gets lost between a buffer's two ends, and the order stays. -/
structure SlotStore (ι α : Type) [DecidableEq ι] where
  arrived : List (ι × α) := []
  held : ι → Option α := fun _ => none
  departed : List (Departure ι α) := []
  accounted : ∀ slot,
    (arrived.filter (fun entry => entry.1 == slot)).map Prod.snd =
      (departed.filter (fun entry => entry.slot == slot)).map Departure.item ++
        (held slot).toList := by simp

namespace SlotStore

variable {ι α : Type} [DecidableEq ι]

/-- The items of a buffer among those that arrived. -/
def arrivedAt (store : SlotStore ι α) (slot : ι) : List α :=
  (store.arrived.filter (fun entry => entry.1 == slot)).map Prod.snd

def departedFrom (store : SlotStore ι α) (slot : ι) : List α :=
  (store.departed.filter (fun entry => entry.slot == slot)).map Departure.item

/-- The items handed over, in that order, whatever buffer they came from. -/
def returned (store : SlotStore ι α) : List α :=
  (store.departed.filter Departure.returned).map Departure.item

theorem arrivedAt_eq (store : SlotStore ι α) (slot : ι) :
    store.arrivedAt slot = store.departedFrom slot ++ (store.held slot).toList :=
  store.accounted slot

def arrive (slot : ι) (item : α) (store : SlotStore ι α) (room : store.held slot = none) :
    SlotStore ι α :=
  { arrived := store.arrived ++ [(slot, item)]
    held := Function.update store.held slot (some item)
    departed := store.departed
    accounted := by
      intro other
      have before := store.accounted other
      rw [List.filter_append, List.map_append, before]
      by_cases same : slot = other
      · subst same
        rw [room, Function.update_self]
        simp
      · rw [Function.update_of_ne (Ne.symm same)]
        simp [same] }

def depart (slot : ι) (item : α) (returned : Bool) (store : SlotStore ι α)
    (holds : store.held slot = some item) : SlotStore ι α :=
  { arrived := store.arrived
    held := Function.update store.held slot none
    departed := store.departed ++ [⟨slot, item, returned⟩]
    accounted := by
      intro other
      have before := store.accounted other
      rw [List.filter_append, List.map_append, before]
      by_cases same : slot = other
      · subst same
        rw [holds, Function.update_self]
        simp
      · rw [Function.update_of_ne (Ne.symm same)]
        simp [same] }

@[simp] theorem depart_returned (slot : ι) (item : α) (store : SlotStore ι α)
    (holds : store.held slot = some item) :
    (store.depart slot item true holds).returned = store.returned ++ [item] := by
  simp [returned, depart]

/-- A buffer is thrown away, with what it may hold. -/
def discard (slot : ι) (store : SlotStore ι α) : SlotStore ι α :=
  match held : store.held slot with
  | some item => store.depart slot item false held
  | none => store

section Discard

variable (slot : ι) (store : SlotStore ι α)

theorem discard_held : (store.discard slot).held = Function.update store.held slot none := by
  unfold discard
  split
  · rfl
  · rename_i empty
    rw [← empty, Function.update_eq_self]

@[simp] theorem discard_arrived : (store.discard slot).arrived = store.arrived := by
  unfold discard
  split <;> rfl

@[simp] theorem discard_returned : (store.discard slot).returned = store.returned := by
  unfold discard
  split
  · simp [returned, depart]
  · rfl

end Discard

/-- Some more items have arrived, and nothing has left. -/
inductive Fills : SlotStore ι α → SlotStore ι α → Prop where
  | refl (store : SlotStore ι α) : Fills store store
  | arrive {first second : SlotStore ι α} (fills : Fills first second) (slot : ι) (item : α)
      (room : second.held slot = none) : Fills first (second.arrive slot item room)

section Fills

variable {first second third : SlotStore ι α}

theorem Fills.trans (start : Fills first second) (rest : Fills second third) :
    Fills first third := by
  induction rest with
  | refl => exact start
  | arrive _ slot item room ih => exact Fills.arrive ih slot item room

theorem Fills.departed (fills : Fills first second) : second.departed = first.departed := by
  induction fills with
  | refl => rfl
  | arrive _ slot item room ih => exact ih

theorem Fills.returned (fills : Fills first second) : second.returned = first.returned := by
  unfold SlotStore.returned
  rw [fills.departed]

/-- What a buffer holds stays. -/
theorem Fills.holds (fills : Fills first second) {slot : ι} {item : α}
    (holds : first.held slot = some item) : second.held slot = some item := by
  induction fills with
  | refl => exact holds
  | arrive fills other added room ih =>
      have different : slot ≠ other := by
        rintro rfl
        rw [ih] at room
        cases room
      exact (Function.update_of_ne different _ _).trans ih

end Fills

end SlotStore
