import Mathlib.Data.List.Basic

set_option autoImplicit false

/- A store of `size` slots filled in turn: the item of index `k` goes to slot
`k % size`, over whatever was there. -/
namespace CyclicStore

variable {α β : Type}

/-- The slots after the insertions `history`, oldest first. `Rel item slot` says
that the slot still stands for the item it was filled with, and `Blank` that it
was never filled. -/
structure Holds (size : Nat) (Rel : α → β → Prop) (Blank : β → Prop) (history : List α)
    (slots : List β) : Prop where
  length : slots.length = size
  recent : ∀ k item, history[k]? = some item → history.length ≤ k + size →
    ∃ slot, slots[k % size]? = some slot ∧ Rel item slot
  blank : ∀ j slot, history.length ≤ j → slots[j]? = some slot → Blank slot

variable {size : Nat} {Rel : α → β → Prop} {Blank : β → Prop} {history : List α} {slots : List β}

theorem holds_nil (length : slots.length = size) (blank : ∀ slot ∈ slots, Blank slot) :
    Holds size Rel Blank ([] : List α) slots := by
  refine ⟨length, ?_, ?_⟩
  · intro k item present
    cases present
  · intro j slot _ found
    exact blank slot (List.mem_of_getElem? found)

/-- Filling the next slot in turn appends to the history. -/
theorem Holds.push (holds : Holds size Rel Blank history slots) (positive : 0 < size)
    (item : α) (slot : β) (related : Rel item slot) :
    Holds size Rel Blank (history ++ [item]) (slots.set (history.length % size) slot) := by
  have inside : history.length % size < slots.length := by
    rw [holds.length]
    exact Nat.mod_lt _ positive
  refine ⟨by rw [List.length_set, holds.length], ?_, ?_⟩
  · intro k other present late
    by_cases last : k = history.length
    · subst last
      simp only [List.getElem?_concat_length, Option.some.injEq] at present
      subst other
      exact ⟨slot, List.getElem?_set_self inside, related⟩
    · have below : k < history.length := by
        have bound := (List.getElem?_eq_some_iff.mp present).1
        simp only [List.length_append, List.length_cons, List.length_nil] at bound
        omega
      rw [List.getElem?_append_left below] at present
      simp only [List.length_append, List.length_cons, List.length_nil] at late
      -- Fewer than `size` insertions apart, so the two indices fall in different slots.
      have apart : history.length % size ≠ k % size := by
        intro same
        have divides : size ∣ history.length - k :=
          Nat.dvd_of_mod_eq_zero (Nat.sub_mod_eq_zero_of_mod_eq same)
        have := Nat.le_of_dvd (by omega) divides
        omega
      obtain ⟨old, found, kept⟩ := holds.recent k other present (by omega)
      exact ⟨old, by rw [List.getElem?_set_ne apart, found], kept⟩
  · intro j found late at_j
    simp only [List.length_append, List.length_cons, List.length_nil] at late
    have apart : history.length % size ≠ j := by
      have := Nat.mod_le history.length size
      omega
    rw [List.getElem?_set_ne apart] at at_j
    exact holds.blank j found (by omega) at_j

/-- A pointwise change of the slots that keeps what they stand for. -/
theorem Holds.update {Rel' : α → β → Prop} {slots' : List β}
    (holds : Holds size Rel Blank history slots) (length : slots'.length = slots.length)
    (kept : ∀ (j : Nat) (slot slot' : β), slots[j]? = some slot → slots'[j]? = some slot' →
      (∀ item, Rel item slot → Rel' item slot') ∧ (Blank slot → Blank slot')) :
    Holds size Rel' Blank history slots' := by
  have partner : ∀ (j : Nat) (slot : β), slots[j]? = some slot → ∃ slot', slots'[j]? = some slot' := by
    intro j slot found
    have bound := (List.getElem?_eq_some_iff.mp found).1
    have inside : j < slots'.length := by omega
    exact ⟨slots'[j], List.getElem?_eq_getElem inside⟩
  refine ⟨length.trans holds.length, ?_, ?_⟩
  · intro k item present late
    obtain ⟨slot, found, related⟩ := holds.recent k item present late
    obtain ⟨slot', found'⟩ := partner _ slot found
    exact ⟨slot', found', (kept _ slot slot' found found').1 item related⟩
  · intro j slot' late found'
    have bound := (List.getElem?_eq_some_iff.mp found').1
    have inside : j < slots.length := by omega
    have found : slots[j]? = some slots[j] := List.getElem?_eq_getElem inside
    exact (kept j _ slot' found found').2 (holds.blank j _ late found)

/-- Every slot is blank or stands for one of the last `size` insertions. -/
theorem Holds.origin (holds : Holds size Rel Blank history slots) (j : Nat) (slot : β)
    (found : slots[j]? = some slot) :
    (history.length ≤ j ∧ Blank slot) ∨
      ∃ k item, history[k]? = some item ∧ history.length ≤ k + size ∧ k % size = j ∧
        Rel item slot := by
  by_cases unused : history.length ≤ j
  · exact Or.inl ⟨unused, holds.blank j slot unused found⟩
  · apply Or.inr
    have bound := (List.getElem?_eq_some_iff.mp found).1
    rw [holds.length] at bound
    let turns := (history.length - 1 - j) / size
    have turn := Nat.div_add_mod (history.length - 1 - j) size
    have short := Nat.mod_lt (history.length - 1 - j) (show 0 < size by omega)
    have index : j + size * turns < history.length := by
      change j + size * ((history.length - 1 - j) / size) < history.length
      omega
    have slotIndex : (j + size * turns) % size = j := by
      rw [Nat.add_mul_mod_self_left]
      exact Nat.mod_eq_of_lt bound
    have present : history[j + size * turns]? = some history[j + size * turns] :=
      List.getElem?_eq_getElem index
    have late : history.length ≤ j + size * turns + size := by
      change history.length ≤ j + size * ((history.length - 1 - j) / size) + size
      omega
    obtain ⟨slot', found', related⟩ := holds.recent _ _ present late
    rw [slotIndex, found, Option.some.injEq] at found'
    subst slot'
    exact ⟨_, _, present, late, slotIndex, related⟩

/-- The slots filled by the first `count` insertions, in turn. -/
def filled (size count : Nat) : List Nat := (List.range count).map (· % size)

/-- All slots, from the next one to be filled on. -/
def fromNext (size next : Nat) : List Nat :=
  (List.range size).map fun offset => (next + offset) % size

theorem filled_succ (size count : Nat) :
    filled size (count + 1) = filled size count ++ [count % size] := by
  rw [filled, List.range_succ, List.map_append]
  rfl

theorem mem_filled {count slot : Nat} (positive : 0 < size) :
    slot ∈ filled size count ↔ slot < size ∧ slot < count := by
  rw [filled, List.mem_map]
  constructor
  · rintro ⟨index, member, rfl⟩
    have early := List.mem_range.mp member
    have bound := Nat.mod_le index size
    exact ⟨Nat.mod_lt _ positive, by omega⟩
  · rintro ⟨inside, early⟩
    exact ⟨slot, List.mem_range.mpr early, Nat.mod_eq_of_lt inside⟩

/-- Every slot is some places after the next one. -/
theorem exists_offset (next : Nat) {slot : Nat} (inside : slot < size) :
    ∃ offset < size, (next + offset) % size = slot := by
  have below := Nat.mod_lt next (show 0 < size by omega)
  refine ⟨(slot + size - next % size) % size, Nat.mod_lt _ (by omega), ?_⟩
  calc
    (next + (slot + size - next % size) % size) % size =
        (next % size + (slot + size - next % size)) % size := by
      rw [Nat.add_mod_mod, Nat.mod_add_mod]
    _ = (slot + size) % size := by rw [show next % size + (slot + size - next % size) = slot + size by omega]
    _ = slot := by rw [Nat.add_mod_right, Nat.mod_eq_of_lt inside]

/-- First the slots never filled, then the others. -/
theorem fromNext_split (size count : Nat) :
    fromNext size (count % size) =
      (List.range (size - count)).map (fun offset => (count + offset) % size) ++
        (List.range (min size count)).map
          (fun offset => (count + (size - count + offset)) % size) := by
  have whole : size = size - count + min size count := by omega
  have turned : ∀ offset, (count % size + offset) % size = (count + offset) % size :=
    fun offset => Nat.mod_add_mod _ _ _
  calc
    fromNext size (count % size) =
        (List.range size).map fun offset => (count + offset) % size := by
      simp only [fromNext, turned]
    _ = (List.range (size - count + min size count)).map fun offset => (count + offset) % size := by
      rw [← whole]
    _ = _ := by
      rw [List.range_add, List.map_append, List.map_map]
      rfl

theorem pairwise_getElem? {Before : α → α → Prop} (ordered : history.Pairwise Before) {i j : Nat}
    {first second : α} (early : history[i]? = some first) (late : history[j]? = some second)
    (apart : i < j) : Before first second := by
  obtain ⟨inside, rfl⟩ := List.getElem?_eq_some_iff.mp early
  obtain ⟨inside', rfl⟩ := List.getElem?_eq_some_iff.mp late
  exact List.pairwise_iff_getElem.mp ordered i j inside inside' apart

/-- The slot `offset` places after the next one holds the item inserted one turn
before that place comes up. -/
theorem Holds.turn (holds : Holds size Rel Blank history slots) (offset : Nat)
    (inside : offset < size) (late : size ≤ history.length + offset) :
    ∃ item slot, history[history.length + offset - size]? = some item ∧
      slots[(history.length + offset) % size]? = some slot ∧ Rel item slot := by
  have below : history.length + offset - size < history.length := by omega
  have present := List.getElem?_eq_getElem below
  obtain ⟨slot, found, related⟩ := holds.recent _ _ present (by omega)
  rw [← Nat.mod_eq_sub_mod late] at found
  exact ⟨_, slot, present, found, related⟩

/-- Read from the next slot on, a store shows its never filled slots and then the
others in the order of their insertion. -/
theorem Holds.oldest_first (holds : Holds size Rel Blank history slots) (positive : 0 < size)
    {Before : α → α → Prop} {Sooner : β → β → Prop} (ordered : history.Pairwise Before)
    (carried : ∀ first second slot slot', Before first second → Rel first slot →
      Rel second slot' → Sooner slot slot') :
    ∃ fresh used, fromNext size (history.length % size) = fresh ++ used ∧
      (∀ index ∈ fresh, index ∉ filled size history.length) ∧
      (∀ index ∈ used, index ∈ filled size history.length) ∧
      used.Pairwise fun index index' => ∀ slot slot', slots[index]? = some slot →
        slots[index']? = some slot' → Sooner slot slot' := by
  refine ⟨_, _, fromNext_split size history.length, ?_, ?_, ?_⟩
  · intro index member
    obtain ⟨offset, inside, rfl⟩ := List.mem_map.mp member
    have early := List.mem_range.mp inside
    rw [mem_filled positive, Nat.mod_eq_of_lt (by omega)]
    omega
  · intro index member
    obtain ⟨offset, inside, rfl⟩ := List.mem_map.mp member
    have early := List.mem_range.mp inside
    have late : size ≤ history.length + (size - history.length + offset) := by omega
    have bound := Nat.mod_le (history.length + (size - history.length + offset) - size) size
    rw [mem_filled positive]
    refine ⟨Nat.mod_lt _ positive, ?_⟩
    rw [Nat.mod_eq_sub_mod late]
    omega
  · rw [List.pairwise_map]
    refine List.Pairwise.imp_of_mem ?_ List.pairwise_lt_range
    intro offset offset' member member' apart slot slot' found found'
    have early := List.mem_range.mp member
    have early' := List.mem_range.mp member'
    obtain ⟨first, held, past, shown, related⟩ :=
      holds.turn (size - history.length + offset) (by omega) (by omega)
    obtain ⟨second, held', past', shown', related'⟩ :=
      holds.turn (size - history.length + offset') (by omega) (by omega)
    rw [shown, Option.some.injEq] at found
    rw [shown', Option.some.injEq] at found'
    subst found found'
    exact carried _ _ _ _ (pairwise_getElem? ordered past past' (by omega)) related related'

end CyclicStore
