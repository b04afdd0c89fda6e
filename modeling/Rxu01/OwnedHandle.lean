import Rxu01.Reactive

set_option autoImplicit false

/- A variable that owns an object: creation stores the handle of a new object in it,
or the null handle when it fails; deletion does nothing to the null handle. Objects
are named in the order of their creation. -/
namespace OwnedHandle

open Reactive (run)

inductive Operation where
  | create (succeeded : Bool)
  | delete
  deriving DecidableEq

inductive Event where
  | created (object : Nat)
  | deleted (object : Nat)
  deriving DecidableEq

structure Owner where
  handle : Option Nat := none
  count : Nat := 0
  deriving DecidableEq

def step (owner : Owner) : Operation → Owner × Option Event
  | .create true =>
      ({ handle := some owner.count, count := owner.count + 1 }, some (.created owner.count))
  | .create false => ({ owner with handle := none }, none)
  | .delete => ({ owner with handle := none }, owner.handle.map .deleted)

/-- What happened to objects, oldest first. -/
def events (owner : Owner) (operations : List Operation) : List Event :=
  (Reactive.history step owner operations).filterMap Prod.snd

/-- Creation never overwrites the handle of an object. -/
def Unowned : Owner → List Operation → Prop
  | _, [] => True
  | owner, operation :: rest =>
      (∀ succeeded, operation = .create succeeded → owner.handle = none) ∧
        Unowned (step owner operation).1 rest

/-- No object is created while an earlier one exists, and each deletion is of an
object that was created and has not been deleted before. -/
inductive Exclusive : List Event → Prop where
  | nil : Exclusive []
  | created {events : List Event} {object : Nat} (previous : Exclusive events)
      (fresh : .created object ∉ events)
      (alone : ∀ earlier, .created earlier ∈ events → .deleted earlier ∈ events) :
      Exclusive (events ++ [.created object])
  | deleted {events : List Event} {object : Nat} (previous : Exclusive events)
      (present : .created object ∈ events) (once : .deleted object ∉ events) :
      Exclusive (events ++ [.deleted object])

/-- The objects that exist after some events. -/
def Exists (events : List Event) (object : Nat) : Prop :=
  .created object ∈ events ∧ .deleted object ∉ events

/-- The variable accounts for all that exists. -/
structure Accounts (events : List Event) (owner : Owner) : Prop where
  exclusive : Exclusive events
  named : ∀ object, .created object ∈ events ↔ object < owner.count
  owned : ∀ object, Exists events object ↔ owner.handle = some object

theorem unowned_append (owner : Owner) (first second : List Operation) :
    Unowned owner (first ++ second) ↔ Unowned owner first ∧ Unowned (run step owner first) second := by
  induction first generalizing owner with
  | nil => simp [Unowned]
  | cons operation rest ih =>
      rw [List.cons_append, Unowned, Unowned, ih, and_assoc]
      rfl

theorem events_cons (owner : Owner) (operation : Operation) (rest : List Operation) :
    events owner (operation :: rest) =
      (step owner operation).2.toList ++ events (step owner operation).1 rest := by
  rw [events, Reactive.history_cons, List.filterMap_cons]
  dsimp only
  cases (step owner operation).2 with
  | none => rfl
  | some event => rfl

theorem Exclusive.created_of_deleted {events : List Event} (exclusive : Exclusive events)
    {object : Nat} (deleted : .deleted object ∈ events) : .created object ∈ events := by
  induction exclusive with
  | nil => cases deleted
  | created previous fresh alone ih =>
      rcases List.mem_append.mp deleted with before | last
      · exact List.mem_append_left _ (ih before)
      · cases List.mem_singleton.mp last
  | deleted previous present once ih =>
      rcases List.mem_append.mp deleted with before | last
      · exact List.mem_append_left _ (ih before)
      · cases List.mem_singleton.mp last
        exact List.mem_append_left _ present

theorem accounts_start : Accounts [] {} := by
  refine ⟨.nil, fun object => ?_, fun object => ?_⟩
  · simp
  · simp [Exists]

section Step

variable {past : List Event} {owner : Owner}

/-- Without a handle in the variable nothing exists. -/
theorem Accounts.gone (accounts : Accounts past owner) (empty : owner.handle = none)
    (earlier : Nat) (created : .created earlier ∈ past) : .deleted earlier ∈ past := by
  by_contra kept
  have owned := (accounts.owned earlier).mp ⟨created, kept⟩
  rw [empty] at owned
  cases owned

theorem accounts_create (accounts : Accounts past owner) (empty : owner.handle = none) :
    Accounts (past ++ [.created owner.count])
      { handle := some owner.count, count := owner.count + 1 } := by
  have fresh : .created owner.count ∉ past := by
    intro member
    exact Nat.lt_irrefl _ ((accounts.named owner.count).mp member)
  have undeleted : ∀ object, .deleted object ∈ past ++ [Event.created owner.count] ↔
      .deleted object ∈ past := by simp
  have more : ∀ object, .created object ∈ past ++ [Event.created owner.count] ↔
      .created object ∈ past ∨ object = owner.count := by simp
  refine ⟨accounts.exclusive.created fresh (accounts.gone empty), ?_, ?_⟩
  · intro object
    rw [more, accounts.named]
    dsimp only
    omega
  · intro object
    rw [Exists, undeleted, more, Option.some.injEq]
    constructor
    · rintro ⟨created | same, kept⟩
      · exact absurd (accounts.gone empty object created) kept
      · exact same.symm
    · rintro rfl
      exact ⟨Or.inr rfl, fun deleted => fresh (accounts.exclusive.created_of_deleted deleted)⟩

theorem accounts_delete (accounts : Accounts past owner) {object : Nat}
    (full : owner.handle = some object) :
    Accounts (past ++ [.deleted object]) { owner with handle := none } := by
  obtain ⟨present, once⟩ := (accounts.owned object).mpr full
  have same : ∀ other, .created other ∈ past ++ [Event.deleted object] ↔
      .created other ∈ past := by simp
  refine ⟨accounts.exclusive.deleted present once, fun other => ?_, fun other => ?_⟩
  · rw [same]
    exact accounts.named other
  · have owned := accounts.owned other
    rw [full] at owned
    simp only [Exists, same, List.mem_append, List.mem_singleton, Event.deleted.injEq]
    simp only [Exists, Option.some.injEq] at owned
    constructor
    · rintro ⟨created, kept⟩
      exact absurd (owned.mp ⟨created, fun deleted => kept (Or.inl deleted)⟩).symm
        (fun equal => kept (Or.inr equal))
    · exact nofun

theorem accounts_empty (accounts : Accounts past owner) (empty : owner.handle = none) :
    Accounts past { owner with handle := none } := by
  rw [← empty]
  exact accounts

/-- One operation: creating needs the variable to be empty, deleting needs nothing. -/
theorem accounts_step (accounts : Accounts past owner) (operation : Operation)
    (unowned : ∀ succeeded, operation = .create succeeded → owner.handle = none) :
    Accounts (past ++ (step owner operation).2.toList) (step owner operation).1 := by
  cases operation with
  | create succeeded =>
      have empty := unowned succeeded rfl
      cases succeeded with
      | true => exact accounts_create accounts empty
      | false =>
          rw [step, Option.toList_none, List.append_nil]
          exact accounts_empty accounts empty
  | delete =>
      rw [step]
      cases held : owner.handle with
      | none =>
          rw [Option.map_none, Option.toList_none, List.append_nil]
          exact accounts_empty accounts held
      | some object => exact accounts_delete accounts held

end Step

theorem accounts_run {past : List Event} {owner : Owner} (accounts : Accounts past owner)
    (operations : List Operation) (unowned : Unowned owner operations) :
    Accounts (past ++ events owner operations) (run step owner operations) := by
  induction operations generalizing past owner with
  | nil =>
      rw [events, Reactive.history, List.filterMap_nil, List.append_nil]
      exact accounts
  | cons operation rest ih =>
      obtain ⟨first, later⟩ := unowned
      rw [events_cons, ← List.append_assoc]
      exact ih (accounts_step accounts operation first) later

/-- Where creation never overwrites a handle, objects exist one at a time, none is
deleted twice, and the variable names the one that exists. -/
theorem exclusive_run (operations : List Operation) (unowned : Unowned {} operations) :
    Exclusive (events {} operations) ∧
      ∀ object, Exists (events {} operations) object ↔
        (run step {} operations).handle = some object := by
  have accounts := accounts_run accounts_start operations unowned
  exact ⟨accounts.exclusive, accounts.owned⟩

end OwnedHandle
