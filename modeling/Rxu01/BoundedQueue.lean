import Mathlib.Data.List.Basic

set_option autoImplicit false

/- A first-in first-out queue with room for `depth` items, and the account of
everything that was ever offered to one. -/

structure BoundedQueue (α : Type) where
  depth : Nat
  items : List α := []
  fits : items.length ≤ depth := by simp

namespace BoundedQueue

variable {α : Type}

def empty (depth : Nat) : BoundedQueue α := { depth := depth }

/-- Appends an item if there is room, and tells whether there was. -/
def send (queue : BoundedQueue α) (item : α) : Bool × BoundedQueue α :=
  if room : queue.items.length < queue.depth then
    (true,
      { queue with
          items := queue.items ++ [item]
          fits := by
            rw [List.length_append, List.length_singleton]
            exact room })
  else (false, queue)

/-- Removes the oldest item, if there is one. -/
def receive (queue : BoundedQueue α) : Option α × BoundedQueue α :=
  (queue.items.head?,
    { queue with
        items := queue.items.tail
        fits := by
          rw [List.length_tail]
          exact Nat.le_trans (Nat.sub_le _ 1) queue.fits })

def reset (queue : BoundedQueue α) : BoundedQueue α := empty queue.depth

@[simp] theorem reset_items (queue : BoundedQueue α) : queue.reset.items = [] := rfl

theorem receive_items (queue : BoundedQueue α) :
    queue.receive.1.toList ++ queue.receive.2.items = queue.items := by
  cases items : queue.items with
  | nil => simp [receive, items]
  | cons item rest => simp [receive, items]

theorem send_cases (queue : BoundedQueue α) (item : α) :
    (queue.items.length < queue.depth ∧ (queue.send item).1 = true ∧
        (queue.send item).2.items = queue.items ++ [item]) ∨
      (queue.items.length = queue.depth ∧ queue.send item = (false, queue)) := by
  by_cases room : queue.items.length < queue.depth
  · left
    rw [send, dif_pos room]
    exact ⟨room, rfl, rfl⟩
  · right
    rw [send, dif_neg room]
    exact ⟨Nat.le_antisymm queue.fits (Nat.le_of_not_lt room), rfl⟩

@[simp] theorem send_depth (queue : BoundedQueue α) (item : α) :
    (queue.send item).2.depth = queue.depth := by
  rw [send]
  split
  · rfl
  · rfl

/-- A queue that nobody reads: it keeps what it was offered first, and the rest is counted. -/
structure Unread (queue : BoundedQueue α) (offered : List α) (refused : UInt32) : Prop where
  kept : queue.items = offered.take queue.depth
  counted : refused = UInt32.ofNat (offered.length - queue.depth)

theorem unread_empty (depth : Nat) : (empty depth : BoundedQueue α).Unread [] 0 := by
  refine ⟨List.take_nil.symm, ?_⟩
  rw [List.length_nil, Nat.zero_sub]
  rfl

theorem Unread.send {queue : BoundedQueue α} {offered : List α} {refused : UInt32}
    (unread : queue.Unread offered refused) (item : α) :
    (queue.send item).2.Unread (offered ++ [item])
      (refused + if (queue.send item).1 then 0 else 1) := by
  have length := congrArg List.length unread.kept
  rw [List.length_take] at length
  constructor
  all_goals rw [send_depth]
  · rcases send_cases queue item with ⟨room, _, items⟩ | ⟨full, same⟩
    · rw [items, unread.kept, List.take_of_length_le (by omega),
        List.take_of_length_le (by rw [List.length_append, List.length_singleton]; omega)]
    · rw [same, List.take_append_of_le_length (by omega)]
      exact unread.kept
  · rw [unread.counted, List.length_append, List.length_singleton]
    rcases send_cases queue item with ⟨room, accepted, _⟩ | ⟨full, same⟩
    · rw [accepted, if_pos rfl, UInt32.add_zero, Nat.sub_eq_zero_of_le (by omega),
        Nat.sub_eq_zero_of_le (by omega)]
    · rw [same, if_neg Bool.false_ne_true,
        show offered.length + 1 - queue.depth = offered.length - queue.depth + 1 by omega,
        UInt32.ofNat_add]
      rfl

section Thinning

variable {keep : α → Bool} {full reduced : BoundedQueue α}

/-- A queue of the same depth that holds only the items to keep. -/
def Thinned (keep : α → Bool) (full reduced : BoundedQueue α) : Prop :=
  reduced.depth = full.depth ∧ reduced.items = full.items.filter keep

/-- An item to keep finds a full queue with an item in it that is not kept. -/
def Displaces (keep : α → Bool) (queue : BoundedQueue α) : Prop :=
  queue.items.length = queue.depth ∧ ∃ item ∈ queue.items, keep item = false

theorem thinned_length (thinned : Thinned keep full reduced) (other : ∃ item ∈ full.items,
    keep item = false) : reduced.items.length < full.items.length := by
  obtain ⟨item, member, dropped⟩ := other
  rw [thinned.2]
  apply Nat.lt_of_le_of_ne (List.length_filter_le keep full.items)
  intro same
  have kept := List.length_filter_eq_length_iff.mp same item member
  rw [dropped] at kept
  cases kept

theorem thinned_send_dropped (thinned : Thinned keep full reduced) {item : α}
    (dropped : keep item = false) : Thinned keep (full.send item).2 reduced := by
  rcases send_cases full item with ⟨_, _, items⟩ | ⟨_, refused⟩
  · refine ⟨thinned.1.trans (send_depth full item).symm, ?_⟩
    rw [items, List.filter_append, List.filter_singleton, dropped, thinned.2]
    exact (List.append_nil _).symm
  · rw [refused]
    exact thinned

theorem thinned_send_displaced (thinned : Thinned keep full reduced)
    (displaces : Displaces keep full) (item : α) :
    (full.send item).1 = false ∧ (reduced.send item).1 = true := by
  have shorter := thinned_length thinned displaces.2
  constructor
  · rcases send_cases full item with ⟨room, _, _⟩ | ⟨_, refused⟩
    · have length := displaces.1
      omega
    · rw [refused]
  · rcases send_cases reduced item with ⟨_, accepted, _⟩ | ⟨length, _⟩
    · exact accepted
    · have depth := thinned.1
      have fits := full.fits
      omega

/-- An item to keep fares alike in both queues, unless it is displaced. -/
theorem thinned_send_kept (thinned : Thinned keep full reduced) {item : α}
    (kept : keep item = true) (undisplaced : ¬ Displaces keep full) :
    (full.send item).1 = (reduced.send item).1 ∧
      Thinned keep (full.send item).2 (reduced.send item).2 := by
  have depth := thinned.1
  have bound : reduced.items.length ≤ full.items.length := by
    rw [thinned.2]
    exact List.length_filter_le keep full.items
  rcases send_cases full item with ⟨room, accepted, items⟩ | ⟨length, refused⟩
  · rcases send_cases reduced item with ⟨_, accepted', items'⟩ | ⟨length', _⟩
    · refine ⟨accepted.trans accepted'.symm, ?_, ?_⟩
      · rw [send_depth, send_depth, depth]
      · rw [items, items', thinned.2, List.filter_append, List.filter_singleton, kept]
        rfl
    · omega
  · -- the full queue holds nothing but items to keep, so the other one is full too
    have same : reduced.items = full.items := by
      rw [thinned.2, List.filter_eq_self]
      intro other member
      by_contra dropped
      exact undisplaced ⟨length, other, member, by simpa using dropped⟩
    rcases send_cases reduced item with ⟨room, _, _⟩ | ⟨_, refused'⟩
    · rw [same] at room
      omega
    · rw [refused, refused']
      exact ⟨rfl, thinned⟩

theorem receive_some {queue : BoundedQueue α} {item : α} (head : queue.receive.1 = some item) :
    queue.items = item :: queue.receive.2.items := by
  have items := queue.receive_items
  rw [head] at items
  exact items.symm

theorem thinned_receive_kept (thinned : Thinned keep full reduced) {item : α}
    (head : full.receive.1 = some item) (kept : keep item = true) :
    reduced.receive.1 = some item ∧ Thinned keep full.receive.2 reduced.receive.2 := by
  have items := thinned.2
  rw [receive_some head, List.filter_cons_of_pos kept] at items
  refine ⟨?_, thinned.1, ?_⟩
  · change reduced.items.head? = some item
    rw [items]
    rfl
  · change reduced.items.tail = _
    rw [items]
    rfl

theorem thinned_receive_dropped (thinned : Thinned keep full reduced) {item : α}
    (head : full.receive.1 = some item) (dropped : keep item = false) :
    Thinned keep full.receive.2 reduced := by
  have items := thinned.2
  rw [receive_some head, List.filter_cons_of_neg (by rw [dropped]; exact Bool.false_ne_true)]
    at items
  exact ⟨thinned.1, items⟩

theorem thinned_receive_none (thinned : Thinned keep full reduced)
    (empty : full.receive.1 = none) : reduced.receive.1 = none := by
  have items : full.items = [] := List.head?_eq_none_iff.mp empty
  have none : reduced.items = [] := by
    rw [thinned.2, items]
    rfl
  exact List.head?_eq_none_iff.mpr none

end Thinning

/-- What a queue was offered and what it handed out, both oldest first, with the
numbers of items it refused and of items thrown away. -/
structure Account (α : Type) where
  queue : BoundedQueue α
  offered : List α
  taken : List α
  cleared : Nat
  refused : Nat
  inOrder : (taken ++ queue.items).Sublist offered
  balance : offered.length = taken.length + queue.items.length + cleared + refused

namespace Account

variable (account : Account α)

def opening (depth : Nat) : Account α :=
  { queue := empty depth
    offered := []
    taken := []
    cleared := 0
    refused := 0
    inOrder := List.Sublist.refl _
    balance := rfl }

def offer (item : α) : Account α :=
  { account with
      queue := (account.queue.send item).2
      offered := account.offered ++ [item]
      refused := account.refused + if (account.queue.send item).1 then 0 else 1
      inOrder := by
        rcases send_cases account.queue item with ⟨_, _, items⟩ | ⟨_, full⟩
        · rw [items, ← List.append_assoc]
          exact account.inOrder.append (List.Sublist.refl [item])
        · rw [full]
          exact account.inOrder.trans (List.sublist_append_left _ _)
      balance := by
        have balance := account.balance
        rw [List.length_append, List.length_singleton]
        rcases send_cases account.queue item with ⟨_, room, items⟩ | ⟨_, full⟩
        · rw [room, items, if_pos rfl, List.length_append, List.length_singleton]
          omega
        · rw [full, if_neg Bool.false_ne_true]
          dsimp only
          omega }

def take : Account α :=
  { account with
      queue := account.queue.receive.2
      taken := account.taken ++ account.queue.receive.1.toList
      inOrder := by
        rw [List.append_assoc, receive_items]
        exact account.inOrder
      balance := by
        have balance := account.balance
        have items := congrArg List.length account.queue.receive_items
        rw [List.length_append] at items ⊢
        omega }

def clear : Account α :=
  { account with
      queue := account.queue.reset
      cleared := account.cleared + account.queue.items.length
      inOrder := by
        rw [reset_items, List.append_nil]
        exact (List.sublist_append_left _ _).trans account.inOrder
      balance := by
        have balance := account.balance
        rw [reset_items, List.length_nil]
        omega }

theorem taken_sublist : account.taken.Sublist account.offered :=
  (List.sublist_append_left _ _).trans account.inOrder

end Account

end BoundedQueue
