import Mathlib.Data.List.Basic

set_option autoImplicit false

/- A device behind a bus, as a program sees it that talks to it one transaction
at a time while the device also moves by itself. -/
namespace Peripheral

variable {δ : Type}

/-- Everything the program does not decide. Accesses (transactions, clock
readings and delays) are numbered over the whole run; the device takes the
`moves` of a number just before the access, in order. A transaction that is not
delivered never reaches the device. -/
structure Environment (δ : Type) where
  transact : List UInt8 → δ → List UInt8 × δ
  moves : Nat → List (δ → δ)
  delivered : Nat → Bool
  clock : Nat → Int

structure Exchange (δ : Type) where
  before : δ
  sent : List UInt8
  delivered : Bool
  received : List UInt8

/-- The device, the number of the next access, the transactions made so far and
the states the device went through, both oldest first. -/
structure World (δ : Type) where
  device : δ
  accesses : Nat := 0
  exchanges : List (Exchange δ) := []
  moments : List δ := []

def advance (world : World δ) (move : δ → δ) : World δ :=
  { world with
    device := move world.device
    moments := world.moments ++ [move world.device] }

/-- What happens up to the next access, which is thereby used. -/
def elapse (env : Environment δ) (world : World δ) : World δ :=
  { (env.moves world.accesses).foldl advance world with accesses := world.accesses + 1 }

/-- One transaction. The bytes received are zero when it is not delivered. -/
def exchange (env : Environment δ) (sent : List UInt8) (world : World δ) : List UInt8 × World δ :=
  let ready := elapse env world
  if env.delivered world.accesses then
    let answer := env.transact sent ready.device
    (answer.1,
      { ready with
        device := answer.2
        exchanges := ready.exchanges ++ [⟨ready.device, sent, true, answer.1⟩]
        moments := ready.moments ++ [answer.2] })
  else
    let received := List.replicate sent.length 0
    (received,
      { ready with exchanges := ready.exchanges ++ [⟨ready.device, sent, false, received⟩] })

def readClock (env : Environment δ) (world : World δ) : Int × World δ :=
  (env.clock world.accesses, elapse env world)

def wait (env : Environment δ) (world : World δ) : World δ := elapse env world

/-- The device after a sequence of its own moves. -/
def settle (moves : List (δ → δ)) (device : δ) : δ := moves.foldl (fun state move => move state) device

section Elapse

variable (env : Environment δ) (world : World δ)

theorem foldl_advance (moves : List (δ → δ)) :
    (moves.foldl advance world).device = settle moves world.device ∧
      (moves.foldl advance world).exchanges = world.exchanges := by
  induction moves generalizing world with
  | nil => exact ⟨rfl, rfl⟩
  | cons move rest ih =>
      rw [List.foldl_cons]
      exact ih (advance world move)

@[simp] theorem elapse_device :
    (elapse env world).device = settle (env.moves world.accesses) world.device :=
  (foldl_advance world _).1

@[simp] theorem elapse_exchanges : (elapse env world).exchanges = world.exchanges :=
  (foldl_advance world _).2

@[simp] theorem elapse_accesses : (elapse env world).accesses = world.accesses + 1 := rfl

@[simp] theorem exchange_accesses (sent : List UInt8) :
    (exchange env sent world).2.accesses = world.accesses + 1 := by
  unfold exchange
  dsimp only
  split <;> rfl

theorem exchange_delivered (sent : List UInt8) (reached : env.delivered world.accesses = true) :
    exchange env sent world =
      ((env.transact sent (elapse env world).device).1,
        { elapse env world with
          device := (env.transact sent (elapse env world).device).2
          exchanges := world.exchanges ++ [⟨(elapse env world).device, sent, true,
            (env.transact sent (elapse env world).device).1⟩]
          moments := (elapse env world).moments ++
            [(env.transact sent (elapse env world).device).2] }) := by
  unfold exchange
  dsimp only
  rw [if_pos reached, elapse_exchanges]

theorem exchange_lost (sent : List UInt8) (lost : env.delivered world.accesses = false) :
    exchange env sent world =
      (List.replicate sent.length 0,
        { elapse env world with
          exchanges := world.exchanges ++
            [⟨(elapse env world).device, sent, false, List.replicate sent.length 0⟩] }) := by
  unfold exchange
  dsimp only
  rw [if_neg (by rw [lost]; exact Bool.false_ne_true), elapse_exchanges]

/-- A transaction adds itself to the record, whether it gets through or not. -/
theorem exchange_recorded (sent : List UInt8) :
    ∃ entry : Exchange δ, (exchange env sent world).2.exchanges = world.exchanges ++ [entry] ∧
      entry.sent = sent ∧ entry.delivered = env.delivered world.accesses ∧
      entry.received = (exchange env sent world).1 := by
  cases reached : env.delivered world.accesses with
  | true =>
      rw [exchange_delivered env world sent reached]
      exact ⟨_, rfl, rfl, rfl, rfl⟩
  | false =>
      rw [exchange_lost env world sent reached]
      exact ⟨_, rfl, rfl, rfl, rfl⟩

end Elapse

/-- A list has only one way to be split at its only element that satisfies `Mark`. -/
theorem record_split_unique {α : Type} (Mark : α → Prop) {front back front' back' : List α}
    {item item' : α} (same : front ++ item :: back = front' ++ item' :: back')
    (marked : Mark item') (before : ∀ entry ∈ front, ¬ Mark entry)
    (after : ∀ entry ∈ back, ¬ Mark entry) :
    front' = front ∧ item' = item ∧ back' = back := by
  rcases List.append_eq_append_iff.mp same with ⟨extra, grown, rest⟩ | ⟨extra, grown, rest⟩
  · cases extra with
    | nil =>
        rw [List.append_nil] at grown
        obtain ⟨rfl, rfl⟩ := List.cons.inj rest
        exact ⟨grown, rfl, rfl⟩
    | cons first extra =>
        obtain ⟨_, tail⟩ := List.cons.inj rest
        exact absurd marked (after item' (by rw [tail]; simp))
  · cases extra with
    | nil =>
        rw [List.append_nil] at grown
        obtain ⟨rfl, rfl⟩ := List.cons.inj rest
        exact ⟨grown.symm, rfl, rfl⟩
    | cons first extra =>
        obtain ⟨rfl, _⟩ := List.cons.inj rest
        exact absurd marked (before item' (by rw [grown]; simp))

/-- The record has only grown, by transactions that satisfy `Allowed`. -/
def Records (Allowed : Exchange δ → Prop) (before after : World δ) : Prop :=
  ∃ entries, after.exchanges = before.exchanges ++ entries ∧ ∀ entry ∈ entries, Allowed entry

section Records

variable {Allowed : Exchange δ → Prop} {first second third : World δ}

theorem Records.refl (world : World δ) : Records Allowed world world :=
  ⟨[], (List.append_nil _).symm, fun _ member => absurd member List.not_mem_nil⟩

theorem Records.trans (start : Records Allowed first second) (rest : Records Allowed second third) :
    Records Allowed first third := by
  obtain ⟨entries, grown, allowed⟩ := start
  obtain ⟨entries', grown', allowed'⟩ := rest
  refine ⟨entries ++ entries', by rw [grown', grown, List.append_assoc], ?_⟩
  intro entry member
  rcases List.mem_append.mp member with early | late
  · exact allowed entry early
  · exact allowed' entry late

theorem elapse_records (env : Environment δ) (world : World δ) :
    Records Allowed world (elapse env world) :=
  ⟨[], by rw [elapse_exchanges, List.append_nil], fun _ member => absurd member List.not_mem_nil⟩

theorem exchange_records (env : Environment δ) (world : World δ) (sent : List UInt8)
    (allowed : ∀ entry : Exchange δ, entry.sent = sent → Allowed entry) :
    Records Allowed world (exchange env sent world).2 := by
  obtain ⟨added, grown, same, _⟩ := exchange_recorded env world sent
  refine ⟨[added], grown, ?_⟩
  intro entry member
  obtain rfl := List.mem_singleton.mp member
  exact allowed entry same

end Records

/-- The device went only through states that satisfy `Moment`, and the record has
only grown by transactions that satisfy `Allowed`. -/
structure Passes (Moment : δ → Prop) (Allowed : Exchange δ → Prop) (before after : World δ) :
    Prop where
  moments : ∃ states, after.moments = before.moments ++ states ∧ ∀ state ∈ states, Moment state
  records : Records Allowed before after

section Passes

variable {Moment : δ → Prop} {Allowed : Exchange δ → Prop}

theorem Passes.refl (world : World δ) : Passes Moment Allowed world world :=
  { moments := ⟨[], (List.append_nil _).symm, fun _ member => absurd member List.not_mem_nil⟩
    records := Records.refl world }

theorem Passes.trans {first second third : World δ} (start : Passes Moment Allowed first second)
    (rest : Passes Moment Allowed second third) : Passes Moment Allowed first third := by
  obtain ⟨⟨states, grown, safe⟩, records⟩ := start
  obtain ⟨⟨states', grown', safe'⟩, records'⟩ := rest
  refine ⟨⟨states ++ states', by rw [grown', grown, List.append_assoc], ?_⟩,
    records.trans records'⟩
  intro state member
  rcases List.mem_append.mp member with early | late
  · exact safe state early
  · exact safe' state late

variable (Moment Allowed) (env : Environment δ) {Inv Inv' : δ → Prop}

theorem foldl_advance_passes (safe : ∀ device, Inv device → Moment device)
    {moves : List (δ → δ)} (stable : ∀ move ∈ moves, ∀ device, Inv device → Inv (move device))
    (world : World δ) (start : Inv world.device) :
    Inv (moves.foldl advance world).device ∧
      Passes Moment Allowed world (moves.foldl advance world) := by
  induction moves generalizing world with
  | nil => exact ⟨start, Passes.refl world⟩
  | cons move rest ih =>
      have next := stable move List.mem_cons_self world.device start
      have step : Passes Moment Allowed world (advance world move) :=
        { moments := ⟨[move world.device], rfl, fun state member => by
            rw [List.mem_singleton.mp member]
            exact safe _ next⟩
          records := ⟨[], (List.append_nil _).symm, fun _ member => absurd member List.not_mem_nil⟩ }
      obtain ⟨last, passes⟩ :=
        ih (fun move member => stable move (List.mem_cons_of_mem _ member)) (advance world move) next
      exact ⟨last, step.trans passes⟩

/-- An invariant of the device's own moves holds up to the next access. -/
theorem elapse_passes (safe : ∀ device, Inv device → Moment device)
    (stable : ∀ access, ∀ move ∈ env.moves access, ∀ device, Inv device → Inv (move device))
    {world : World δ} (start : Inv world.device) :
    Inv (elapse env world).device ∧ Passes Moment Allowed world (elapse env world) := by
  obtain ⟨last, moments, records⟩ :=
    foldl_advance_passes Moment Allowed safe (stable world.accesses) world start
  exact ⟨last, moments, records⟩

/-- A transaction that gets through, seen at the state it finds the device in. -/
theorem exchange_passes (safe : ∀ device, Inv device → Moment device)
    (safe' : ∀ device, Inv' device → Moment device)
    (stable : ∀ access, ∀ move ∈ env.moves access, ∀ device, Inv device → Inv (move device))
    {sent : List UInt8}
    (allowed : ∀ device received, Inv device → Allowed ⟨device, sent, true, received⟩)
    (effect : ∀ device, Inv device → Inv' (env.transact sent device).2)
    {world : World δ} (reached : env.delivered world.accesses = true) (start : Inv world.device) :
    Inv' (exchange env sent world).2.device ∧
      Passes Moment Allowed world (exchange env sent world).2 := by
  obtain ⟨ready, ⟨states, grown, went⟩, records⟩ :=
    elapse_passes Moment Allowed env safe stable start
  have next := effect _ ready
  rw [exchange_delivered env world sent reached]
  refine ⟨next, ⟨states ++ [_], by rw [grown, List.append_assoc], ?_⟩, [_], rfl, ?_⟩
  · intro state member
    rcases List.mem_append.mp member with early | late
    · exact went state early
    · rw [List.mem_singleton.mp late]
      exact safe' _ next
  · intro entry member
    rw [List.mem_singleton.mp member]
    exact allowed _ _ ready

end Passes

/-- A device that answers every transaction with zeros. -/
def silentEnvironment : Environment Unit :=
  { transact := fun sent device => (List.replicate sent.length 0, device)
    moves := fun _ => []
    delivered := fun _ => true
    clock := fun access => access }

end Peripheral
