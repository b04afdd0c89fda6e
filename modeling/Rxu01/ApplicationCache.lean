import Rxu01.Application
import Rxu01.CyclicStore

set_option autoImplicit false

namespace Application

open EspNowDriver (Mac)

/-- The entry is in use and its lifetime has not run out. -/
def CachedRequest.Live (now : Int) (entry : CachedRequest) : Prop :=
  entry.valid = true ∧ now - entry.cachedAtUs ≤ requestCacheLifetimeUs

/-- The entry is for this sender and sequence number. -/
def CachedRequest.For (sourceMac : Mac) (sequenceNumber : UInt16) (entry : CachedRequest) : Prop :=
  entry.sequenceNumber = sequenceNumber ∧ entry.sourceMac = sourceMac

theorem expire_of_live (now : Int) (entry : CachedRequest) (live : entry.Live now) :
    expire now entry = entry := by
  have young : ¬ requestCacheLifetimeUs < now - entry.cachedAtUs := Int.not_lt.mpr live.2
  simp only [expire, young, and_false, ↓reduceIte]

theorem expire_not_live (now : Int) (entry : CachedRequest) (dead : ¬ entry.Live now) :
    expire now entry = { entry with valid := false } := by
  unfold expire
  split
  · rfl
  · rename_i kept
    have invalid : entry.valid = false := by
      rw [← Bool.not_eq_true]
      intro used
      exact kept ⟨used, Int.not_le.mp (fun young => dead ⟨used, young⟩)⟩
    rw [← invalid]

theorem matches_expire (now : Int) (sourceMac : Mac) (sequenceNumber : UInt16)
    (entry : CachedRequest) :
    matchesRequest sourceMac sequenceNumber (expire now entry) = true ↔
      entry.Live now ∧ entry.For sourceMac sequenceNumber := by
  by_cases live : entry.Live now
  · rw [expire_of_live now entry live]
    simp [matchesRequest, CachedRequest.For, live, live.1]
  · rw [expire_not_live now entry live]
    simp [matchesRequest, live]

section Scan

variable (clock : Nat → Int) (sourceMac : Mac) (sequenceNumber : UInt16)

/-- The scan leaves each slot alone or expires it by its own clock reading. -/
theorem scanEntries_slot (entries : List CachedRequest) (index j : Nat)
    (before after : CachedRequest) (atBefore : entries[j]? = some before)
    (atAfter : (scanEntries clock sourceMac sequenceNumber index entries).1[j]? = some after) :
    after = before ∨ after = expire (clock (index + j)) before := by
  induction entries generalizing index j with
  | nil => cases atBefore
  | cons entry rest ih =>
      unfold scanEntries at atAfter
      dsimp only at atAfter
      cases j with
      | zero =>
          cases atBefore
          apply Or.inr
          split at atAfter
          · exact (Option.some.inj atAfter).symm
          · exact (Option.some.inj atAfter).symm
      | succ j =>
          rw [List.getElem?_cons_succ] at atBefore
          split at atAfter
          · rw [List.getElem?_cons_succ, atBefore] at atAfter
            exact Or.inl (Option.some.inj atAfter).symm
          · rw [List.getElem?_cons_succ] at atAfter
            rw [show index + (j + 1) = index + 1 + j by omega]
            exact ih (index + 1) j atBefore atAfter

/-- A hit is a live entry for the sender and sequence number asked for. -/
theorem scanEntries_some (entries : List CachedRequest) (index : Nat) (cached : CachedRequest)
    (found : (scanEntries clock sourceMac sequenceNumber index entries).2 = some cached) :
    ∃ j : Nat, entries[j]? = some cached ∧ cached.Live (clock (index + j)) ∧
      cached.For sourceMac sequenceNumber := by
  induction entries generalizing index with
  | nil => cases found
  | cons entry rest ih =>
      unfold scanEntries at found
      dsimp only at found
      split at found
      · rename_i hit
        obtain ⟨live, wanted⟩ := (matches_expire _ _ _ entry).mp hit
        rw [expire_of_live _ entry live, Option.some.injEq] at found
        subst found
        exact ⟨0, rfl, live, wanted⟩
      · obtain ⟨j, present, live, wanted⟩ := ih (index + 1) found
        refine ⟨j + 1, present, ?_, wanted⟩
        rw [show index + (j + 1) = index + 1 + j by omega]
        exact live

/-- A miss: no slot was live for the sender and sequence number when examined. -/
theorem scanEntries_none (entries : List CachedRequest) (index : Nat)
    (missed : (scanEntries clock sourceMac sequenceNumber index entries).2 = none)
    (j : Nat) (entry : CachedRequest) (present : entries[j]? = some entry) :
    ¬ (entry.Live (clock (index + j)) ∧ entry.For sourceMac sequenceNumber) := by
  induction entries generalizing index j with
  | nil => cases present
  | cons first rest ih =>
      unfold scanEntries at missed
      dsimp only at missed
      split at missed
      · cases missed
      · rename_i other
        cases j with
        | zero =>
            cases present
            exact fun hit => other ((matches_expire _ _ _ _).mpr hit)
        | succ j =>
            rw [show index + (j + 1) = index + 1 + j by omega]
            exact ih (index + 1) missed j present

end Scan

/-- The slot holds `item`, except that its flag may have been cleared once its
lifetime had run out. -/
def Stands (now : Int) (item slot : CachedRequest) : Prop :=
  item.valid = true ∧
    (slot = item ∨
      slot = { item with valid := false } ∧ requestCacheLifetimeUs < now - item.cachedAtUs)

theorem Stands.later {now later : Int} {item slot : CachedRequest} (stands : Stands now item slot)
    (advance : now ≤ later) : Stands later item slot := by
  obtain ⟨used, same | ⟨same, aged⟩⟩ := stands
  · exact ⟨used, Or.inl same⟩
  · exact ⟨used, Or.inr ⟨same, by omega⟩⟩

/-- Looking at a slot at a time when its item is live shows the item itself. -/
theorem Stands.of_live {now later : Int} {item slot : CachedRequest} (stands : Stands now item slot)
    (advance : now ≤ later) (young : later - item.cachedAtUs ≤ requestCacheLifetimeUs) :
    slot = item := by
  obtain ⟨_, same | ⟨_, aged⟩⟩ := stands
  · exact same
  · omega

/-- A slot that is live shows the item it stands for. -/
theorem Stands.of_slot_live {now time : Int} {item slot : CachedRequest}
    (stands : Stands now item slot) (live : slot.Live time) : slot = item := by
  obtain ⟨_, same | ⟨same, _⟩⟩ := stands
  · exact same
  · have cleared := live.1
    rw [same] at cleared
    cases cleared

theorem Stands.cachedAtUs {now : Int} {item slot : CachedRequest} (stands : Stands now item slot) :
    slot.cachedAtUs = item.cachedAtUs := by
  obtain ⟨_, rfl | ⟨rfl, _⟩⟩ := stands
  · rfl
  · rfl

theorem Stands.expired {now time later : Int} {item slot : CachedRequest}
    (stands : Stands now item slot) (start : now ≤ time) (stop : time ≤ later) :
    Stands later item (expire time slot) := by
  by_cases live : slot.Live time
  · rw [expire_of_live time slot live]
    exact stands.later (Int.le_trans start stop)
  · rw [expire_not_live time slot live]
    obtain ⟨used, rfl | ⟨rfl, aged⟩⟩ := stands
    · have aged : requestCacheLifetimeUs < time - slot.cachedAtUs :=
        Int.not_le.mp (fun young => live ⟨used, young⟩)
      exact ⟨used, Or.inr ⟨rfl, by omega⟩⟩
    · exact ⟨used, Or.inr ⟨rfl, by omega⟩⟩

/-- The ring after the insertions `history`, oldest first, at time `now`. -/
structure Tracks (now : Int) (history : List CachedRequest) (cache : RequestCache) : Prop where
  next : cache.nextEntry = history.length % requestCacheSize
  ring : CyclicStore.Holds requestCacheSize (Stands now) (fun slot => slot.valid = false)
    history cache.entries

theorem tracks_empty (now : Int) : Tracks now [] {} := by
  refine ⟨rfl, CyclicStore.holds_nil (by simp) ?_⟩
  intro slot member
  rw [List.eq_of_mem_replicate member]

section Tracks

variable {now : Int} {history : List CachedRequest} {cache : RequestCache}

theorem Tracks.later {later : Int} (tracks : Tracks now history cache) (advance : now ≤ later) :
    Tracks later history cache := by
  refine ⟨tracks.next, tracks.ring.update rfl ?_⟩
  intro j slot slot' present present'
  rw [present, Option.some.injEq] at present'
  subst present'
  exact ⟨fun item stands => stands.later advance, id⟩

/-- Expiry during a lookup keeps what the ring stands for. -/
theorem Tracks.find {later : Int} {clock : Nat → Int} (tracks : Tracks now history cache)
    (start : ∀ j, j < requestCacheSize → now ≤ clock j)
    (stop : ∀ j, j < requestCacheSize → clock j ≤ later) (sourceMac : Mac)
    (sequenceNumber : UInt16) :
    Tracks later history (findCachedRequest clock sourceMac sequenceNumber cache).1 := by
  refine ⟨tracks.next, tracks.ring.update (scanEntries_length ..) ?_⟩
  intro j slot slot' present present'
  have inside := (List.getElem?_eq_some_iff.mp present).1
  rw [cache.size] at inside
  have touched := scanEntries_slot clock sourceMac sequenceNumber cache.entries 0 j slot slot'
    present present'
  rw [Nat.zero_add] at touched
  constructor
  · intro item stands
    rcases touched with rfl | rfl
    · exact stands.later (Int.le_trans (start j inside) (stop j inside))
    · exact stands.expired (start j inside) (stop j inside)
  · intro blank
    rcases touched with rfl | rfl
    · exact blank
    · have dead : ¬ slot.Live (clock j) := by simp [CachedRequest.Live, blank]
      rw [expire_not_live _ slot dead]

theorem Tracks.insert {entry : CachedRequest} (tracks : Tracks now history cache)
    (used : entry.valid = true) : Tracks now (history ++ [entry]) (cacheRequest entry cache) := by
  refine ⟨?_, ?_⟩
  · simp only [cacheRequest, tracks.next, List.length_append, List.length_cons, List.length_nil,
      Nat.zero_add, Nat.mod_add_mod]
  · have pushed := tracks.ring.push (by decide) entry entry ⟨used, Or.inl rfl⟩
    rw [← tracks.next] at pushed
    exact pushed

/-- Item `k` of the history answers a lookup: it is for the sender and sequence
number asked for, fewer than `requestCacheSize` insertions came after it, and
its lifetime has not run out when its slot is examined. -/
def Answers (clock : Nat → Int) (sourceMac : Mac) (sequenceNumber : UInt16)
    (history : List CachedRequest) (k : Nat) (item : CachedRequest) : Prop :=
  history[k]? = some item ∧ item.For sourceMac sequenceNumber ∧
    history.length - (k + 1) < requestCacheSize ∧
    clock (k % requestCacheSize) - item.cachedAtUs ≤ requestCacheLifetimeUs

/-- What a lookup returns is the item of the history that answers it. -/
theorem Tracks.find_some {clock : Nat → Int} {sourceMac : Mac} {sequenceNumber : UInt16}
    {cached : CachedRequest} (tracks : Tracks now history cache)
    (found : (findCachedRequest clock sourceMac sequenceNumber cache).2 = some cached) :
    ∃ k, Answers clock sourceMac sequenceNumber history k cached := by
  obtain ⟨j, present, live, wanted⟩ := scanEntries_some clock sourceMac sequenceNumber
    cache.entries 0 cached found
  rw [Nat.zero_add] at live
  rcases tracks.ring.origin j cached present with ⟨_, blank⟩ | ⟨k, item, past, recent, slot, stands⟩
  · rw [live.1] at blank
    cases blank
  · have same := stands.of_slot_live live
    subst same
    have inside := (List.getElem?_eq_some_iff.mp past).1
    refine ⟨k, past, wanted, by omega, ?_⟩
    rw [slot]
    exact live.2

/-- A lookup misses exactly when no item of the history answers it. -/
theorem Tracks.find_none_iff {clock : Nat → Int} {sourceMac : Mac} {sequenceNumber : UInt16}
    (tracks : Tracks now history cache) (start : ∀ j, j < requestCacheSize → now ≤ clock j) :
    (findCachedRequest clock sourceMac sequenceNumber cache).2 = none ↔
      ¬ ∃ k item, Answers clock sourceMac sequenceNumber history k item := by
  constructor
  · rintro missed ⟨k, item, past, wanted, recent, young⟩
    have inside := (List.getElem?_eq_some_iff.mp past).1
    obtain ⟨slot, present, stands⟩ := tracks.ring.recent k item past (by omega)
    have below : k % requestCacheSize < requestCacheSize := Nat.mod_lt _ (by decide)
    have same := stands.of_live (start _ below) young
    subst same
    apply scanEntries_none clock sourceMac sequenceNumber cache.entries 0 missed _ slot present
    rw [Nat.zero_add]
    exact ⟨⟨stands.1, young⟩, wanted⟩
  · intro unanswered
    cases result : (findCachedRequest clock sourceMac sequenceNumber cache).2 with
    | none => rfl
    | some cached =>
        obtain ⟨k, answers⟩ := tracks.find_some result
        exact absurd ⟨k, cached, answers⟩ unanswered

end Tracks

end Application
