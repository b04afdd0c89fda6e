import Mathlib.Data.Finset.Dedup
import Mathlib.Data.Finset.Order
import Mathlib.Order.Lattice
import Rxu01.ApplicationRun

set_option autoImplicit false

/- The request cache as a ring: the calls that the processing of packets makes on it,
and what holds of its slots after any number of them. -/
namespace Application

open EspNowCanGateway (processMessage)
open EspNowDriver (Mac)
open RemoteProtocol (AcknowledgementStatus Message)
open Reactive (run history)

/-- A call on the cache, with what `esp_timer_get_time` returns during it. -/
inductive CacheCall where
  | find (clock : Nat → Int) (sourceMac : Mac) (sequenceNumber : UInt16)
  | insert (sourceMac : Mac) (message : Message) (status : AcknowledgementStatus) (now : Int)

inductive CacheAnswer where
  | found (entry : Option CachedRequest)
  | filled (slot : Nat)

def cacheStep (cache : RequestCache) : CacheCall → RequestCache × CacheAnswer
  | .find clock sourceMac sequenceNumber =>
      let found := findCachedRequest clock sourceMac sequenceNumber cache
      (found.1, .found found.2)
  | .insert sourceMac message status now =>
      (cacheRequest (cachedRequest sourceMac message status now) cache, .filled cache.nextEntry)

def CacheCall.readings : CacheCall → List Int
  | .find clock _ _ => (List.range requestCacheSize).map clock
  | .insert _ _ _ now => [now]

def CacheCall.inserted : CacheCall → Option CachedRequest
  | .find _ _ _ => none
  | .insert sourceMac message status now => some (cachedRequest sourceMac message status now)

/-- Every reading of the clock, in program order. -/
def readings (calls : List CacheCall) : List Int := calls.flatMap CacheCall.readings

/-- The entries inserted, oldest first. -/
def inserted (calls : List CacheCall) : List CachedRequest := calls.filterMap CacheCall.inserted

/-- The slots that have been used. -/
def filledSlots (log : List (CacheCall × CacheAnswer)) : List Nat :=
  log.filterMap fun entry =>
    match entry.2 with
    | .found _ => none
    | .filled slot => some slot

/-- How `process_received_packet` uses the cache: the clock does not go back, and an
entry is inserted right after a lookup for its sender and number that found nothing. -/
structure Disciplined (calls : List CacheCall) : Prop where
  chronological : (readings calls).Pairwise (· ≤ ·)
  missed : ∀ before sourceMac message status now after,
    calls = before ++ .insert sourceMac message status now :: after →
      ∃ earlier clock, before = earlier ++ [.find clock sourceMac message.sequenceNumber] ∧
        (findCachedRequest clock sourceMac message.sequenceNumber
          (run cacheStep {} earlier)).2 = none

theorem disciplined_front {calls : List CacheCall} {call : CacheCall}
    (disciplined : Disciplined (calls ++ [call])) : Disciplined calls := by
  obtain ⟨chronological, missed⟩ := disciplined
  constructor
  · rw [readings, List.flatMap_append] at chronological
    exact (List.pairwise_append.mp chronological).1
  · intro before sourceMac message status now after split
    apply missed before sourceMac message status now (after ++ [call])
    rw [split, List.append_assoc, List.cons_append]

section Count

variable (clock : Nat → Int) (wanted : Mac) (number : UInt16)

theorem matches_of_expire (now : Int) (entry : CachedRequest)
    (found : matchesRequest wanted number (expire now entry) = true) :
    matchesRequest wanted number entry = true := by
  obtain ⟨live, _⟩ := (matches_expire now wanted number entry).mp found
  rw [expire_of_live now entry live] at found
  exact found

/-- A lookup for anything makes no entry valid. -/
theorem scanEntries_count (sourceMac : Mac) (sequenceNumber : UInt16) (index : Nat)
    (entries : List CachedRequest) :
    (scanEntries clock sourceMac sequenceNumber index entries).1.countP
        (matchesRequest wanted number) ≤ entries.countP (matchesRequest wanted number) := by
  induction entries generalizing index with
  | nil => exact Nat.le_refl 0
  | cons entry rest ih =>
      have first := matches_of_expire wanted number (clock index) entry
      have later := ih (index + 1)
      unfold scanEntries
      dsimp only
      split
      · simp only [List.countP_cons]
        split
        · rename_i found
          simp only [first found, ↓reduceIte, Nat.le_refl]
        · omega
      · simp only [List.countP_cons]
        split
        · rename_i found
          rw [if_pos (first found)]
          omega
        · omega

/-- After a lookup that found nothing no valid entry is for what was looked up. -/
theorem scanEntries_missed (index : Nat) (entries : List CachedRequest)
    (missed : (scanEntries clock wanted number index entries).2 = none) :
    (scanEntries clock wanted number index entries).1.countP (matchesRequest wanted number) = 0 := by
  induction entries generalizing index with
  | nil => rfl
  | cons entry rest ih =>
      unfold scanEntries at missed ⊢
      dsimp only at missed ⊢
      split at missed
      · cases missed
      · rename_i other
        rw [if_neg other, List.countP_cons, if_neg other]
        exact ih (index + 1) missed

/-- Filling a slot when no valid entry is for the new entry's sender and number. -/
theorem cacheRequest_count (cache : RequestCache) (inside : cache.nextEntry < requestCacheSize)
    {sourceMac : Mac} {message : Message} {status : AcknowledgementStatus} {now : Int}
    (missed : cache.entries.countP (matchesRequest sourceMac message.sequenceNumber) = 0)
    (single : cache.entries.countP (matchesRequest wanted number) ≤ 1) :
    (cacheRequest (cachedRequest sourceMac message status now) cache).entries.countP
      (matchesRequest wanted number) ≤ 1 := by
  change (cache.entries.set cache.nextEntry _).countP _ ≤ 1
  rw [List.countP_set (by rw [cache.size]; exact inside)]
  by_cases key : sourceMac = wanted ∧ message.sequenceNumber = number
  · rw [← key.1, ← key.2, missed, Nat.zero_sub, Nat.zero_add]
    split
    · exact Nat.le_refl 1
    · exact Nat.zero_le 1
  · have other : ¬ matchesRequest wanted number (cachedRequest sourceMac message status now) = true := by
      intro found
      simp only [matchesRequest, cachedRequest, Bool.and_eq_true, beq_iff_eq] at found
      exact key ⟨found.2, found.1.2⟩
    rw [if_neg other]
    omega

end Count

/-- What the calls so far say about the cache. -/
structure Ringed (calls : List CacheCall) (cache : RequestCache) : Prop where
  filled : filledSlots (history cacheStep {} calls) =
    CyclicStore.filled requestCacheSize (inserted calls).length
  tracks : ∀ now, (∀ reading ∈ readings calls, reading ≤ now) → Tracks now (inserted calls) cache
  ordered : (inserted calls).Pairwise fun earlier later => earlier.cachedAtUs ≤ later.cachedAtUs
  read : ∀ entry ∈ inserted calls, entry.cachedAtUs ∈ readings calls
  single : ∀ sourceMac sequenceNumber,
    cache.entries.countP (matchesRequest sourceMac sequenceNumber) ≤ 1

theorem ringed_start : Ringed [] {} := by
  refine ⟨rfl, fun now _ => tracks_empty now, List.Pairwise.nil, fun entry member => ?_, ?_⟩
  · cases member
  · intro sourceMac sequenceNumber
    rw [List.countP_replicate, if_neg]
    · exact Nat.zero_le 1
    · simp [matchesRequest]

section Step

variable {calls : List CacheCall} {call : CacheCall} {cache : RequestCache}

theorem readings_snoc : readings (calls ++ [call]) = readings calls ++ call.readings := by
  rw [readings, List.flatMap_append, List.flatMap_singleton]
  rfl

theorem inserted_snoc : inserted (calls ++ [call]) = inserted calls ++ call.inserted.toList := by
  rw [inserted, List.filterMap_append]
  cases made : call.inserted with
  | none => simp [made, inserted]
  | some entry => simp [made, inserted]

theorem filledSlots_snoc : filledSlots (history cacheStep {} (calls ++ [call])) =
    filledSlots (history cacheStep {} calls) ++
      filledSlots [(call, (cacheStep (run cacheStep {} calls) call).2)] := by
  rw [Reactive.history_snoc]
  exact List.filterMap_append

theorem ringed_find {clock : Nat → Int} {sourceMac : Mac} {sequenceNumber : UInt16}
    (ringed : Ringed calls cache)
    (chronological : (readings (calls ++ [.find clock sourceMac sequenceNumber])).Pairwise (· ≤ ·)) :
    Ringed (calls ++ [.find clock sourceMac sequenceNumber])
      (findCachedRequest clock sourceMac sequenceNumber cache).1 := by
  have same : inserted (calls ++ [.find clock sourceMac sequenceNumber]) = inserted calls := by
    rw [inserted_snoc]
    exact List.append_nil _
  rw [readings_snoc] at chronological
  obtain ⟨_, sorted, later⟩ := List.pairwise_append.mp chronological
  have taken : ∀ j, j < requestCacheSize →
      clock j ∈ (CacheCall.find clock sourceMac sequenceNumber).readings :=
    fun j inside => List.mem_map.mpr ⟨j, List.mem_range.mpr inside, rfl⟩
  refine ⟨?_, ?_, ?_, ?_, ?_⟩
  · rw [filledSlots_snoc, same, ringed.filled]
    exact List.append_nil _
  · intro now bounds
    rw [readings_snoc] at bounds
    rw [same]
    have start := ringed.tracks (clock 0)
      (fun reading member => later reading member (clock 0) (taken 0 (by decide)))
    refine start.find ?_ ?_ sourceMac sequenceNumber
    · intro j inside
      rcases Nat.eq_zero_or_pos j with rfl | positive
      · exact Int.le_refl _
      · have order := List.pairwise_map.mp sorted
        have apart := List.pairwise_iff_getElem.mp order 0 j (by simp) (by simpa using inside) positive
        simpa using apart
    · intro j inside
      exact bounds _ (List.mem_append_right _ (taken j inside))
  · rw [same]
    exact ringed.ordered
  · intro entry member
    rw [same] at member
    rw [readings_snoc]
    exact List.mem_append_left _ (ringed.read entry member)
  · intro wanted number
    exact Nat.le_trans (scanEntries_count clock wanted number sourceMac sequenceNumber 0 cache.entries)
      (ringed.single wanted number)

theorem ringed_insert {sourceMac : Mac} {message : Message} {status : AcknowledgementStatus}
    {now : Int} (ringed : Ringed calls cache) (reached : cache = run cacheStep {} calls)
    (chronological : (readings (calls ++ [.insert sourceMac message status now])).Pairwise (· ≤ ·))
    (missed : cache.entries.countP (matchesRequest sourceMac message.sequenceNumber) = 0) :
    Ringed (calls ++ [.insert sourceMac message status now])
      (cacheRequest (cachedRequest sourceMac message status now) cache) := by
  have more : inserted (calls ++ [.insert sourceMac message status now]) =
      inserted calls ++ [cachedRequest sourceMac message status now] := inserted_snoc
  rw [readings_snoc] at chronological
  have last : ∀ reading ∈ readings calls, reading ≤ now := fun reading member =>
    (List.pairwise_append.mp chronological).2.2 reading member now (List.mem_singleton.mpr rfl)
  have next := (ringed.tracks now last).next
  refine ⟨?_, ?_, ?_, ?_, ?_⟩
  · rw [filledSlots_snoc, more, ringed.filled, ← reached, List.length_append, List.length_singleton,
      CyclicStore.filled_succ, ← next]
    rfl
  · intro time bounds
    rw [readings_snoc] at bounds
    rw [more]
    exact (ringed.tracks time fun reading member =>
      bounds reading (List.mem_append_left _ member)).insert rfl
  · rw [more, List.pairwise_append]
    refine ⟨ringed.ordered, List.pairwise_singleton _ _, ?_⟩
    intro entry member added inserted
    rw [List.mem_singleton.mp inserted]
    exact last _ (ringed.read entry member)
  · intro entry member
    rw [more] at member
    rw [readings_snoc]
    rcases List.mem_append.mp member with old | added
    · exact List.mem_append_left _ (ringed.read entry old)
    · rw [List.mem_singleton.mp added]
      exact List.mem_concat_self
  · intro wanted number
    have inside : cache.nextEntry < requestCacheSize := by
      rw [next]
      exact Nat.mod_lt _ (by decide)
    exact cacheRequest_count wanted number cache inside missed (ringed.single wanted number)

end Step

theorem ringed_run (calls : List CacheCall) (disciplined : Disciplined calls) :
    Ringed calls (run cacheStep {} calls) := by
  apply Reactive.legal_induction cacheStep Disciplined Ringed {} ringed_start
  · exact fun calls call => disciplined_front
  · intro calls call legal ringed
    cases call with
    | find clock sourceMac sequenceNumber => exact ringed_find ringed legal.chronological
    | insert sourceMac message status now =>
        obtain ⟨earlier, clock, split, missed⟩ := legal.missed calls sourceMac message status now [] rfl
        apply ringed_insert ringed rfl legal.chronological
        rw [split, Reactive.run_append]
        exact scanEntries_missed clock sourceMac message.sequenceNumber 0 _ missed
  · exact disciplined

/-- While the slot to be filled next still holds a young entry, every slot holds a
valid one that is no older. -/
theorem Ringed.full {calls : List CacheCall} {cache : RequestCache} (ringed : Ringed calls cache)
    {now : Int} (bounds : ∀ reading ∈ readings calls, reading ≤ now) {oldest : CachedRequest}
    (used : cache.nextEntry ∈ filledSlots (history cacheStep {} calls))
    (next : cache.entries[cache.nextEntry]? = some oldest)
    (young : now - oldest.cachedAtUs ≤ requestCacheLifetimeUs) (slot : Nat)
    (inside : slot < requestCacheSize) :
    slot ∈ filledSlots (history cacheStep {} calls) ∧
      ∃ entry, cache.entries[slot]? = some entry ∧ entry.valid = true ∧
        now - entry.cachedAtUs ≤ requestCacheLifetimeUs := by
  have tracks := ringed.tracks now bounds
  have turned := tracks.next
  rw [ringed.filled, CyclicStore.mem_filled (by decide)] at used ⊢
  -- a slot that was filled before its first turn comes round has been filled a turn ago
  have round : requestCacheSize ≤ (inserted calls).length := by
    by_contra short
    rw [turned, Nat.mod_eq_of_lt (Nat.lt_of_not_le short)] at used
    omega
  refine ⟨⟨inside, by omega⟩, ?_⟩
  obtain ⟨first, shown, past, found, stands⟩ := tracks.ring.turn 0 (by decide) round
  rw [Nat.add_zero, ← turned, next, Option.some.injEq] at found
  subst shown
  have firstYoung : now - first.cachedAtUs ≤ requestCacheLifetimeUs := by
    rw [← stands.cachedAtUs]
    exact young
  obtain ⟨offset, below, place⟩ := CyclicStore.exists_offset (inserted calls).length inside
  obtain ⟨item, entry, past', found', stands'⟩ := tracks.ring.turn offset below (by omega)
  rw [place] at found'
  have order : first.cachedAtUs ≤ item.cachedAtUs := by
    rcases Nat.eq_zero_or_pos offset with rfl | positive
    · rw [past, Option.some.injEq] at past'
      rw [past']
    · exact CyclicStore.pairwise_getElem? ringed.ordered past past' (by omega)
  have itemYoung : now - item.cachedAtUs ≤ requestCacheLifetimeUs := by omega
  have same := stands'.of_live (Int.le_refl now) itemYoung
  subst same
  exact ⟨entry, found', stands'.1, itemYoung⟩

variable {σ : Type}

/-- The calls made on the cache while one packet is processed. -/
def packetCalls (state : State σ) (arrival : Arrival) : List CacheCall :=
  match receivedMessage state.txu01Mac arrival with
  | none => []
  | some message =>
      if acknowledgementRequested message then
        .find arrival.clock.lookup arrival.packet.sourceMac message.sequenceNumber ::
          match (lookup state arrival message).2 with
          | some _ => []
          | none =>
              [.insert arrival.packet.sourceMac message
                (mapAckStatus (processMessage message state.gateway state.context).result)
                arrival.clock.cached]
      else []

def logCalls : State σ → List Arrival → List CacheCall
  | _, [] => []
  | state, arrival :: rest =>
      packetCalls state arrival ++ logCalls (processReceivedPacket state arrival).1 rest

/-- The calls of one packet: none, a lookup, or a lookup that finds nothing and the
insertion that follows. -/
inductive PacketCalls (state : State σ) (arrival : Arrival) : List CacheCall → Prop where
  | none : PacketCalls state arrival []
  | find (sourceMac : Mac) (sequenceNumber : UInt16) :
      PacketCalls state arrival [.find arrival.clock.lookup sourceMac sequenceNumber]
  | insert (sourceMac : Mac) (message : Message) (status : AcknowledgementStatus)
      (missed : (findCachedRequest arrival.clock.lookup sourceMac message.sequenceNumber
        state.cache).2 = Option.none) :
      PacketCalls state arrival
        [.find arrival.clock.lookup sourceMac message.sequenceNumber,
          .insert sourceMac message status arrival.clock.cached]

theorem packetCalls_shape (state : State σ) (arrival : Arrival) :
    PacketCalls state arrival (packetCalls state arrival) := by
  unfold packetCalls
  split
  · exact .none
  · rename_i message _
    split
    · split
      · exact .find _ _
      · rename_i missed
        exact .insert _ message _ missed
    · exact .none

/-- These are all the calls: they leave the cache as the processing does. -/
theorem packet_cache (state : State σ) (arrival : Arrival) :
    run cacheStep state.cache (packetCalls state arrival) =
      (processReceivedPacket state arrival).1.cache := by
  unfold packetCalls
  cases received : receivedMessage state.txu01Mac arrival with
  | none =>
      rw [process_ignored state arrival received]
      rfl
  | some message =>
      cases requested : acknowledgementRequested message with
      | false =>
          rw [process_plain received requested]
          simp [executeMessage, requested]
      | true =>
          cases found : (lookup state arrival message).2 with
          | some cached =>
              rw [process_cached received requested cached found]
              simp only [requested, ↓reduceIte, found]
              rfl
          | none =>
              rw [process_fresh received requested found]
              simp only [requested, ↓reduceIte, found, executeMessage]
              rfl

theorem log_cache (state : State σ) (log : List Arrival) :
    run cacheStep state.cache (logCalls state log) =
      (run processReceivedPacket state log).cache := by
  induction log generalizing state with
  | nil => rfl
  | cons arrival rest ih =>
      rw [logCalls, Reactive.run_append, packet_cache, ih]
      rfl

theorem logCalls_snoc (state : State σ) (log : List Arrival) (arrival : Arrival) :
    logCalls state (log ++ [arrival]) =
      logCalls state log ++ packetCalls (run processReceivedPacket state log) arrival := by
  induction log generalizing state with
  | nil => exact List.append_nil _
  | cons first rest ih =>
      rw [List.cons_append, logCalls, logCalls, ih, List.append_assoc]
      rfl

section Discipline

variable {calls : List CacheCall} {call : CacheCall}

theorem disciplined_snoc (disciplined : Disciplined calls)
    (chronological : (readings (calls ++ [call])).Pairwise (· ≤ ·))
    (missed : ∀ sourceMac message status now, call = .insert sourceMac message status now →
      ∃ earlier clock, calls = earlier ++ [.find clock sourceMac message.sequenceNumber] ∧
        (findCachedRequest clock sourceMac message.sequenceNumber
          (run cacheStep {} earlier)).2 = none) :
    Disciplined (calls ++ [call]) := by
  refine ⟨chronological, ?_⟩
  intro before sourceMac message status now after split
  rcases List.eq_nil_or_concat after with rfl | ⟨rest, last, rfl⟩
  · obtain ⟨rfl, added⟩ := List.append_inj' split rfl
    exact missed sourceMac message status now (List.singleton_inj.mp added)
  · rw [List.concat_eq_append, ← List.cons_append, ← List.append_assoc] at split
    exact disciplined.missed before sourceMac message status now rest (List.append_inj' split rfl).1

theorem find_readings {clock : Clock} (monotone : clock.Monotone) (sourceMac : Mac)
    (sequenceNumber : UInt16) :
    let taken := (CacheCall.find clock.lookup sourceMac sequenceNumber).readings
    taken.Pairwise (· ≤ ·) ∧ ∀ reading ∈ taken, clock.lookup 0 ≤ reading ∧ reading ≤ clock.cached := by
  constructor
  · apply List.pairwise_map.mpr
    apply List.pairwise_lt_range.imp_of_mem
    intro i j _ inside order
    exact monotone.lookup i j (Nat.le_of_lt order) (List.mem_range.mp inside)
  · intro reading member
    obtain ⟨j, inside, rfl⟩ := List.mem_map.mp member
    have below := List.mem_range.mp inside
    exact ⟨monotone.lookup 0 j (Nat.zero_le j) below, monotone.cached j below⟩

/-- A lookup at the readings of a later packet. -/
theorem find_disciplined {clock : Clock} (disciplined : Disciplined calls)
    (monotone : clock.Monotone) (earlier : ∀ reading ∈ readings calls, reading ≤ clock.lookup 0)
    (sourceMac : Mac) (sequenceNumber : UInt16) :
    let more := calls ++ [.find clock.lookup sourceMac sequenceNumber]
    Disciplined more ∧ ∀ reading ∈ readings more, reading ≤ clock.cached := by
  obtain ⟨sorted, between⟩ := find_readings monotone sourceMac sequenceNumber
  constructor
  · refine disciplined_snoc disciplined ?_ (fun _ _ _ _ made => by cases made)
    rw [readings_snoc, List.pairwise_append]
    refine ⟨disciplined.chronological, sorted, ?_⟩
    intro old before new taken
    exact Int.le_trans (earlier old before) (between new taken).1
  · intro reading member
    rw [readings_snoc] at member
    rcases List.mem_append.mp member with before | taken
    · exact Int.le_trans (earlier reading before) (monotone.cached 0 (by decide))
    · exact (between reading taken).2

end Discipline

/-- The calls of one packet keep the discipline and end at the packet's last reading. -/
theorem packet_disciplined {state : State σ} {arrival : Arrival} {calls added : List CacheCall}
    (disciplined : Disciplined calls) (reached : state.cache = run cacheStep {} calls)
    (monotone : arrival.clock.Monotone)
    (earlier : ∀ reading ∈ readings calls, reading ≤ arrival.clock.lookup 0)
    (packet : PacketCalls state arrival added) :
    Disciplined (calls ++ added) ∧
      ∀ reading ∈ readings (calls ++ added), reading ≤ arrival.clock.cached := by
  cases packet with
  | none =>
      rw [List.append_nil]
      exact ⟨disciplined, fun reading member =>
        Int.le_trans (earlier reading member) (monotone.cached 0 (by decide))⟩
  | find sourceMac sequenceNumber =>
      exact find_disciplined disciplined monotone earlier sourceMac sequenceNumber
  | insert sourceMac message status missed =>
      obtain ⟨found, bounds⟩ :=
        find_disciplined disciplined monotone earlier sourceMac message.sequenceNumber
      rw [List.append_cons]
      constructor
      · refine disciplined_snoc found ?_ ?_
        · rw [readings_snoc, List.pairwise_append]
          refine ⟨found.chronological, List.pairwise_singleton _ _, ?_⟩
          intro old before new taken
          rw [List.mem_singleton.mp taken]
          exact bounds old before
        · rintro _ _ _ _ ⟨⟩
          refine ⟨calls, arrival.clock.lookup, rfl, ?_⟩
          rw [← reached]
          exact missed
      · intro reading member
        rw [readings_snoc] at member
        rcases List.mem_append.mp member with before | taken
        · exact bounds reading before
        · rw [List.mem_singleton.mp taken]

/-- What the processing of packets asks of its cache is disciplined. -/
theorem log_disciplined (start : State σ) (empty : start.cache = {}) (log : List Arrival)
    (chronological : Chronological log) :
    Disciplined (logCalls start log) ∧ ∀ time, (∀ arrival ∈ log, arrival.clock.cached ≤ time) →
      ∀ reading ∈ readings (logCalls start log), reading ≤ time := by
  induction log using List.reverseRecOn with
  | nil =>
      refine ⟨⟨List.Pairwise.nil, ?_⟩, fun time _ reading member => by cases member⟩
      intro before sourceMac message status now after split
      cases before <;> cases split
  | append_singleton log arrival ih =>
      obtain ⟨monotone, order⟩ := chronological
      obtain ⟨sorted, _, last⟩ := List.pairwise_append.mp order
      have before : Chronological log :=
        ⟨fun earlier member => monotone earlier (List.mem_append_left _ member), sorted⟩
      obtain ⟨disciplined, bounds⟩ := ih before
      have reached := log_cache start log
      rw [empty] at reached
      obtain ⟨more, latest⟩ := packet_disciplined disciplined reached.symm
        (monotone arrival List.mem_concat_self)
        (bounds (arrival.clock.lookup 0) fun earlier member =>
          last earlier member arrival (List.mem_singleton.mpr rfl))
        (packetCalls_shape (run processReceivedPacket start log) arrival)
      rw [logCalls_snoc]
      refine ⟨more, fun time past reading member => ?_⟩
      exact Int.le_trans (latest reading member)
        (past arrival List.mem_concat_self)

/-- After any calls the processing of packets can make: the next slot is inside the
table; read from it on, the table shows its never used slots and then entries from
the oldest to the youngest; no sender and number has two valid entries; and the next
slot holds an entry of at most five seconds only if all slots do. -/
theorem cache_ring (calls : List CacheCall) (disciplined : Disciplined calls) :
    let cache := run cacheStep {} calls
    let filled := filledSlots (history cacheStep {} calls)
    cache.nextEntry < requestCacheSize ∧
      (∃ fresh used, CyclicStore.fromNext requestCacheSize cache.nextEntry = fresh ++ used ∧
        (∀ slot ∈ fresh, slot ∉ filled) ∧ (∀ slot ∈ used, slot ∈ filled) ∧
        used.Pairwise fun slot slot' => ∀ entry entry', cache.entries[slot]? = some entry →
          cache.entries[slot']? = some entry' → entry.cachedAtUs ≤ entry'.cachedAtUs) ∧
      (∀ sourceMac sequenceNumber,
        cache.entries.countP (matchesRequest sourceMac sequenceNumber) ≤ 1) ∧
      ∀ now oldest, (∀ reading ∈ readings calls, reading ≤ now) → cache.nextEntry ∈ filled →
        cache.entries[cache.nextEntry]? = some oldest →
        now - oldest.cachedAtUs ≤ requestCacheLifetimeUs →
        ∀ slot < requestCacheSize, slot ∈ filled ∧
          ∃ entry, cache.entries[slot]? = some entry ∧ entry.valid = true ∧
            now - entry.cachedAtUs ≤ requestCacheLifetimeUs := by
  intro cache filled
  have ringed : Ringed calls cache := ringed_run calls disciplined
  obtain ⟨time, bounds⟩ := (readings calls).toFinset.exists_le
  have tracks := ringed.tracks time fun reading member => bounds reading (List.mem_toFinset.mpr member)
  refine ⟨?_, ?_, ringed.single, fun now oldest bounds used next young slot inside =>
    ringed.full bounds used next young slot inside⟩
  · rw [tracks.next]
    exact Nat.mod_lt _ (by decide)
  · have slots : filled = CyclicStore.filled requestCacheSize (inserted calls).length := ringed.filled
    rw [tracks.next, slots]
    apply tracks.ring.oldest_first (by decide) ringed.ordered
    intro first second slot slot' order stands stands'
    rw [stands.cachedAtUs, stands'.cachedAtUs]
    exact order

/-- `versionRequest` under another number, every clock reading taken at `now`. -/
def numberedArrival (number : UInt16) (now : Int) : Arrival :=
  ⟨EspNowDriver.ReceivedPacket.carrying sampleMac
      { versionRequest with sequenceNumber := number }.wire,
    ⟨fun _ => now, now⟩⟩

/-- Eighteen requests, so that the ring has wrapped around. -/
def numberedArrivals : List Arrival :=
  (List.range 18).map fun k => numberedArrival (UInt16.ofNat k) (10 * k)

theorem cache_ring_wrapped :
    let cache := run cacheStep {} (logCalls sampleState numberedArrivals)
    cache.nextEntry = 2 ∧ ∀ slot < requestCacheSize, ∃ entry, cache.entries[slot]? = some entry ∧
      entry.valid = true ∧ 170 - entry.cachedAtUs ≤ requestCacheLifetimeUs := by
  have chronological : Chronological numberedArrivals := by
    apply instants_chronological
    · intro arrival member
      obtain ⟨k, _, rfl⟩ := List.mem_map.mp member
      rfl
    · decide
  obtain ⟨disciplined, bounds⟩ := log_disciplined sampleState rfl numberedArrivals chronological
  obtain ⟨_, _, _, evicts⟩ := cache_ring _ disciplined
  dsimp only at evicts ⊢
  have next : (run cacheStep {} (logCalls sampleState numberedArrivals)).nextEntry = 2 := by
    decide +kernel
  have oldest : ((run cacheStep {} (logCalls sampleState numberedArrivals)).entries[2]?).map
      CachedRequest.cachedAtUs = some 20 := by
    decide +kernel
  have used : 2 ∈ filledSlots (history cacheStep {} (logCalls sampleState numberedArrivals)) := by
    decide +kernel
  obtain ⟨entry, present, made⟩ := Option.map_eq_some_iff.mp oldest
  refine ⟨next, fun slot inside => ?_⟩
  rw [next] at evicts
  have young : 170 - entry.cachedAtUs ≤ requestCacheLifetimeUs := by
    rw [made]
    decide
  exact (evicts 170 entry (bounds 170 (by decide)) used present young slot inside).2

end Application
