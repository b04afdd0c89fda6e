import Rxu01.CanManager
import Rxu01.Mcp2515Configured

set_option autoImplicit false

/- What `begin` does on the bus whatever answers there: it writes filters, masks and bit
timing only right after a confirmation, and it ends within a fixed number of accesses. -/
namespace Mcp2515

open Peripheral (Environment Exchange World exchange wait)

variable {δ : Type}

/-- The transaction writes to a register that is written in configuration mode only. -/
def configures (sent : List UInt8) : Bool :=
  match sent with
  | instruction :: address :: arguments =>
      let count := if instruction = instructionWrite then arguments.length
        else if instruction = instructionBitmod then 1 else 0
      (List.range count).any (fun offset => configurable (address.toNat + offset))
  | _ => false

/-- A read of `CANSTAT` that got through and was answered with this mode. -/
def Shows (mode : UInt8) (entry : Exchange δ) : Prop :=
  entry.delivered = true ∧ entry.sent = [instructionRead, canstat, 0x00] ∧
    entry.received.getD 2 0 &&& canstatOpmod = mode

instance (mode : UInt8) (entry : Exchange δ) : Decidable (Shows mode entry) :=
  inferInstanceAs (Decidable (_ ∧ _ ∧ _))

/-- Configuration mode is confirmed after this transaction: it was confirmed by it, or
before it and it was a write of the configuration. -/
def confirmedAfter (confirmed : Bool) (entry : Exchange δ) : Bool :=
  decide (Shows canctrlReqopConfig entry) || (configures entry.sent && confirmed)

/-- Each write of the configuration follows a confirmation directly, with only such
writes in between. -/
def Guarded : Bool → List (Exchange δ) → Prop
  | _, [] => True
  | confirmed, entry :: rest =>
      (configures entry.sent = true → confirmed = true) ∧
        Guarded (confirmedAfter confirmed entry) rest

theorem guarded_append (confirmed : Bool) (first second : List (Exchange δ)) :
    Guarded confirmed (first ++ second) ↔
      Guarded confirmed first ∧ Guarded (first.foldl confirmedAfter confirmed) second := by
  induction first generalizing confirmed with
  | nil => simp [Guarded]
  | cons entry rest ih => simp only [List.cons_append, Guarded, List.foldl_cons, ih, and_assoc]

/-- What a call did: this many accesses, guarded if the mode was confirmed before as
given, and the mode is confirmed after it if `after` says so. -/
structure Steps (count : Nat) (confirmed : Bool) (before : World δ) (after : Bool)
    (last : World δ) : Prop where
  accesses : last.accesses ≤ before.accesses + count
  record : ∃ entries, last.exchanges = before.exchanges ++ entries ∧ Guarded confirmed entries ∧
    (after = true → entries.foldl confirmedAfter confirmed = true)

section Steps

variable {first second third : World δ} {m n : Nat} {confirmed middle after : Bool}

theorem Steps.refl (world : World δ) (confirmed : Bool) :
    Steps 0 confirmed world confirmed world :=
  { accesses := Nat.le_refl _
    record := ⟨[], by simp, trivial, fun same => same⟩ }

theorem Steps.forget (steps : Steps m confirmed first middle second) :
    Steps m confirmed first false second :=
  { accesses := steps.accesses
    record := by
      obtain ⟨entries, grown, guarded, _⟩ := steps.record
      exact ⟨entries, grown, guarded, fun never => absurd never (by decide)⟩ }

theorem Steps.longer (steps : Steps m confirmed first middle second) (fewer : m ≤ n) :
    Steps n confirmed first middle second :=
  { accesses := by
      have bound := steps.accesses
      omega
    record := steps.record }

/-- More confirmed is no worse. -/
theorem guarded_mono {weak strong : Bool} {entries : List (Exchange δ)}
    (stronger : weak = true → strong = true) (guarded : Guarded weak entries) :
    Guarded strong entries ∧ (entries.foldl confirmedAfter weak = true →
      entries.foldl confirmedAfter strong = true) := by
  induction entries generalizing weak strong with
  | nil => exact ⟨trivial, stronger⟩
  | cons entry rest ih =>
      have next : confirmedAfter weak entry = true → confirmedAfter strong entry = true := by
        unfold confirmedAfter
        intro confirmed
        rcases Bool.or_eq_true_iff.mp confirmed with seen | kept
        · rw [seen]
          rfl
        · rw [Bool.and_eq_true] at kept
          rw [kept.1, stronger kept.2, Bool.and_self, Bool.or_true]
      obtain ⟨guarded', kept⟩ := ih next guarded.2
      exact ⟨⟨fun writes => stronger (guarded.1 writes), guarded'⟩, kept⟩

theorem Steps.trans (start : Steps m confirmed first middle second)
    (rest : Steps n middle second after third) : Steps (m + n) confirmed first after third := by
  obtain ⟨bound, entries, grown, guarded, reached⟩ := start
  obtain ⟨bound', entries', grown', guarded', reached'⟩ := rest
  obtain ⟨later, kept⟩ := guarded_mono reached guarded'
  refine ⟨by omega, entries ++ entries', by rw [grown', grown, List.append_assoc], ?_, ?_⟩
  · exact (guarded_append confirmed entries entries').mpr ⟨guarded, later⟩
  · intro last
    rw [List.foldl_append]
    exact kept (reached' last)

variable (env : Environment δ)

theorem wait_steps (world : World δ) (confirmed : Bool) :
    Steps 1 confirmed world false (wait env world) :=
  { accesses := by
      unfold wait
      rw [Peripheral.elapse_accesses]
    record := ⟨[], by unfold wait; simp, trivial, fun never => absurd never (by decide)⟩ }

/-- One transaction that is no write of the configuration. -/
theorem exchange_steps {sent : List UInt8} (harmless : configures sent = false) (world : World δ)
    (confirmed : Bool) : Steps 1 confirmed world false (exchange env sent world).2 := by
  obtain ⟨entry, grown, same, _⟩ := Peripheral.exchange_recorded env world sent
  refine ⟨by rw [Peripheral.exchange_accesses], [entry], grown, ⟨?_, trivial⟩, ?_⟩
  · rw [same, harmless]
    intro never
    cases never
  · intro never
    cases never

/-- A write of the configuration, with the mode confirmed. -/
theorem exchange_configures {sent : List UInt8} (writes : configures sent = true)
    (world : World δ) : Steps 1 true world true (exchange env sent world).2 := by
  obtain ⟨entry, grown, same, _⟩ := Peripheral.exchange_recorded env world sent
  refine ⟨by rw [Peripheral.exchange_accesses], [entry], grown, ⟨fun _ => rfl, trivial⟩,
    fun _ => ?_⟩
  change confirmedAfter true entry = true
  unfold confirmedAfter
  rw [same, writes, Bool.and_self, Bool.or_true]

/-- What a read of `CANSTAT` returned is on record; a mode other than normal mode was
really shown. -/
theorem readRegister_shows (world : World δ) :
    ∃ entry, (readRegister env canstat world).2.exchanges = world.exchanges ++ [entry] ∧
      entry.sent = [instructionRead, canstat, 0x00] ∧
      entry.received.getD 2 0 = (readRegister env canstat world).1 ∧
      ∀ mode, mode ≠ 0 → (readRegister env canstat world).1 &&& canstatOpmod = mode →
        Shows mode entry := by
  obtain ⟨entry, grown, same, reached, received⟩ :=
    Peripheral.exchange_recorded env world [instructionRead, canstat, 0x00]
  refine ⟨entry, grown, same, by rw [received]; rfl, ?_⟩
  intro mode nonzero read
  refine ⟨?_, same, by rw [received]; exact read⟩
  rw [reached, ← Bool.not_eq_false]
  intro lost
  unfold readRegister at read
  rw [Peripheral.exchange_lost env world _ lost] at read
  change (0 : UInt8) &&& canstatOpmod = mode at read
  exact nonzero (read.symm.trans (by decide))

/-- Waiting for a mode; success confirms it, if it is configuration mode. -/
theorem awaitMode_steps (mode : UInt8) (tries : Nat) (world : World δ) (confirmed : Bool) :
    Steps (2 * tries) confirmed world
      (decide (mode = canctrlReqopConfig ∧ (awaitMode env mode tries world).1 = .ok))
      (awaitMode env mode tries world).2 := by
  induction tries generalizing world confirmed with
  | zero =>
      have failed : ¬ (mode = canctrlReqopConfig ∧ (awaitMode env mode 0 world).1 = .ok) := by
        rintro ⟨_, ok⟩
        cases ok
      rw [decide_eq_false failed]
      exact (Steps.refl world confirmed).forget
  | succ tries ih =>
      have read : Steps 1 confirmed world false (readRegister env canstat world).2 :=
        exchange_steps env rfl world confirmed
      unfold awaitMode
      dsimp only
      split
      · rename_i entered
        obtain ⟨entry, grown, same, _, confirms⟩ := readRegister_shows env world
        refine ⟨(read.longer (by omega)).accesses, [entry], grown, ⟨?_, trivial⟩, ?_⟩
        · rw [same]
          intro never
          cases never
        · intro config
          have config := of_decide_eq_true config
          change confirmedAfter confirmed entry = true
          unfold confirmedAfter
          rw [decide_eq_true (confirms canctrlReqopConfig (by decide) (config.1 ▸ entered))]
          rfl
      · have waited := read.trans (wait_steps env _ false)
        exact (waited.trans (ih _ false)).longer (by omega)

theorem setMode_steps (mode : UInt8) (world : World δ) (confirmed : Bool) :
    Steps 21 confirmed world
      (decide (mode = canctrlReqopConfig ∧ (setMode env mode world).1 = .ok))
      (setMode env mode world).2 := by
  have request : Steps 1 confirmed world false
      (modifyRegister env canctrl canctrlReqop mode world) :=
    exchange_steps env rfl world confirmed
  exact request.trans (awaitMode_steps env mode 10 _ false)

theorem setConfigMode_steps (world : World δ) (confirmed : Bool)
    (ok : (setConfigMode env world).1 = .ok) :
    Steps 21 confirmed world true (setConfigMode env world).2 := by
  have mode := setMode_steps env canctrlReqopConfig world confirmed
  rw [decide_eq_true ⟨rfl, ok⟩] at mode
  exact mode

theorem acceptance_configures (entry : Register × Bool) (member : entry ∈ acceptanceRegisters) :
    configures (instructionWrite :: entry.1 :: prepareId entry.2 0) = true := by
  have table : acceptanceRegisters.all (fun entry =>
      configures (instructionWrite :: entry.1 :: prepareId entry.2 0)) = true := by
    decide
  exact List.all_eq_true.mp table entry member

theorem setAcceptance_steps {entry : Register × Bool} (member : entry ∈ acceptanceRegisters)
    (world : World δ) (confirmed : Bool) :
    Steps 22 confirmed world false (setAcceptance env entry.1 entry.2 0 world).2 := by
  have mode := setMode_steps env canctrlReqopConfig world confirmed
  unfold setAcceptance
  dsimp only
  split
  · exact (mode.longer (by omega)).forget
  · rename_i reached
    rw [Decidable.not_not] at reached
    have mode := setConfigMode_steps env world confirmed reached
    exact (mode.trans (exchange_configures env (acceptance_configures entry member) _)).forget

theorem setAcceptances_steps (entries : List (Register × Bool))
    (known : ∀ entry ∈ entries, entry ∈ acceptanceRegisters) (world : World δ) (confirmed : Bool) :
    Steps (22 * entries.length) confirmed world false (setAcceptances env entries world).2 := by
  induction entries generalizing world confirmed with
  | nil => exact (Steps.refl world confirmed).forget
  | cons entry rest ih =>
      have first := setAcceptance_steps env (known entry List.mem_cons_self) world confirmed
      rw [List.length_cons]
      unfold setAcceptances
      dsimp only
      split
      · exact first.longer (by omega)
      · have later := ih (fun other member => known other (List.mem_cons_of_mem _ member))
          (setAcceptance env entry.1 entry.2 0 world).2 false
        exact (first.trans later).longer (by omega)

/-- A write or a change of one register outside the configuration. -/
theorem setRegister_steps (register : Register) (value : UInt8)
    (harmless : configurable register.toNat = false) (world : World δ) :
    Steps 1 false world false (setRegister env register value world) := by
  have count : configures [instructionWrite, register, value] =
      (List.range 1).any (fun offset => configurable (register.toNat + offset)) := rfl
  exact exchange_steps env (by simp [count, harmless]) world false

theorem modifyRegister_steps (register : Register) (mask data : UInt8)
    (harmless : configurable register.toNat = false) (world : World δ) :
    Steps 1 false world false (modifyRegister env register mask data world) := by
  have count : configures [instructionBitmod, register, mask, data] =
      (List.range 1).any (fun offset => configurable (register.toNat + offset)) := rfl
  exact exchange_steps env (by simp [count, harmless]) world false

theorem setRegisters_steps (txbn : TxBuffer) (world : World δ) :
    Steps 1 false world false (setRegisters env txbn.ctrl (List.replicate 14 0) world) :=
  exchange_steps env (by cases txbn <;> decide) world false

theorem reset_steps (world : World δ) (confirmed : Bool) :
    Steps 186 confirmed world false (reset env world).2 := by
  have restart : Steps 1 confirmed world false (exchange env [instructionReset] world).2 :=
    exchange_steps env rfl world confirmed
  have waited := restart.trans (wait_steps env _ false)
  have buffer0 := waited.trans (setRegisters_steps env .txb0 _)
  have buffer1 := buffer0.trans (setRegisters_steps env .txb1 _)
  have buffer2 := buffer1.trans (setRegisters_steps env .txb2 _)
  have control0 := buffer2.trans (setRegister_steps env rxb0Ctrl 0 rfl _)
  have control1 := control0.trans (setRegister_steps env rxb1Ctrl 0 rfl _)
  have interrupts := control1.trans (setRegister_steps env caninte
    (canintfRx0if ||| canintfRx1if ||| canintfErrif ||| canintfMerrf) rfl _)
  have mode0 := interrupts.trans (modifyRegister_steps env rxb0Ctrl
    (rxbnctrlRxmMask ||| rxb0ctrlBukt ||| rxb0ctrlFilhitMask)
    (rxbnctrlRxmStdext ||| rxb0ctrlBukt ||| rxb0ctrlFilhit) rfl _)
  have mode1 := mode0.trans (modifyRegister_steps env rxb1Ctrl
    (rxbnctrlRxmMask ||| rxb1ctrlFilhitMask) (rxbnctrlRxmStdext ||| rxb1ctrlFilhit) rfl _)
  exact mode1.trans (setAcceptances_steps env acceptanceRegisters (fun _ member => member) _ false)

theorem setBitrate_steps (canSpeed : CanSpeed) (canClock : CanClock) (world : World δ)
    (confirmed : Bool) :
    Steps 24 confirmed world false (setBitrate env canSpeed canClock world).2 := by
  have mode := setMode_steps env canctrlReqopConfig world confirmed
  unfold setBitrate
  dsimp only
  split
  · exact (mode.longer (by omega)).forget
  · rename_i reached
    rw [Decidable.not_not] at reached
    have mode := setConfigMode_steps env world confirmed reached
    split
    · rename_i cfg1 cfg2 cfg3 timing
      have first := mode.trans (exchange_configures env
        (show configures [instructionWrite, cnf1, cfg1] = true from rfl) _)
      have second := first.trans (exchange_configures env
        (show configures [instructionWrite, cnf2, cfg2] = true from rfl) _)
      exact (second.trans (exchange_configures env
        (show configures [instructionWrite, cnf3, cfg3] = true from rfl) _)).forget
    · exact (mode.longer (by omega)).forget

theorem awaitMode_last (mode : UInt8) (tries : Nat) (world : World δ)
    (ok : (awaitMode env mode tries world).1 = .ok) :
    ∃ front entry, (awaitMode env mode tries world).2.exchanges =
        world.exchanges ++ front ++ [entry] ∧
      entry.sent = [instructionRead, canstat, 0x00] ∧
      entry.received.getD 2 0 &&& canstatOpmod = mode ∧ (mode ≠ 0 → Shows mode entry) := by
  induction tries generalizing world with
  | zero => cases ok
  | succ tries ih =>
      obtain ⟨entry, grown, same, value, confirms⟩ := readRegister_shows env world
      unfold awaitMode at ok ⊢
      dsimp only at ok ⊢
      split
      · rename_i entered
        refine ⟨[], entry, by rw [grown, List.append_nil], same, by rw [value]; exact entered, ?_⟩
        exact fun nonzero => confirms mode nonzero entered
      · rename_i other
        rw [if_neg other] at ok
        obtain ⟨front, last, later, read⟩ := ih _ ok
        refine ⟨entry :: front, last, ?_, read⟩
        rw [later]
        unfold wait
        rw [Peripheral.elapse_exchanges, grown]
        simp

/-- Success of `setMode` is the last thing on record. -/
theorem setMode_last (mode : UInt8) (world : World δ) (ok : (setMode env mode world).1 = .ok) :
    ∃ front entry, (setMode env mode world).2.exchanges = world.exchanges ++ front ++ [entry] ∧
      entry.sent = [instructionRead, canstat, 0x00] ∧
      entry.received.getD 2 0 &&& canstatOpmod = mode ∧ (mode ≠ 0 → Shows mode entry) := by
  obtain ⟨request, grown, _⟩ :=
    (modifyRegister_steps env canctrl canctrlReqop mode rfl world).record
  obtain ⟨front, last, later, read⟩ := awaitMode_last env mode 10 _ ok
  refine ⟨request ++ front, last, ?_, read⟩
  change (awaitMode env mode 10 (modifyRegister env canctrl canctrlReqop mode world)).2.exchanges = _
  rw [later, grown]
  simp

theorem setBitrate_shows (canSpeed : CanSpeed) (canClock : CanClock) (world : World δ)
    (ok : (setBitrate env canSpeed canClock world).1 = .ok) :
    ∃ entries, (setBitrate env canSpeed canClock world).2.exchanges = world.exchanges ++ entries ∧
      ∃ shown ∈ entries, Shows canctrlReqopConfig shown := by
  have writes : ∀ (register : Register) (value : UInt8) (earlier : World δ), ∃ entry,
      (setRegister env register value earlier).exchanges = earlier.exchanges ++ [entry] := by
    intro register value earlier
    obtain ⟨entry, grown, _⟩ :=
      Peripheral.exchange_recorded env earlier [instructionWrite, register, value]
    exact ⟨entry, grown⟩
  unfold setBitrate at ok ⊢
  dsimp only at ok ⊢
  split
  · rename_i failed
    rw [if_pos failed] at ok
    exact absurd ok failed
  · rename_i reached
    rw [if_neg reached] at ok
    rw [Decidable.not_not] at reached
    obtain ⟨front, shown, grown, _, _, confirms⟩ :=
      setMode_last env canctrlReqopConfig world reached
    split
    · rename_i cfg1 cfg2 cfg3 timing
      obtain ⟨first, grown1⟩ := writes cnf1 cfg1 (setConfigMode env world).2
      obtain ⟨second, grown2⟩ :=
        writes cnf2 cfg2 (setRegister env cnf1 cfg1 (setConfigMode env world).2)
      obtain ⟨third, grown3⟩ := writes cnf3 cfg3
        (setRegister env cnf2 cfg2 (setRegister env cnf1 cfg1 (setConfigMode env world).2))
      refine ⟨front ++ [shown, first, second, third], ?_, shown, by simp, confirms (by decide)⟩
      rw [grown3, grown2, grown1]
      change (setMode env canctrlReqopConfig world).2.exchanges ++ _ ++ _ ++ _ = _
      rw [grown]
      simp
    · rename_i timing
      rw [timing] at ok
      cases ok

end Steps

end Mcp2515

namespace CanManager

open EspIdf (espFail espOk)
open Mcp2515 (Guarded Shows Steps canctrlReqopConfig canctrlReqopNormal canstat canstatOpmod
  confirmedAfter configures instructionRead)
open Peripheral (Environment Exchange World)

variable {δ : Type} (env : Environment δ)

theorem startDriver_steps (config : Config) (world : World δ) :
    Steps 231 false world false (startDriver env config world).2 := by
  have reset := Mcp2515.reset_steps env world false
  have bitrate := Mcp2515.setBitrate_steps env config.bitrate config.oscillator
    (Mcp2515.reset env world).2 false
  unfold startDriver
  dsimp only
  split
  · exact reset.longer (by omega)
  · split
    · exact (reset.trans bitrate).longer (by omega)
    · have normal := Mcp2515.setMode_steps env canctrlReqopNormal
        (Mcp2515.setBitrate env config.bitrate config.oscillator (Mcp2515.reset env world).2).2 false
      exact (((reset.trans bitrate).trans normal).longer (by omega)).forget

/-- A start that succeeds has seen configuration mode, and last of all normal mode. -/
theorem startDriver_modes (config : Config) (world : World δ)
    (started : (startDriver env config world).1 = true) :
    ∃ front entry, (startDriver env config world).2.exchanges =
        world.exchanges ++ front ++ [entry] ∧
      (∃ shown ∈ front, Shows canctrlReqopConfig shown) ∧
      entry.sent = [instructionRead, canstat, 0x00] ∧
      entry.received.getD 2 0 &&& canstatOpmod = canctrlReqopNormal := by
  obtain ⟨resets, grown, _⟩ := (Mcp2515.reset_steps env world false).record
  obtain ⟨_, bitrate, normal, same⟩ := startDriver_calls env started
  obtain ⟨entries, grown', shown, member, confirms⟩ :=
    Mcp2515.setBitrate_shows env config.bitrate config.oscillator _ bitrate
  obtain ⟨front, last, grown'', read⟩ :=
    Mcp2515.setMode_last env canctrlReqopNormal _ normal
  refine ⟨resets ++ entries ++ front, last, ?_, ⟨shown, ?_, confirms⟩, read.1, read.2.1⟩
  · rw [same]
    change (Mcp2515.setMode env canctrlReqopNormal _).2.exchanges = _
    rw [grown'', grown', grown]
    simp
  · simp [member]

/-- Whatever answers on the bus and whatever is lost: `begin` makes 231 accesses at most,
and writes filters, masks and bit timing only right after configuration mode was
confirmed. It succeeds only if configuration mode was shown, and reports normal mode
from the last thing it read. -/
theorem begin_guarded (spi : SpiSetup) (prior : Manager δ) :
    let after := (begin env spi prior).2
    after.world.accesses ≤ prior.world.accesses + 231 ∧
      ∃ entries, after.world.exchanges = prior.world.exchanges ++ entries ∧
        Guarded false entries ∧
        ((begin env spi prior).1 = espOk → prior.initialized = false →
          ∃ front entry, entries = front ++ [entry] ∧
            (∃ shown ∈ front, Shows canctrlReqopConfig shown) ∧
            entry.sent = [instructionRead, canstat, 0x00] ∧
            entry.received.getD 2 0 &&& canstatOpmod = canctrlReqopNormal) := by
  have steps := startDriver_steps env prior.config prior.world
  obtain ⟨entries, grown, guarded, _⟩ := steps.record
  dsimp only
  rw [begin_eq]
  split
  · rename_i running
    refine ⟨Nat.le_add_right _ _, [], by simp, trivial, ?_⟩
    intro _ fresh
    rw [fresh] at running
    cases running
  · split
    · rename_i failed
      exact ⟨Nat.le_add_right _ _, [], by simp, trivial, fun ok => absurd ok failed⟩
    · split
      · rename_i failed
        exact ⟨Nat.le_add_right _ _, [], by simp, trivial, fun ok => absurd ok failed⟩
      · dsimp only
        split
        · rename_i started
          refine ⟨steps.accesses, entries, grown, guarded, fun _ _ => ?_⟩
          obtain ⟨front, last, grown', modes⟩ :=
            startDriver_modes env prior.config prior.world started
          rw [grown, List.append_assoc] at grown'
          exact ⟨front, last, List.append_cancel_left grown', modes⟩
        · refine ⟨steps.accesses, entries, grown, guarded, ?_⟩
          intro ok
          exact absurd ok (show espFail ≠ espOk by decide)

end CanManager
