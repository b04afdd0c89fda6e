import Rxu01.CanManager
import Rxu01.Mcp2515ReceiveFrame
import Rxu01.Mcp2515Start

set_option autoImplicit false

/- What initialisation leaves in a chip that takes its configuration in configuration
mode only, and takes its time to change modes. -/
namespace Mcp2515

open Peripheral (Environment World elapse exchange)

/-- The registers that can be written in configuration mode only: filters, masks and
bit timing. -/
def configurable (register : Nat) : Bool :=
  register < 0x0C || (0x10 ≤ register && register < 0x1C) || (0x20 ≤ register && register < 0x2B)

/-- `execute` for a chip that guards its configuration. -/
def executeGuarded (onReset : Chip → Chip) (sent : List UInt8) (chip : Chip) : List UInt8 × Chip :=
  let answer := execute onReset sent chip
  if sent = [instructionReset] ∨ chip.mode = canctrlReqopConfig then answer
  else
    (answer.1,
      { answer.2 with
        registers := fun register =>
          if configurable register then chip.registers register else answer.2.registers register })

/-- A register whose bits under the mask have a value. -/
structure Setting where
  register : Nat
  mask : UInt8
  value : UInt8
  deriving DecidableEq, Repr

/-- The chip does not change these bits by itself. -/
def Setting.lasting (setting : Setting) : Bool :=
  configurable setting.register || setting.register == caninte.toNat ||
    (setting.register == rxb0Ctrl.toNat &&
      setting.mask &&& (rxbnctrlRxmMask ||| rxb0ctrlBukt) == setting.mask) ||
    (setting.register == rxb1Ctrl.toNat && setting.mask &&& rxbnctrlRxmMask == setting.mask)

def Chip.Has (chip : Chip) (setting : Setting) : Prop :=
  chip.registers setting.register &&& setting.mask = setting.value

/-- A step of the chip by itself: it keeps what the host configured, and enters no mode
but the one asked for. -/
structure Settles (before after : Chip) : Prop where
  configuration : ∀ setting : Setting, setting.lasting = true → before.Has setting →
    after.Has setting
  requested : after.requested = before.requested
  mode : after.mode = before.mode ∨ after.mode = before.requested

section Moves

theorem lasting_register {setting : Setting} (lasting : setting.lasting = true) :
    setting.register ≠ canstat.toNat ∧
      (setting.register < txb0Ctrl.toNat ∨ rxb0Ctrl.toNat ≤ setting.register) := by
  change setting.register ≠ 14 ∧ (setting.register < 48 ∨ 96 ≤ setting.register)
  simp only [Setting.lasting, configurable, Bool.or_eq_true, Bool.and_eq_true, decide_eq_true_eq,
    beq_iff_eq] at lasting
  change ((_ ∨ setting.register = 43) ∨ setting.register = 96 ∧ _) ∨ setting.register = 112 ∧ _
    at lasting
  omega

/-- A step that leaves the lasting registers, and the request, and moves at most to the
mode that was asked for. -/
theorem settles_of {before after : Chip}
    (same : ∀ register, register ≠ canstat.toNat →
      (register < txb0Ctrl.toNat ∨ rxb0Ctrl.toNat ≤ register) →
        after.registers register = before.registers register)
    (mode : after.mode = before.mode ∨ after.mode = before.requested) : Settles before after := by
  refine ⟨?_, ?_, mode⟩
  · intro setting lasting has
    obtain ⟨other, outside⟩ := lasting_register lasting
    unfold Chip.Has
    rw [same _ other outside]
    exact has
  · unfold Chip.requested
    rw [same _ (by decide) (Or.inl (by decide))]

theorem enterRequested_settles (chip : Chip) : Settles chip chip.enterRequested :=
  settles_of (fun _ other _ => enterRequested_other chip other) (Or.inr (enterRequested_mode chip))

theorem complete_settles (txbn : TxBuffer) (chip : Chip) :
    Settles chip (chip.act (.complete txbn)) := by
  have low : txb0Ctrl.toNat ≤ txbn.ctrl.toNat := by cases txbn <;> decide
  have high : txbn.ctrl.toNat < rxb0Ctrl.toNat := by cases txbn <;> decide
  have stat : canstat.toNat < txb0Ctrl.toNat := by decide
  unfold Chip.act
  dsimp only
  split
  · apply settles_of
    · intro register _ outside
      exact setRegister_other _ chip (by omega)
    · left
      unfold Chip.mode
      have kept : (chip.complete txbn).registers canstat.toNat = chip.registers canstat.toNat :=
        setRegister_other _ chip (by omega)
      rw [kept]
  · exact settles_of (fun _ _ _ => rfl) (Or.inl rfl)

end Moves

/-- The chip has these settings, and keeps them by itself. -/
def Holds (settings : List Setting) (chip : Chip) : Prop :=
  ∀ setting ∈ settings, setting.lasting = true ∧ chip.Has setting

/-- The mode was asked for. -/
def Asks (mode : UInt8) (chip : Chip) : Prop := chip.requested = mode

/-- The mode was asked for and the chip is in it. -/
def Enters (mode : UInt8) (chip : Chip) : Prop := chip.requested = mode ∧ chip.mode = mode

/-- The chip has these settings and is in configuration mode. -/
def Configuring (settings : List Setting) (chip : Chip) : Prop :=
  Holds settings chip ∧ Enters canctrlReqopConfig chip

/-- The chip behind a fault-free bus. -/
structure OnChip (onReset : Chip → Chip) (env : Environment Chip) : Prop where
  transact : env.transact = executeGuarded onReset
  delivered : ∀ access, env.delivered access = true
  moves : ∀ access, ∀ move ∈ env.moves access, ∀ chip, Settles chip (move chip)

section Stable

variable {before after : Chip} (settles : Settles before after) {settings : List Setting}
  {mode : UInt8}
include settles

theorem Settles.holds (holds : Holds settings before) : Holds settings after :=
  fun setting member =>
    ⟨(holds setting member).1,
      settles.configuration setting (holds setting member).1 (holds setting member).2⟩

theorem Settles.asks (asks : Asks mode before) : Asks mode after := settles.requested.trans asks

theorem Settles.enters (enters : Enters mode before) : Enters mode after := by
  refine ⟨settles.requested.trans enters.1, ?_⟩
  rcases settles.mode with same | asked
  · exact same.trans enters.2
  · exact asked.trans enters.1

theorem Settles.configuring (configuring : Configuring settings before) :
    Configuring settings after :=
  ⟨settles.holds configuring.1, settles.enters configuring.2⟩

end Stable

/-- The transaction changes only `count` registers from this one on. -/
def Touches (onReset : Chip → Chip) (register count : Nat) (sent : List UInt8) : Prop :=
  ∀ chip : Chip, ∀ other, other < register ∨ register + count ≤ other →
    (executeGuarded onReset sent chip).2.registers other = chip.registers other

/-- Registers apart from the settings. -/
def Apart (settings : List Setting) (register count : Nat) : Prop :=
  ∀ setting ∈ settings, setting.register < register ∨ register + count ≤ setting.register

instance (settings : List Setting) (register count : Nat) :
    Decidable (Apart settings register count) :=
  inferInstanceAs (Decidable (∀ setting ∈ settings, _))

theorem Apart.snoc {settings : List Setting} {register count : Nat} {setting : Setting}
    (apart : Apart settings register count)
    (outside : setting.register < register ∨ register + count ≤ setting.register) :
    Apart (settings ++ [setting]) register count := by
  intro other member
  rcases List.mem_append.mp member with old | new
  · exact apart other old
  · rw [List.mem_singleton.mp new]
    exact outside

section Transactions

variable (onReset : Chip → Chip) (chip : Chip)

theorem guarded_read (register : Register) (filler : List UInt8) :
    executeGuarded onReset (instructionRead :: register :: filler) chip =
      (0 :: 0 :: (List.range filler.length).map
        (fun index => chip.registers (register.toNat + index)), chip) := by
  unfold executeGuarded
  dsimp only
  split
  · rfl
  · simp [execute]

/-- A register that the guard lets through. -/
theorem guarded_open {sent : List UInt8} {register : Nat}
    (through : configurable register = false ∨ chip.mode = canctrlReqopConfig) :
    (executeGuarded onReset sent chip).2.registers register =
      (execute onReset sent chip).2.registers register := by
  unfold executeGuarded
  dsimp only
  split
  · rfl
  · rename_i guarded
    have closed : configurable register = false := through.resolve_right
      (fun config => guarded (Or.inr config))
    simp [closed]

theorem touches_of {register count : Nat} {sent : List UInt8}
    (plain : ∀ chip : Chip, ∀ other, other < register ∨ register + count ≤ other →
      (execute onReset sent chip).2.registers other = chip.registers other) :
    Touches onReset register count sent := by
  intro chip other outside
  unfold executeGuarded
  dsimp only
  split
  · exact plain chip other outside
  · dsimp only
    split
    · rfl
    · exact plain chip other outside

theorem write_touches (register : Register) (values : List UInt8) :
    Touches onReset register.toNat values.length (instructionWrite :: register :: values) :=
  touches_of onReset (fun chip _ outside => overwrite_outside chip.registers outside)

theorem modify_touches (register : Register) (mask data : UInt8) :
    Touches onReset register.toNat 1 [instructionBitmod, register, mask, data] :=
  touches_of onReset (fun chip _ outside => setRegister_other _ chip (by omega))

variable {chip}

theorem Touches.holds {register count : Nat} {sent : List UInt8} {settings : List Setting}
    (touches : Touches onReset register count sent) (apart : Apart settings register count)
    (holds : Holds settings chip) : Holds settings (executeGuarded onReset sent chip).2 := by
  intro setting member
  refine ⟨(holds setting member).1, ?_⟩
  unfold Chip.Has
  rw [touches chip _ (apart setting member)]
  exact (holds setting member).2

theorem Touches.enters {register count : Nat} {sent : List UInt8} {mode : UInt8}
    (touches : Touches onReset register count sent)
    (apart : canctrl.toNat < register ∨ register + count ≤ canstat.toNat)
    (enters : Enters mode chip) : Enters mode (executeGuarded onReset sent chip).2 := by
  have order : canstat.toNat + 1 = canctrl.toNat := rfl
  constructor
  · unfold Chip.requested
    rw [touches chip _ (by omega)]
    exact enters.1
  · unfold Chip.mode
    rw [touches chip _ (by omega)]
    exact enters.2

end Transactions

section Accesses

variable {onReset : Chip → Chip} {env : Environment Chip} (bus : OnChip onReset env)
  {settings : List Setting} {world : World Chip}
include bus

theorem elapse_keeps {Inv : Chip → Prop}
    (stable : ∀ before after : Chip, Settles before after → Inv before → Inv after)
    (holds : Inv world.device) : Inv (elapse env world).device :=
  (Peripheral.elapse_passes (fun _ => True) (fun _ => True) env (fun _ _ => trivial)
    (fun access move member chip => stable chip (move chip) (bus.moves access move member chip))
    holds).1

theorem exchange_keeps (sent : List UInt8) (Inv Inv' : Chip → Prop)
    (stable : ∀ before after : Chip, Settles before after → Inv before → Inv after)
    (effect : ∀ chip, Inv chip → Inv' (executeGuarded onReset sent chip).2)
    (holds : Inv world.device) : Inv' (exchange env sent world).2.device := by
  rw [Peripheral.exchange_delivered env world sent (bus.delivered _), bus.transact]
  exact effect _ (elapse_keeps bus stable holds)

theorem readRegister_guarded (start : World Chip) (register : Register) :
    (readRegister env register start).1 = (elapse env start).device.registers register.toNat ∧
      (readRegister env register start).2.device = (elapse env start).device := by
  unfold readRegister
  dsimp only
  rw [Peripheral.exchange_delivered env start _ (bus.delivered _), bus.transact, guarded_read]
  exact ⟨rfl, rfl⟩

/-- The polls of `setMode` change nothing, and success means that the mode was entered. -/
theorem awaitMode_enters (mode : UInt8) (tries : Nat) (holds : Holds settings world.device)
    (asks : Asks mode world.device) :
    Holds settings (awaitMode env mode tries world).2.device ∧
      ((awaitMode env mode tries world).1 = .ok →
        Enters mode (awaitMode env mode tries world).2.device) := by
  induction tries generalizing world with
  | zero =>
      refine ⟨holds, ?_⟩
      intro ok
      cases ok
  | succ tries ih =>
      obtain ⟨value, device⟩ := readRegister_guarded bus world canstat
      have held := elapse_keeps bus (fun _ _ settles => settles.holds) holds
      have asked := elapse_keeps bus (fun _ _ settles => settles.asks) asks
      rw [← device] at held asked
      unfold awaitMode
      dsimp only
      split
      · rename_i entered
        refine ⟨held, fun _ => ⟨asked, ?_⟩⟩
        rw [value] at entered
        rw [device]
        exact entered
      · exact ih (elapse_keeps bus (fun _ _ settles => settles.holds) held)
          (elapse_keeps bus (fun _ _ settles => settles.asks) asked)

theorem setMode_enters (mode : UInt8) (valid : mode &&& canctrlReqop = mode)
    (holds : Holds settings world.device)
    (apart : Apart settings canctrl.toNat 1) :
    Holds settings (setMode env mode world).2.device ∧
      ((setMode env mode world).1 = .ok → Enters mode (setMode env mode world).2.device) := by
  have touches := modify_touches onReset canctrl canctrlReqop mode
  have held : Holds settings (modifyRegister env canctrl canctrlReqop mode world).device :=
    exchange_keeps bus _ (Holds settings) (Holds settings) (fun _ _ settles => settles.holds)
      (fun _ holds => touches.holds onReset apart holds) holds
  have asked : Asks mode (modifyRegister env canctrl canctrlReqop mode world).device := by
    have effect : ∀ chip : Chip, True → Asks mode
        (executeGuarded onReset [instructionBitmod, canctrl, canctrlReqop, mode] chip).2 := by
      intro chip _
      unfold Asks Chip.requested
      rw [guarded_open onReset chip (Or.inl rfl)]
      change (chip.setRegister canctrl.toNat _).registers canctrl.toNat &&& canctrlReqop = mode
      rw [setRegister_same, bitModify_set _ _ _ _ (by decide), valid]
    exact exchange_keeps bus _ (fun _ => True) (Asks mode) (fun _ _ _ _ => trivial) effect trivial
  exact awaitMode_enters bus mode 10 held asked

/-- A write in configuration mode adds what it wrote to the settings. -/
theorem setRegisters_holds (register : Register) (values : List UInt8)
    (wide : 0x0F < register.toNat ∨ register.toNat + values.length ≤ 0x0E)
    (apart : Apart settings register.toNat values.length) (added : List Setting)
    (lasting : ∀ setting ∈ added, setting.lasting = true)
    (written : ∀ setting ∈ added, ∃ index < values.length,
      setting.register = register.toNat + index ∧ values.getD index 0 &&& setting.mask = setting.value)
    (held : Configuring settings world.device) :
    Configuring (settings ++ added) (setRegisters env register values world).device := by
  have touches := write_touches onReset register values
  have effect : ∀ chip : Chip, Configuring settings chip → Configuring (settings ++ added)
      (executeGuarded onReset (instructionWrite :: register :: values) chip).2 := by
    intro chip both
    refine ⟨?_, touches.enters onReset wide both.2⟩
    intro setting member
    rcases List.mem_append.mp member with old | new
    · exact touches.holds onReset apart both.1 setting old
    · obtain ⟨index, inside, place, value⟩ := written setting new
      refine ⟨lasting setting new, ?_⟩
      unfold Chip.Has
      rw [guarded_open onReset chip (Or.inr both.2.2), place]
      change overwrite register.toNat values chip.registers (register.toNat + index) &&& _ = _
      rw [overwrite_inside _ inside, value]
  exact exchange_keeps bus _ (Configuring settings) (Configuring (settings ++ added))
    (fun _ _ settles => settles.configuring) effect held

end Accesses

theorem byte_mask (value : UInt8) : value &&& 0xFF = value := by
  apply UInt8.toNat_inj.mp
  rw [uint8_and value 0xFF 0 8 rfl]
  have bound := value.toNat_lt
  omega

/-- The four registers of a filter or mask that `reset` clears. -/
def acceptanceSettings (entry : Register × Bool) : List Setting :=
  [⟨entry.1.toNat, 0xFF, 0⟩, ⟨entry.1.toNat + 1, 0xFF, if entry.2 then txbExideMask else 0⟩,
    ⟨entry.1.toNat + 2, 0xFF, 0⟩, ⟨entry.1.toNat + 3, 0xFF, 0⟩]

/-- The filters and masks can be written one after the other without touching what is
already set. -/
def Separate : List Setting → List (Register × Bool) → Prop
  | settings, [] => Apart settings canctrl.toNat 1
  | settings, entry :: rest =>
      (0x0F < entry.1.toNat ∨ entry.1.toNat + 4 ≤ 0x0E) ∧ Apart settings entry.1.toNat 4 ∧
        Apart settings canctrl.toNat 1 ∧
        (∀ setting ∈ acceptanceSettings entry, setting.lasting = true) ∧
        Separate (settings ++ acceptanceSettings entry) rest

def decideSeparate : (settings : List Setting) → (entries : List (Register × Bool)) →
    Decidable (Separate settings entries)
  | settings, [] => inferInstanceAs (Decidable (Apart settings canctrl.toNat 1))
  | settings, entry :: rest =>
      let _ := decideSeparate (settings ++ acceptanceSettings entry) rest
      inferInstanceAs (Decidable (_ ∧ Apart settings entry.1.toNat 4 ∧
        Apart settings canctrl.toNat 1 ∧
        (∀ setting ∈ acceptanceSettings entry, setting.lasting = true) ∧
        Separate (settings ++ acceptanceSettings entry) rest))

instance (settings : List Setting) (entries : List (Register × Bool)) :
    Decidable (Separate settings entries) := decideSeparate settings entries

section Start

variable {onReset : Chip → Chip} {env : Environment Chip} (bus : OnChip onReset env)
  {settings : List Setting} {world : World Chip}
include bus

theorem setAcceptance_holds (entry : Register × Bool)
    (wide : 0x0F < entry.1.toNat ∨ entry.1.toNat + 4 ≤ 0x0E)
    (apart : Apart settings entry.1.toNat 4) (mode : Apart settings canctrl.toNat 1)
    (lasting : ∀ setting ∈ acceptanceSettings entry, setting.lasting = true)
    (holds : Holds settings world.device)
    (ok : (setAcceptance env entry.1 entry.2 0 world).1 = .ok) :
    Holds (settings ++ acceptanceSettings entry)
      (setAcceptance env entry.1 entry.2 0 world).2.device := by
  obtain ⟨held, entered⟩ := setMode_enters bus canctrlReqopConfig (by decide) holds mode
  unfold setAcceptance at ok ⊢
  dsimp only at ok ⊢
  split
  · rename_i failed
    rw [if_pos failed] at ok
    exact absurd ok failed
  · rename_i reached
    rw [Decidable.not_not] at reached
    have size : (prepareId entry.2 0).length = 4 := prepareId_length entry.2 0
    refine (setRegisters_holds bus entry.1 (prepareId entry.2 0) (by rw [size]; exact wide)
      (by rw [size]; exact apart) (acceptanceSettings entry) lasting ?_
      ⟨held, entered reached⟩).1
    intro setting member
    have zero : prepareId entry.2 0 = [0, if entry.2 then txbExideMask else 0, 0, 0] := by
      cases entry.2 <;> decide
    rw [size, zero]
    simp only [acceptanceSettings, List.mem_cons, List.not_mem_nil, or_false] at member
    rcases member with rfl | rfl | rfl | rfl
    · exact ⟨0, by decide, rfl, byte_mask _⟩
    · exact ⟨1, by decide, rfl, byte_mask _⟩
    · exact ⟨2, by decide, rfl, byte_mask _⟩
    · exact ⟨3, by decide, rfl, byte_mask _⟩

theorem setAcceptances_holds (entries : List (Register × Bool))
    (separate : Separate settings entries) (holds : Holds settings world.device)
    (ok : (setAcceptances env entries world).1 = .ok) :
    Holds (settings ++ entries.flatMap acceptanceSettings)
      (setAcceptances env entries world).2.device := by
  induction entries generalizing settings world with
  | nil =>
      rw [List.flatMap_nil, List.append_nil]
      exact holds
  | cons entry rest ih =>
      obtain ⟨wide, apart, mode, lasting, later⟩ := separate
      unfold setAcceptances at ok ⊢
      dsimp only at ok ⊢
      split
      · rename_i failed
        rw [if_pos failed] at ok
        exact absurd ok failed
      · rename_i reached
        rw [if_neg reached] at ok
        rw [Decidable.not_not] at reached
        have held := setAcceptance_holds bus entry wide apart mode lasting holds reached
        have all := ih later held ok
        rw [List.append_assoc] at all
        exact all

/-- A register outside the guarded ones can be set at any time. -/
theorem modifyRegister_holds (register : Register) (mask data probe : UInt8)
    (free : configurable register.toNat = false) (apart : Apart settings register.toNat 1)
    (lasting : Setting.lasting ⟨register.toNat, probe, data &&& probe⟩ = true)
    (inside : mask &&& probe = probe) (holds : Holds settings world.device) :
    Holds (settings ++ [⟨register.toNat, probe, data &&& probe⟩])
      (modifyRegister env register mask data world).device := by
  have touches := modify_touches onReset register mask data
  have effect : ∀ chip : Chip, Holds settings chip →
      Holds (settings ++ [⟨register.toNat, probe, data &&& probe⟩])
        (executeGuarded onReset [instructionBitmod, register, mask, data] chip).2 := by
    intro chip held setting member
    rcases List.mem_append.mp member with old | new
    · exact touches.holds onReset apart held setting old
    · rw [List.mem_singleton.mp new]
      refine ⟨lasting, ?_⟩
      unfold Chip.Has
      rw [guarded_open onReset chip (Or.inl free)]
      change (chip.setRegister register.toNat _).registers register.toNat &&& probe = _
      rw [setRegister_same, bitModify_set _ _ _ _ inside]
  exact exchange_keeps bus _ (Holds settings) _ (fun _ _ settles => settles.holds) effect holds

theorem setRegister_holds (register : Register) (value : UInt8)
    (free : configurable register.toNat = false) (apart : Apart settings register.toNat 1)
    (lasting : Setting.lasting ⟨register.toNat, 0xFF, value⟩ = true)
    (holds : Holds settings world.device) :
    Holds (settings ++ [⟨register.toNat, 0xFF, value⟩])
      (setRegister env register value world).device := by
  have touches := write_touches onReset register [value]
  have effect : ∀ chip : Chip, Holds settings chip →
      Holds (settings ++ [⟨register.toNat, 0xFF, value⟩])
        (executeGuarded onReset [instructionWrite, register, value] chip).2 := by
    intro chip held setting member
    rcases List.mem_append.mp member with old | new
    · exact touches.holds onReset apart held setting old
    · rw [List.mem_singleton.mp new]
      refine ⟨lasting, ?_⟩
      unfold Chip.Has
      rw [guarded_open onReset chip (Or.inl free)]
      change (chip.setRegister register.toNat value).registers register.toNat &&& 0xFF = _
      rw [setRegister_same, byte_mask]
  exact exchange_keeps bus _ (Holds settings) _ (fun _ _ settles => settles.holds) effect holds

end Start

/-- The receive settings `reset` makes: the interrupts and the receive modes. -/
def receiveSettings : List Setting :=
  [⟨caninte.toNat, 0xFF, canintfRx0if ||| canintfRx1if ||| canintfErrif ||| canintfMerrf⟩,
    ⟨rxb0Ctrl.toNat, rxbnctrlRxmMask ||| rxb0ctrlBukt, rxb0ctrlBukt⟩,
    ⟨rxb1Ctrl.toNat, rxbnctrlRxmMask, rxbnctrlRxmStdext⟩]

def resetSettings : List Setting :=
  receiveSettings ++ acceptanceRegisters.flatMap acceptanceSettings

def timingSettings (timing : UInt8 × UInt8 × UInt8) : List Setting :=
  [⟨cnf1.toNat, 0xFF, timing.1⟩, ⟨cnf2.toNat, 0xFF, timing.2.1⟩, ⟨cnf3.toNat, 0xFF, timing.2.2⟩]

theorem receiveSettings_separate : Separate receiveSettings acceptanceRegisters := by decide

section Initialisation

variable {onReset : Chip → Chip} {env : Environment Chip} (bus : OnChip onReset env)
  {settings : List Setting} {world : World Chip}
include bus

theorem reset_holds (ok : (reset env world).1 = .ok) :
    Holds resetSettings (reset env world).2.device := by
  have nothing : ∀ chip : Chip, Holds [] chip :=
    fun _ _ member => absurd member List.not_mem_nil
  obtain ⟨cleared, shape⟩ : ∃ cleared, reset env world =
      setAcceptances env acceptanceRegisters
        (modifyRegister env rxb1Ctrl (rxbnctrlRxmMask ||| rxb1ctrlFilhitMask)
          (rxbnctrlRxmStdext ||| rxb1ctrlFilhit)
          (modifyRegister env rxb0Ctrl (rxbnctrlRxmMask ||| rxb0ctrlBukt ||| rxb0ctrlFilhitMask)
            (rxbnctrlRxmStdext ||| rxb0ctrlBukt ||| rxb0ctrlFilhit)
            (setRegister env caninte
              (canintfRx0if ||| canintfRx1if ||| canintfErrif ||| canintfMerrf) cleared))) := ⟨_, rfl⟩
  have interrupts := setRegister_holds bus caninte
    (canintfRx0if ||| canintfRx1if ||| canintfErrif ||| canintfMerrf) rfl
    (fun _ member => absurd member List.not_mem_nil) rfl (nothing cleared.device)
  have first := modifyRegister_holds bus rxb0Ctrl
    (rxbnctrlRxmMask ||| rxb0ctrlBukt ||| rxb0ctrlFilhitMask)
    (rxbnctrlRxmStdext ||| rxb0ctrlBukt ||| rxb0ctrlFilhit) (rxbnctrlRxmMask ||| rxb0ctrlBukt)
    rfl (by decide) rfl rfl interrupts
  have second := modifyRegister_holds bus rxb1Ctrl (rxbnctrlRxmMask ||| rxb1ctrlFilhitMask)
    (rxbnctrlRxmStdext ||| rxb1ctrlFilhit) rxbnctrlRxmMask rfl (by decide) rfl rfl first
  rw [shape] at ok ⊢
  exact setAcceptances_holds bus acceptanceRegisters receiveSettings_separate second ok

/-- One register written in configuration mode. -/
theorem setRegister_configuring (register : Register) (value : UInt8)
    (high : 0x0F < register.toNat) (apart : Apart settings register.toNat 1)
    (lasting : Setting.lasting ⟨register.toNat, 0xFF, value⟩ = true)
    (held : Configuring settings world.device) :
    Configuring (settings ++ [⟨register.toNat, 0xFF, value⟩])
      (setRegister env register value world).device := by
  apply setRegisters_holds bus register [value] (Or.inl high) apart _ _ _ held
  · intro setting member
    rw [List.mem_singleton.mp member]
    exact lasting
  · intro setting member
    rw [List.mem_singleton.mp member]
    exact ⟨0, Nat.one_pos, rfl, byte_mask value⟩

theorem setBitrate_holds (canSpeed : CanSpeed) (canClock : CanClock)
    (apart : Apart settings cnf3.toNat 3) (mode : Apart settings canctrl.toNat 1)
    (holds : Holds settings world.device) (ok : (setBitrate env canSpeed canClock world).1 = .ok) :
    ∃ timing, bitTiming canClock canSpeed = some timing ∧
      Holds (settings ++ timingSettings timing)
        (setBitrate env canSpeed canClock world).2.device := by
  obtain ⟨held, entered⟩ := setMode_enters bus canctrlReqopConfig (by decide) holds mode
  have each : ∀ register, cnf3.toNat ≤ register → register < cnf3.toNat + 3 →
      Apart settings register 1 := by
    intro register low high setting member
    have outside := apart setting member
    omega
  have apart1 := each cnf1.toNat (by decide) (by decide)
  have apart2 := each cnf2.toNat (by decide) (by decide)
  have apart3 := each cnf3.toNat (by decide) (by decide)
  unfold setBitrate at ok ⊢
  dsimp only at ok ⊢
  split
  · rename_i failed
    rw [if_pos failed] at ok
    exact absurd ok failed
  · rename_i reached
    rw [if_neg reached] at ok
    rw [Decidable.not_not] at reached
    split
    · rename_i cfg1 cfg2 cfg3 timing
      have first := setRegister_configuring bus cnf1 cfg1 (by decide) apart1 rfl
        ⟨held, entered reached⟩
      have second := setRegister_configuring bus cnf2 cfg2 (by decide)
        (apart2.snoc (Or.inr (show cnf2.toNat + 1 ≤ cnf1.toNat by decide))) rfl first
      have third := setRegister_configuring bus cnf3 cfg3 (by decide)
        ((apart3.snoc (Or.inr (show cnf3.toNat + 1 ≤ cnf1.toNat by decide))).snoc
          (Or.inr (show cnf3.toNat + 1 ≤ cnf2.toNat by decide))) rfl second
      rw [List.append_assoc, List.append_assoc] at third
      exact ⟨(cfg1, cfg2, cfg3), timing, third.1⟩
    · rename_i timing
      rw [timing] at ok
      cases ok

end Initialisation

end Mcp2515
