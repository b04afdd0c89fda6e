import Rxu01.Mcp2515Accesses
import Rxu01.Mcp2515ReceiveFrame
import Rxu01.Reactive
import Rxu01.SlotStore

set_option autoImplicit false

/- The driver reading frames while the chip stores more of them between any two
accesses. -/
namespace Mcp2515

open Peripheral (Environment World elapse exchange)

/-- A step of the chip by itself, as far as it receives: it may store a frame in a
buffer whose flag is clear. It does not touch a buffer whose flag is set. -/
inductive Receives (before after : Node) : Prop where
  | leaves (slots : after.chip.slot = before.chip.slot) (heard : after.heard = before.heard)
  | stores (rxbn : RxBuffer) (item : Arrival) (room : before.chip.slot rxbn = none)
      (slots : after.chip.slot = Function.update before.chip.slot rxbn (some item))
      (heard : after.heard = before.heard ++ [(rxbn, item)])

/-- The chip's moves, at every access. -/
def ReceiveMoves (moves : Nat → List (Node → Node)) : Prop :=
  ∀ access, ∀ move ∈ moves access, ∀ node, Receives node (move node)

/-- The buffers and the frames stored so far are those of the store. -/
structure Mirrors (store : SlotStore RxBuffer Arrival) (node : Node) : Prop where
  slots : node.chip.slot = store.held
  heard : node.heard = store.arrived

/-- What happened between two states of the node, as far as it receives, is that
frames arrived. -/
def Carries (before after : Node) : Prop :=
  ∀ store, Mirrors store before → ∃ filled, store.Fills filled ∧ Mirrors filled after

section Carries

variable {first second third : Node}

theorem Carries.refl (node : Node) : Carries node node :=
  fun store mirrors => ⟨store, SlotStore.Fills.refl store, mirrors⟩

theorem Carries.trans (start : Carries first second) (rest : Carries second third) :
    Carries first third := by
  intro store mirrors
  obtain ⟨filled, fills, mirrors'⟩ := start store mirrors
  obtain ⟨filled', fills', mirrors''⟩ := rest filled mirrors'
  exact ⟨filled', fills.trans fills', mirrors''⟩

theorem Carries.of_slots (slots : second.chip.slot = first.chip.slot)
    (heard : second.heard = first.heard) : Carries first second :=
  fun store mirrors =>
    ⟨store, SlotStore.Fills.refl store, slots.trans mirrors.slots, heard.trans mirrors.heard⟩

theorem Receives.carries (step : Receives first second) : Carries first second := by
  cases step with
  | leaves slots heard => exact Carries.of_slots slots heard
  | stores rxbn item room slots heard =>
      intro store mirrors
      have empty : store.held rxbn = none := by rw [← mirrors.slots]; exact room
      refine ⟨store.arrive rxbn item empty, (SlotStore.Fills.refl store).arrive rxbn item empty,
        ?_, ?_⟩
      · rw [slots, mirrors.slots]
        rfl
      · rw [heard, mirrors.heard]
        rfl

theorem settle_carries {moves : List (Node → Node)}
    (own : ∀ move ∈ moves, ∀ node, Receives node (move node)) (node : Node) :
    Carries node (Peripheral.settle moves node) := by
  induction moves generalizing node with
  | nil => exact Carries.refl node
  | cons move rest ih =>
      have head := (own move List.mem_cons_self node).carries
      exact head.trans
        (ih (fun other member => own other (List.mem_cons_of_mem _ member)) (move node))

end Carries

/-- A frame moves into a buffer: its identifier, length and data registers, `RXRTR` and
the flag. -/
def Chip.store (rxbn : RxBuffer) (content : Vector UInt8 13) (request : Bool) (chip : Chip) :
    Chip :=
  let control := bitModify (chip.registers rxbn.ctrl.toNat) rxbnctrlRtr
    (if request then rxbnctrlRtr else 0)
  let flags := chip.registers canintf.toNat ||| rxbn.rxnif
  let loaded := overwrite rxbn.ctrl.toNat (control :: content.toList) chip.registers
  { chip with registers := loaded }.setRegister canintf.toNat flags

/-- A buffer that is still full does not take the frame. -/
def Node.hearInto (rxbn : RxBuffer) (content : Vector UInt8 13) (request : Bool) (node : Node) :
    Node :=
  if node.chip.full rxbn then node
  else
    let chip := node.chip.store rxbn content request
    { chip := chip, heard := node.heard ++ [(rxbn, chip.arrival rxbn)] }

/-- A frame that passes the filters goes into the first buffer, or rolls over into the
second one, or is lost. -/
def Node.hear (content : Vector UInt8 13) (request : Bool) (node : Node) : Node :=
  node.hearInto (if node.chip.full .rxb0 then .rxb1 else .rxb0) content request

section Store

variable (chip : Chip) (rxbn : RxBuffer) (content : Vector UInt8 13) (request : Bool)

theorem store_flags : (chip.store rxbn content request).registers canintf.toNat =
    chip.registers canintf.toNat ||| rxbn.rxnif := by
  unfold Chip.store
  rw [setRegister_same]

theorem store_other {register : Nat} (flag : register ≠ canintf.toNat)
    (outside : register < rxbn.ctrl.toNat ∨ rxbn.ctrl.toNat + 14 ≤ register) :
    (chip.store rxbn content request).registers register = chip.registers register := by
  unfold Chip.store
  dsimp only
  rw [setRegister_other _ _ flag]
  exact overwrite_outside _ (by simp only [List.length_cons, Vector.length_toList]; omega)

theorem store_slot : (chip.store rxbn content request).slot =
    Function.update chip.slot rxbn (some ((chip.store rxbn content request).arrival rxbn)) := by
  funext other
  by_cases same : other = rxbn
  · subst same
    have full : (chip.store other content request).full other = true := by
      unfold Chip.full
      rw [store_flags]
      have set := Bytes.or_bits (chip.registers canintf.toNat) other.rxnif other.rxnif (by simp)
      rw [bne_iff_ne]
      intro clear
      rw [clear, UInt8.zero_and] at set
      cases other <;> cases set
    rw [Function.update_self]
    exact if_pos full
  · rw [Function.update_of_ne same]
    have apart : other.ctrl.toNat + 14 ≤ rxbn.ctrl.toNat ∨
        rxbn.ctrl.toNat + 14 ≤ other.ctrl.toNat := by
      cases other <;> cases rxbn <;> first | exact absurd rfl same | decide
    have base : canintf.toNat < other.ctrl.toNat := by cases other <;> decide
    apply slot_congr
    · unfold Chip.full
      rw [store_flags, Bytes.or_probe _ _ _ (by
        cases other <;> cases rxbn <;> first | rfl | exact absurd rfl same)]
    · intro index inside
      exact store_other chip rxbn content request (by omega) (by omega)

theorem hearInto_receives (node : Node) : Receives node (node.hearInto rxbn content request) := by
  unfold Node.hearInto
  split
  · exact Receives.leaves rfl rfl
  · rename_i clear
    exact Receives.stores _ _ (if_neg clear) (store_slot node.chip rxbn content request) rfl

theorem hear_receives (node : Node) : Receives node (node.hear content request) :=
  hearInto_receives _ content request node

/-- A chip that hears scheduled frames takes only such steps. -/
theorem schedule_receives (schedule : Nat → List (Vector UInt8 13 × Bool)) :
    ReceiveMoves (fun access =>
      (schedule access).map (fun frame node => node.hear frame.1 frame.2)) := by
  intro access move member node
  obtain ⟨frame, _, rfl⟩ := List.mem_map.mp member
  exact hear_receives frame.1 frame.2 node

end Store

/-- The transaction leaves the receive buffers and their flags. -/
def Spares (onReset : Chip → Chip) (sent : List UInt8) : Prop :=
  ∀ node : Node, (node.execute onReset sent).2.chip.slot = node.chip.slot

section Spares

variable (onReset : Chip → Chip)

theorem execute_heard (sent : List UInt8) (node : Node) :
    (node.execute onReset sent).2.heard = node.heard := by
  unfold Node.execute
  split <;> rfl

theorem execute_read (register : Register) (filler : List UInt8) (node : Node) :
    node.execute onReset (instructionRead :: register :: filler) =
      (0 :: 0 :: (List.range filler.length).map
        (fun index => node.chip.registers (register.toNat + index)), node) := rfl

theorem execute_write (register : Register) (values : List UInt8) (node : Node) :
    (node.execute onReset (instructionWrite :: register :: values)).2.chip =
      node.chip.write register.toNat values := rfl

theorem execute_modify (register : Register) (mask data : UInt8) (node : Node) :
    (node.execute onReset [instructionBitmod, register, mask, data]).2.chip =
      node.chip.setRegister register.toNat
        (bitModify (node.chip.registers register.toNat) mask data) := rfl

theorem read_spares (register : Register) (filler : List UInt8) :
    Spares onReset (instructionRead :: register :: filler) := fun _ => rfl

theorem status_spares : Spares onReset [instructionReadStatus, 0x00] := fun _ => rfl

/-- A register outside the receive buffers that is not the flag register. -/
theorem modify_spares (register : Register) (mask data : UInt8)
    (low : register.toNat < rxb0Ctrl.toNat) (other : register.toNat ≠ canintf.toNat) :
    Spares onReset [instructionBitmod, register, mask, data] := by
  intro node
  funext rxbn
  rw [execute_modify]
  have base : rxb0Ctrl.toNat ≤ rxbn.ctrl.toNat := by cases rxbn <;> decide
  apply slot_congr
  · unfold Chip.full
    rw [setRegister_other _ _ (Ne.symm other)]
  · intro index _
    exact setRegister_other _ _ (by omega)

/-- Other interrupt flags. -/
theorem flags_spares (mask : UInt8) (apart : mask &&& statRxifMask = 0) :
    Spares onReset [instructionBitmod, canintf, mask, 0] := by
  intro node
  funext rxbn
  rw [execute_modify]
  have base : rxb0Ctrl.toNat ≤ rxbn.ctrl.toNat := by cases rxbn <;> decide
  have clear : mask &&& rxbn.rxnif = 0 := by
    rw [show rxbn.rxnif = statRxifMask &&& rxbn.rxnif by cases rxbn <;> rfl, ← UInt8.and_assoc,
      apart]
    exact UInt8.zero_and
  apply slot_congr
  · unfold Chip.full
    rw [setRegister_same, bitModify_keep _ _ _ _ clear]
  · intro index _
    exact setRegister_other _ _ (by
      have flag : canintf.toNat < rxb0Ctrl.toNat := by decide
      omega)

theorem load_spares (txbn : TxBuffer) {frame : CanFrame} (fits : frame.canDlc.toNat ≤ canMaxDlen) :
    Spares onReset (instructionWrite :: txbn.sidh :: loadBytes frame) := by
  intro node
  funext rxbn
  rw [execute_write]
  have size := loadBytes_length frame fits
  change frame.canDlc.toNat ≤ 8 at fits
  have low : canintf.toNat < txbn.sidh.toNat := by cases txbn <;> decide
  have high : txbn.sidh.toNat + 13 ≤ rxbn.ctrl.toNat := by cases txbn <;> cases rxbn <;> decide
  have flags : (node.chip.write txbn.sidh.toNat (loadBytes frame)).registers canintf.toNat =
      node.chip.registers canintf.toNat := overwrite_outside _ (Or.inl low)
  apply slot_congr
  · unfold Chip.full
    rw [flags]
  · intro index _
    exact overwrite_outside _ (by omega)

end Spares

/-- The environment is a node behind a fault-free bus that receives by itself. -/
structure OnNode (onReset : Chip → Chip) (env : Environment Node) : Prop where
  transact : env.transact = Node.execute onReset
  delivered : ∀ access, env.delivered access = true
  moves : ReceiveMoves env.moves

theorem nodeEnvironment_onNode (onReset : Chip → Chip) {moves : Nat → List (Node → Node)}
    (own : ReceiveMoves moves) (clock : Nat → Int) :
    OnNode onReset (nodeEnvironment onReset moves clock) :=
  { transact := rfl
    delivered := fun _ => rfl
    moves := own }

section Accesses

variable {onReset : Chip → Chip} {env : Environment Node} (bus : OnNode onReset env)
  (leftovers : Leftovers) (world : World Node)
include bus

theorem elapse_carries : Carries world.device (elapse env world).device := by
  rw [Peripheral.elapse_device]
  exact settle_carries (bus.moves world.accesses) world.device

theorem exchange_node (sent : List UInt8) :
    (exchange env sent world).1 = ((elapse env world).device.execute onReset sent).1 ∧
      (exchange env sent world).2.device =
        ((elapse env world).device.execute onReset sent).2 := by
  rw [Peripheral.exchange_delivered env world sent (bus.delivered _), bus.transact]
  exact ⟨rfl, rfl⟩

theorem exchange_carries {sent : List UInt8} (spares : Spares onReset sent) :
    Carries world.device (exchange env sent world).2.device := by
  rw [(exchange_node bus world sent).2]
  exact (elapse_carries bus world).trans
    (Carries.of_slots (spares _) (execute_heard onReset sent _))

theorem readRegister_node (register : Register) :
    (readRegister env register world).1 =
        (elapse env world).device.chip.registers register.toNat ∧
      (readRegister env register world).2.device = (elapse env world).device := by
  obtain ⟨received, device⟩ := exchange_node bus world [instructionRead, register, 0x00]
  unfold readRegister
  dsimp only
  rw [received, device]
  exact ⟨rfl, rfl⟩

theorem readRegister_carries (register : Register) :
    Carries world.device (readRegister env register world).2.device :=
  exchange_carries bus world (read_spares onReset register [0x00])

theorem readRegisters_node (register : Register) (n : Nat) :
    (readRegisters env leftovers register n world).1 = (List.range n).map
        (fun index => (elapse env world).device.chip.registers (register.toNat + index)) ∧
      (readRegisters env leftovers register n world).2.device = (elapse env world).device := by
  obtain ⟨received, device⟩ := exchange_node bus world
    (instructionRead :: register :: (List.range n).map (leftovers.txData world.accesses))
  unfold readRegisters
  dsimp only
  rw [if_pos (bus.delivered _), received, device, execute_read]
  refine ⟨?_, rfl⟩
  apply List.map_congr_left
  intro index inside
  rw [List.mem_range] at inside
  simp [inside]

theorem readRegisters_carries (register : Register) (n : Nat) :
    Carries world.device (readRegisters env leftovers register n world).2.device := by
  rw [(readRegisters_node bus leftovers world register n).2]
  exact elapse_carries bus world

theorem getStatus_node :
    (getStatus env world).1 = (elapse env world).device.chip.status ∧
      (getStatus env world).2.device = (elapse env world).device := by
  obtain ⟨received, device⟩ := exchange_node bus world [instructionReadStatus, 0x00]
  unfold getStatus
  dsimp only
  rw [received, device]
  exact ⟨rfl, rfl⟩

end Accesses

section Sending

variable {onReset : Chip → Chip} {env : Environment Node} (bus : OnNode onReset env)
include bus

/-- Sending leaves what is received alone. -/
theorem sending_carries (frame : CanFrame) (start : World Node) :
    SendKeeps env frame (fun later => Carries start.device later.device) where
  elapse later carries := carries.trans (elapse_carries bus later)
  exchange := by
    intro later sent access carries
    have spares : Spares onReset sent := by
      cases access with
      | read txbn => exact read_spares onReset txbn.ctrl [0x00]
      | load txbn fits => exact load_spares onReset txbn fits
      | control txbn mask data =>
          exact modify_spares onReset txbn.ctrl mask data (by cases txbn <;> decide)
            (by cases txbn <;> decide)
    exact carries.trans (exchange_carries bus later spares)

theorem sendMessageOn_carries (txbn : TxBuffer) (frame : CanFrame) (timeoutMs : UInt32) (fuel : Nat)
    (world : World Node) :
    Carries world.device (sendMessageOn env txbn frame timeoutMs fuel world).2.device :=
  sendMessageOn_keeps (sending_carries bus frame world) txbn timeoutMs fuel
    (Carries.refl world.device)

theorem sendMessage_carries (frame : CanFrame) (timeoutMs : UInt32) (fuel : Nat)
    (world : World Node) :
    Carries world.device (sendMessage env frame timeoutMs fuel world).2.device :=
  sendMessage_keeps (sending_carries bus frame world) timeoutMs fuel (Carries.refl world.device)

end Sending

section Reading

theorem Mirrors.arrival {store : SlotStore RxBuffer Arrival} {node : Node} {rxbn : RxBuffer}
    {item : Arrival} (mirrors : Mirrors store node) (holds : store.held rxbn = some item) :
    node.chip.full rxbn = true ∧ node.chip.arrival rxbn = item := by
  rw [← mirrors.slots] at holds
  unfold Chip.slot at holds
  split at holds
  · rename_i full
    exact ⟨full, Option.some.inj holds⟩
  · cases holds

theorem Mirrors.empty {store : SlotStore RxBuffer Arrival} {node : Node} {rxbn : RxBuffer}
    (mirrors : Mirrors store node) (room : store.held rxbn = none) :
    node.chip.full rxbn = false := by
  rw [← mirrors.slots] at room
  unfold Chip.slot at room
  split at room
  · cases room
  · rename_i clear
    exact Bool.not_eq_true _ ▸ clear

/-- Clearing a receive flag empties that buffer only. -/
theorem clear_slot (onReset : Chip → Chip) (rxbn : RxBuffer) (node : Node) :
    (node.execute onReset [instructionBitmod, canintf, rxbn.rxnif, 0]).2.chip.slot =
      Function.update node.chip.slot rxbn none := by
  funext other
  rw [execute_modify]
  by_cases same : other = rxbn
  · subst same
    have clear : (node.chip.setRegister canintf.toNat
        (bitModify (node.chip.registers canintf.toNat) other.rxnif 0)).full other = false := by
      unfold Chip.full
      rw [setRegister_same, bitModify_set _ _ _ _ (by cases other <;> rfl)]
      simp
    rw [Function.update_self]
    unfold Chip.slot
    rw [clear]
    rfl
  · rw [Function.update_of_ne same]
    have base : rxb0Ctrl.toNat ≤ other.ctrl.toNat := by cases other <;> decide
    apply slot_congr
    · unfold Chip.full
      rw [setRegister_same, bitModify_keep _ _ _ _ (by
        cases other <;> cases rxbn <;> first | rfl | exact absurd rfl same)]
    · intro index _
      exact setRegister_other _ _ (by
        have flag : canintf.toNat < rxb0Ctrl.toNat := by decide
        omega)

theorem wireFrame_ext {first second : WireFrame} (identifier : first.identifier = second.identifier)
    (extended : first.extended = second.extended) (remote : first.remote = second.remote)
    (length : first.length = second.length) (data : first.data = second.data) :
    first = second := by
  cases first
  cases second
  simp_all

/-- Registers read at three moments at which the buffer held the same frame. -/
theorem received_arrival {first second third : Chip} {rxbn : RxBuffer} {item : Arrival}
    (header : first.arrival rxbn = item) (ctrl : second.arrival rxbn = item)
    (data : third.arrival rxbn = item) (fits : item.code ≤ canMaxDlen) (frame : CanFrame) :
    (received (fun index => if index < 5 then first.registers (rxbn.sidh.toNat + index)
        else third.registers (rxbn.sidh.toNat + index))
      (second.registers rxbn.ctrl.toNat &&& rxbnctrlRtr != 0) frame).onWire = item.frame := by
  have code : (first.registers (rxbn.sidh.toNat + 4)).toNat % 16 = item.code :=
    congrArg Arrival.code header
  rw [received_onWire _ _ _ (by simp only [Nat.reduceLT, ↓reduceIte, code]; exact fits)]
  have size := congrArg (fun arrival => arrival.frame.length) header
  have length := congrArg (fun arrival => arrival.frame.length) data
  apply wireFrame_ext
  · exact congrArg (fun arrival => arrival.frame.identifier) header
  · exact congrArg (fun arrival => arrival.frame.extended) header
  · exact congrArg (fun arrival => arrival.frame.remote) ctrl
  · exact size
  · rw [← congrArg (fun arrival => arrival.frame.data) data]
    change (List.range (first.arrival rxbn).frame.length).map _ =
      (List.range (third.arrival rxbn).frame.length).map _
    rw [size, length]
    apply List.map_congr_left
    intro index _
    exact if_neg (by omega)

section Steps

variable {onReset : Chip → Chip} {env : Environment Node} (bus : OnNode onReset env)
  (leftovers : Leftovers)
include bus

/-- A frame longer than eight bytes is refused, and stays in its buffer. -/
theorem readMessageOn_long {store : SlotStore RxBuffer Arrival} {rxbn : RxBuffer} {item : Arrival}
    {world : World Node} (mirrors : Mirrors store world.device)
    (holds : store.held rxbn = some item) (long : canMaxDlen < item.code) (frame : CanFrame) :
    ∃ filled after, store.Fills filled ∧ Mirrors filled after.device ∧
      readMessageOn env leftovers rxbn frame world = (.fail, frame, after) := by
  obtain ⟨header, device⟩ := readRegisters_node bus leftovers world rxbn.sidh 5
  obtain ⟨filled, fills, mirrors'⟩ := elapse_carries bus world store mirrors
  have code := congrArg Arrival.code (mirrors'.arrival (fills.holds holds)).2
  refine ⟨filled, (readRegisters env leftovers rxbn.sidh 5 world).2, fills, ?_, ?_⟩
  · rw [device]
    exact mirrors'
  · unfold readMessageOn
    dsimp only
    rw [header, if_pos]
    rw [dlc_toNat]
    change canMaxDlen < ((elapse env world).device.chip.registers (rxbn.sidh.toNat + 4)).toNat % 16
    change ((elapse env world).device.chip.registers (rxbn.sidh.toNat + 4)).toNat % 16 = _ at code
    rw [code]
    exact long

/-- What is returned is put together from three reads of the buffer. -/
theorem readMessageOn_reads (rxbn : RxBuffer) (frame : CanFrame) (world : World Node)
    (fits : ((elapse env world).device.chip.registers (rxbn.sidh.toNat + 4)).toNat % 16 ≤
      canMaxDlen) :
    ∃ first second third : World Node, first.device = (elapse env world).device ∧
      second.device = (elapse env first).device ∧ third.device = (elapse env second).device ∧
      readMessageOn env leftovers rxbn frame world =
        (.ok,
          received (fun index =>
              if index < 5 then first.device.chip.registers (rxbn.sidh.toNat + index)
              else third.device.chip.registers (rxbn.sidh.toNat + index))
            (second.device.chip.registers rxbn.ctrl.toNat &&& rxbnctrlRtr != 0) frame,
          modifyRegister env canintf rxbn.rxnif 0 third) := by
  let dlc := (elapse env world).device.chip.registers (rxbn.sidh.toNat + 4) &&& dlcMask
  let first := (readRegisters env leftovers rxbn.sidh 5 world).2
  let second := (readRegister env rxbn.ctrl first).2
  obtain ⟨header, device⟩ := readRegisters_node bus leftovers world rxbn.sidh 5
  obtain ⟨ctrl, device'⟩ := readRegister_node bus first rxbn.ctrl
  obtain ⟨values, device''⟩ := readRegisters_node bus leftovers second rxbn.data dlc.toNat
  refine ⟨first, second, (readRegisters env leftovers rxbn.data dlc.toNat second).2, device, device',
    device'', ?_⟩
  have bytes : (readRegisters env leftovers rxbn.data dlc.toNat second).1 =
      (List.range dlc.toNat).map (fun index =>
        if 5 + index < 5 then first.device.chip.registers (rxbn.sidh.toNat + (5 + index))
        else (readRegisters env leftovers rxbn.data dlc.toNat second).2.device.chip.registers
          (rxbn.sidh.toNat + (5 + index))) := by
    rw [values, device'']
    apply List.map_congr_left
    intro index _
    rw [if_neg (by omega), ← Nat.add_assoc]
    cases rxbn <;> rfl
  unfold readMessageOn
  dsimp only
  rw [header, if_neg (by rw [Nat.not_lt, dlc_toNat]; exact fits)]
  change (Error.ok, CanFrame.mk _ dlc (frame.load dlc.toNat
    (readRegisters env leftovers rxbn.data dlc.toNat second).1), _) = _
  rw [bytes]
  change ((Error.ok, CanFrame.mk (if (readRegister env rxbn.ctrl first).1 &&& rxbnctrlRtr ≠ 0 then _
    else _) dlc _, _) : Error × CanFrame × World Node) = _
  rw [ctrl, ← device']
  unfold received
  dsimp only
  rw [show first.device = (elapse env world).device from device]
  by_cases request : second.device.chip.registers rxbn.ctrl.toNat &&& rxbnctrlRtr = 0
  · rw [if_neg (not_not_intro request), if_neg (by simp [request])]
    rfl
  · rw [if_pos request, if_pos (by simp [request])]
    rfl

/-- Any other frame is returned as the chip stored it, and leaves its buffer. -/
theorem readMessageOn_short {store : SlotStore RxBuffer Arrival} {rxbn : RxBuffer} {item : Arrival}
    {world : World Node} (mirrors : Mirrors store world.device)
    (holds : store.held rxbn = some item) (fits : item.code ≤ canMaxDlen) (frame : CanFrame) :
    ∃ (filled : SlotStore RxBuffer Arrival) (after : World Node) (answer : CanFrame)
      (held : filled.held rxbn = some item), store.Fills filled ∧
        Mirrors (filled.depart rxbn item true held) after.device ∧
        readMessageOn env leftovers rxbn frame world = (.ok, answer, after) ∧
        answer.onWire = item.frame ∧ answer.wireId = answer.canId ∧
        answer.data.toList.drop answer.canDlc.toNat = frame.data.toList.drop answer.canDlc.toNat := by
  -- the buffer holds the frame at each of the three reads, and when its flag is cleared
  obtain ⟨store1, fills1, mirrors1⟩ := elapse_carries bus world store mirrors
  have full1 := (mirrors1.arrival (fills1.holds holds)).2
  have code : ((elapse env world).device.chip.registers (rxbn.sidh.toNat + 4)).toNat % 16 =
      item.code := congrArg Arrival.code full1
  obtain ⟨first, second, third, device1, device2, device3, read⟩ :=
    readMessageOn_reads bus leftovers rxbn frame world (by rw [code]; exact fits)
  rw [← device1] at mirrors1 full1
  obtain ⟨store2, fills2, mirrors2⟩ := elapse_carries bus first store1 mirrors1
  have fills2 := fills1.trans fills2
  have full2 := (mirrors2.arrival (fills2.holds holds)).2
  rw [← device2] at mirrors2 full2
  obtain ⟨store3, fills3, mirrors3⟩ := elapse_carries bus second store2 mirrors2
  have fills3 := fills2.trans fills3
  have full3 := (mirrors3.arrival (fills3.holds holds)).2
  rw [← device3] at mirrors3 full3
  obtain ⟨store4, fills4, mirrors4⟩ := elapse_carries bus third store3 mirrors3
  have fills4 := fills3.trans fills4
  refine ⟨store4, _, _, fills4.holds holds, fills4, ?_, read,
    received_arrival full1 full2 full3 fits frame, received_wireId _ _ _, received_tail _ _ _⟩
  have device := (exchange_node bus third [instructionBitmod, canintf, rxbn.rxnif, 0]).2
  constructor
  · unfold modifyRegister
    rw [device, clear_slot, mirrors4.slots]
    rfl
  · unfold modifyRegister
    rw [device, execute_heard, mirrors4.heard]
    rfl

end Steps

end Reading

end Mcp2515
