import Mathlib.Logic.Function.Basic
import Rxu01.EspNowDriver
import Rxu01.Reactive

set_option autoImplicit false

/- The peers of `esp_now_driver.cpp` and what it sends to them, with the peer table
of ESP-NOW behind it. -/
namespace EspNowDriver

open EspIdf (EspErr espErrInvalidArg espErrInvalidState espOk)
open Reactive (run)

abbrev keyLength : Nat := 16

abbrev Key : Type := Vector UInt8 keyLength

abbrev espErrEspNowNotFound : EspErr := 0x3069

def zeroKey : Key := Vector.replicate keyLength 0

def zeroMac : Mac := Vector.replicate macAddressSize 0

def broadcastMac : Mac := Vector.replicate macAddressSize 0xFF

def isZeroAddress (mac : Mac) : Bool := mac == zeroMac

def isBroadcastAddress (mac : Mac) : Bool := mac == broadcastMac

structure PeerConfig where
  mac : Mac := zeroMac
  channel : UInt8 := 0
  interface : WifiInterface := .station
  encrypt : Bool := false
  lmk : Key := zeroKey
  deriving DecidableEq

/-- `esp_now_peer_info_t`, without the pointer the driver leaves null. -/
structure PeerInfo where
  peerAddr : Mac
  lmk : Key := zeroKey
  channel : UInt8
  ifidx : WifiInterface
  encrypt : Bool
  deriving DecidableEq

/-- The calls of ESP-NOW about peers, each with what it returns. -/
inductive PeerAction where
  | setPmk (pmk : Key) (result : EspErr)
  | addPeer (peer : PeerInfo) (result : EspErr)
  | modPeer (peer : PeerInfo) (result : EspErr)
  | delPeer (mac : Mac) (result : EspErr)
  | send (mac : Mac) (data : List UInt8) (result : EspErr)
  deriving DecidableEq

def PeerAction.result : PeerAction → EspErr
  | .setPmk _ result => result
  | .addPeer _ result => result
  | .modPeer _ result => result
  | .delPeer _ result => result
  | .send _ _ result => result

/-- The peers inside ESP-NOW: what its calls do to them, and what `esp_now_is_peer_exist` and
`esp_now_get_peer` say of them. The driver calls the first of the two. -/
structure PeerTable (τ : Type) where
  blank : τ
  isPeerExist : τ → Mac → Bool
  getPeer : τ → Mac → Option PeerInfo
  perform : τ → PeerAction → τ
  performLife : τ → Action → τ

/-- The module's variables, and the peers behind it. -/
structure Station (τ : Type) where
  driver : Driver := {}
  peers : τ

variable {τ : Type}

namespace PeerTable

/-- What the documentation says of them: an added peer is there and a deleted one is not, a
failed call changes nothing, and `esp_now_deinit` deletes them all. -/
structure Documented (table : PeerTable τ) : Prop where
  blank : table.getPeer table.blank = fun _ => none
  isPeerExist : ∀ peers mac, table.isPeerExist peers mac = (table.getPeer peers mac).isSome
  failed : ∀ peers action, action.result ≠ espOk →
    table.getPeer (table.perform peers action) = table.getPeer peers
  addPeer : ∀ peers peer, table.getPeer peers peer.peerAddr = none →
    table.getPeer (table.perform peers (.addPeer peer espOk)) =
      Function.update (table.getPeer peers) peer.peerAddr (some peer)
  modPeer : ∀ peers peer, (table.getPeer peers peer.peerAddr).isSome = true →
    table.getPeer (table.perform peers (.modPeer peer espOk)) =
      Function.update (table.getPeer peers) peer.peerAddr (some peer)
  delPeer : ∀ peers mac, (table.getPeer peers mac).isSome = true →
    table.getPeer (table.perform peers (.delPeer mac espOk)) =
      Function.update (table.getPeer peers) mac none
  setPmk : ∀ peers pmk result,
    table.getPeer (table.perform peers (.setPmk pmk result)) = table.getPeer peers
  send : ∀ peers mac data result,
    table.getPeer (table.perform peers (.send mac data result)) = table.getPeer peers
  deinit : ∀ peers, table.getPeer (table.performLife peers (.espNowDeinit espOk)) = fun _ => none
  other : ∀ peers action, action ≠ .espNowDeinit espOk →
    table.getPeer (table.performLife peers action) = table.getPeer peers

end PeerTable

section Driver

variable (table : PeerTable τ)

/-- In the functions below `result` is what the call of ESP-NOW returns, if it is made. -/
def setPrimaryMasterKey (station : Station τ) (pmk : Option Key) (result : EspErr) :
    EspErr × List PeerAction :=
  if ¬ station.driver.initialized then (espErrInvalidState, [])
  else
    match pmk with
    | none => (espErrInvalidArg, [])
    | some pmk => (result, [.setPmk pmk result])

/-- The entry `add_peer` fills in. -/
def nativePeer (config : Config) (peer : PeerConfig) : PeerInfo :=
  { peerAddr := peer.mac
    lmk := if peer.encrypt then peer.lmk else zeroKey
    channel := if peer.channel = 0 then config.defaultPeerChannel else peer.channel
    ifidx := peer.interface
    encrypt := peer.encrypt }

def addPeer (station : Station τ) (peer : PeerConfig) (result : EspErr) :
    EspErr × List PeerAction :=
  if ¬ station.driver.initialized then (espErrInvalidState, [])
  else if ¬ isValidInterface peer.interface ∨ ¬ isValidChannel peer.channel ∨
      isZeroAddress peer.mac then
    (espErrInvalidArg, [])
  else if peer.encrypt ∧ isBroadcastAddress peer.mac then (espErrInvalidArg, [])
  else if table.isPeerExist station.peers peer.mac then
    (result, [.modPeer (nativePeer station.driver.config peer) result])
  else (result, [.addPeer (nativePeer station.driver.config peer) result])

def removePeer (station : Station τ) (mac : Option Mac) (result : EspErr) :
    EspErr × List PeerAction :=
  if ¬ station.driver.initialized then (espErrInvalidState, [])
  else
    match mac with
    | none => (espErrInvalidArg, [])
    | some mac =>
        if ¬ table.isPeerExist station.peers mac then (espErrEspNowNotFound, [])
        else (result, [.delPeer mac result])

def peerExists (station : Station τ) (mac : Option Mac) : Bool :=
  station.driver.initialized && (mac.map (table.isPeerExist station.peers)).getD false

/-- `data` is what the pointer and the length given stand for. -/
def send (station : Station τ) (destinationMac : Option Mac) (data : Option (List UInt8))
    (result : EspErr) : EspErr × List PeerAction :=
  if ¬ station.driver.initialized then (espErrInvalidState, [])
  else
    match destinationMac, data with
    | some mac, some data =>
        if data.length = 0 ∨ maxPayloadSize < data.length then (espErrInvalidArg, [])
        else if ¬ table.isPeerExist station.peers mac then (espErrEspNowNotFound, [])
        else (result, [.send mac data result])
    | _, _ => (espErrInvalidArg, [])

inductive PeerCall where
  | init (config : Config) (outcome : InitOutcome)
  | deinit (result : EspErr)
  | setPrimaryMasterKey (pmk : Option Key) (result : EspErr)
  | addPeer (peer : PeerConfig) (result : EspErr)
  | removePeer (mac : Option Mac) (result : EspErr)
  | send (destinationMac : Option Mac) (data : Option (List UInt8)) (result : EspErr)

/-- What a call returns, and the statements it runs. -/
structure PeerOutput where
  returned : EspErr
  life : List Action := []
  actions : List PeerAction := []

def peerOutput (station : Station τ) : PeerCall → PeerOutput
  | .init config outcome =>
      { returned := (init station.driver config outcome).1
        life := (init station.driver config outcome).2 }
  | .deinit result =>
      { returned := (deinit station.driver result).1
        life := (deinit station.driver result).2 }
  | .setPrimaryMasterKey pmk result =>
      { returned := (setPrimaryMasterKey station pmk result).1
        actions := (setPrimaryMasterKey station pmk result).2 }
  | .addPeer peer result =>
      { returned := (addPeer table station peer result).1
        actions := (addPeer table station peer result).2 }
  | .removePeer mac result =>
      { returned := (removePeer table station mac result).1
        actions := (removePeer table station mac result).2 }
  | .send mac data result =>
      { returned := (send table station mac data result).1
        actions := (send table station mac data result).2 }

def peerStep (station : Station τ) (call : PeerCall) : Station τ × PeerOutput :=
  let output := peerOutput table station call
  ({ driver := performAll station.driver output.life
     peers := output.actions.foldl table.perform
       (output.life.foldl table.performLife station.peers) },
    output)

end Driver

/-- What a caller can know from its calls and their results: the configuration the driver was
opened with, and the peers added with success since they were last removed and since ESP-NOW
was last shut down, as they were last given and under the configuration of that moment. -/
structure Known where
  opened : Option Config := none
  peers : Mac → Option (Config × PeerConfig) := fun _ => none

def know (known : Known) (call : PeerCall) (output : PeerOutput) : Known :=
  let left := if Action.espNowDeinit espOk ∈ output.life then fun _ => none else known.peers
  match call with
  | .init config _ =>
      { opened :=
          if output.returned = espOk then some (known.opened.getD config) else known.opened
        peers := left }
  | .deinit _ => { opened := none, peers := left }
  | .addPeer peer _ =>
      if output.returned = espOk then
        { known with
          peers := Function.update known.peers peer.mac
            (known.opened.map fun config => (config, peer)) }
      else known
  | .removePeer (some mac) _ =>
      if output.returned = espOk then
        { known with peers := Function.update known.peers mac none }
      else known
  | _ => known

def knownAfter (table : PeerTable τ) : Station τ → Known → List PeerCall → Known
  | _, known, [] => known
  | station, known, call :: rest =>
      knownAfter table (peerStep table station call).1
        (know known call (peerStep table station call).2) rest

/-- An entry has the data that were given, the default channel for channel 0, and a key only
if it is encrypted. -/
structure Stands (mac : Mac) (entry : PeerInfo) (given : Config × PeerConfig) : Prop where
  own : given.2.mac = mac
  peerAddr : entry.peerAddr = mac
  channel : entry.channel =
    if given.2.channel = 0 then given.1.defaultPeerChannel else given.2.channel
  ifidx : entry.ifidx = given.2.interface
  encrypt : entry.encrypt = given.2.encrypt
  lmk : given.2.encrypt = true → entry.lmk = given.2.lmk
  plain : given.2.encrypt = false → entry.lmk = zeroKey

/-- What the driver lets through. -/
structure PeerInfo.Acceptable (peer : PeerInfo) : Prop where
  interface : isValidInterface peer.ifidx = true
  channel : isValidChannel peer.channel = true
  unicast : peer.peerAddr ≠ zeroMac
  encrypted : peer.encrypt = true → peer.peerAddr ≠ broadcastMac
  plain : peer.encrypt = false → peer.lmk = zeroKey

/-- A call of ESP-NOW that fits the peers known so far. -/
def PeerAction.Fits (known : Known) : PeerAction → Prop
  | .setPmk _ _ => True
  | .addPeer peer _ => known.peers peer.peerAddr = none ∧ peer.Acceptable
  | .modPeer peer _ => (known.peers peer.peerAddr).isSome = true ∧ peer.Acceptable
  | .delPeer mac _ => (known.peers mac).isSome = true
  | .send mac data _ =>
      (known.peers mac).isSome = true ∧ 1 ≤ data.length ∧ data.length ≤ maxPayloadSize

/-- The driver and the peers behind it are as the caller knows them. -/
structure Registers (table : PeerTable τ) (station : Station τ) (known : Known) : Prop where
  opened : known.opened = if station.driver.initialized then some station.driver.config else none
  entries : ∀ mac, Option.Rel (Stands mac) (table.getPeer station.peers mac) (known.peers mac)
  acceptable : ∀ mac entry, table.getPeer station.peers mac = some entry → entry.Acceptable
  channel : isValidChannel station.driver.config.defaultPeerChannel = true

section Init

variable (driver : Driver) (config : Config) (outcome : InitOutcome)

/-- A configuration is stored only after it passed the checks. -/
theorem init_channel {stored : Config}
    (member : Action.storeConfig stored ∈ (init driver config outcome).2) :
    isValidChannel stored.defaultPeerChannel = true := by
  by_cases valid : isValidChannel config.defaultPeerChannel = true
  · have ended := init_run driver config outcome
    generalize init driver config outcome = result at member ended
    cases ended with
    | repeated => cases member
    | refused => cases member
    | gaveUp closed failed gives => cases gives <;> simp [deleteQueues] at member
    | opened closed =>
        simp only [List.mem_cons, Action.storeConfig.injEq, reduceCtorEq, false_or, or_false,
          List.not_mem_nil] at member
        rw [member]
        exact valid
  · unfold init at member
    split at member
    · cases member
    · rw [if_pos (Or.inr (Or.inl valid))] at member
      cases member

end Init

/-- What is left of the configuration after a call. -/
theorem performAll_config (actions : List Action) (driver : Driver)
    (start : isValidChannel driver.config.defaultPeerChannel = true)
    (stores : ∀ stored, Action.storeConfig stored ∈ actions →
      isValidChannel stored.defaultPeerChannel = true) :
    isValidChannel (performAll driver actions).config.defaultPeerChannel = true := by
  induction actions generalizing driver with
  | nil => exact start
  | cons action rest ih =>
      have next : isValidChannel (perform driver action).config.defaultPeerChannel = true := by
        cases action with
        | storeConfig stored => exact stores stored List.mem_cons_self
        | espNowInit result => unfold perform; dsimp only; split <;> exact start
        | espNowDeinit result => unfold perform; dsimp only; split <;> exact start
        | registerRecvCb result => unfold perform; dsimp only; split <;> exact start
        | registerSendCb result => unfold perform; dsimp only; split <;> exact start
        | _ => exact start
      exact ih (perform driver action) next
        (fun stored member => stores stored (List.mem_cons_of_mem _ member))

section Table

variable {table : PeerTable τ} (documented : table.Documented)
include documented

theorem PeerTable.Documented.life (actions : List Action) (peers : τ) :
    table.getPeer (actions.foldl table.performLife peers) =
      if Action.espNowDeinit espOk ∈ actions then fun _ => none else table.getPeer peers := by
  induction actions generalizing peers with
  | nil => rfl
  | cons action rest ih =>
      rw [List.foldl_cons, ih]
      by_cases here : action = .espNowDeinit espOk
      · simp [here, documented.deinit]
      · have apart : Action.espNowDeinit espOk ≠ action := Ne.symm here
        simp [apart, documented.other peers action here]

end Table

theorem performAll_initialized {actions : List Action}
    (keeps : ∀ value, Action.storeInitialized value ∉ actions) (driver : Driver) :
    (performAll driver actions).initialized = driver.initialized := by
  induction actions generalizing driver with
  | nil => rfl
  | cons action rest ih =>
      have next : (perform driver action).initialized = driver.initialized := by
        cases action with
        | storeInitialized value => exact absurd List.mem_cons_self (keeps value)
        | espNowInit result | espNowDeinit result | registerRecvCb result | registerSendCb result =>
            unfold perform
            dsimp only
            split
            · rfl
            · rfl
        | _ => rfl
      exact (ih (fun value member => keeps value (List.mem_cons_of_mem _ member)) _).trans next

section Entries

variable {entries : Mac → Option PeerInfo} {given : Mac → Option (Config × PeerConfig)}

theorem stands_update (related : ∀ mac, Option.Rel (Stands mac) (entries mac) (given mac))
    (changed : Mac) {entry : Option PeerInfo} {data : Option (Config × PeerConfig)}
    (new : Option.Rel (Stands changed) entry data) (mac : Mac) :
    Option.Rel (Stands mac) (Function.update entries changed entry mac)
      (Function.update given changed data mac) := by
  by_cases same : mac = changed
  · subst same
    rw [Function.update_self, Function.update_self]
    exact new
  · rw [Function.update_of_ne same, Function.update_of_ne same]
    exact related mac

theorem acceptable_update (acceptable : ∀ mac entry, entries mac = some entry → entry.Acceptable)
    (changed : Mac) {new : Option PeerInfo} (accepts : ∀ entry ∈ new, entry.Acceptable)
    (mac : Mac) (entry : PeerInfo) (found : Function.update entries changed new mac = some entry) :
    entry.Acceptable := by
  by_cases same : mac = changed
  · subst same
    rw [Function.update_self] at found
    exact accepts entry found
  · rw [Function.update_of_ne same] at found
    exact acceptable mac entry found

end Entries

theorem nativePeer_stands (config : Config) (peer : PeerConfig) :
    Stands peer.mac (nativePeer config peer) (config, peer) := by
  refine ⟨rfl, rfl, rfl, rfl, rfl, fun encrypted => ?_, fun plain => ?_⟩
  · exact if_pos encrypted
  · exact if_neg (by rw [plain]; decide)

/-- A peer that passed the checks of `add_peer`. -/
theorem nativePeer_acceptable {config : Config} {peer : PeerConfig}
    (default : isValidChannel config.defaultPeerChannel = true)
    (valid : ¬ (¬ isValidInterface peer.interface ∨ ¬ isValidChannel peer.channel ∨
      isZeroAddress peer.mac))
    (secret : ¬ (peer.encrypt ∧ isBroadcastAddress peer.mac)) :
    (nativePeer config peer).Acceptable := by
  simp only [not_or, Decidable.not_not] at valid
  obtain ⟨interface, channel, unicast⟩ := valid
  refine ⟨interface, ?_, ?_, ?_, ?_⟩
  · unfold nativePeer
    dsimp only
    split
    · exact default
    · exact channel
  · exact fun zero => unicast (beq_iff_eq.mpr zero)
  · intro encrypted broadcast
    exact secret ⟨encrypted, beq_iff_eq.mpr broadcast⟩
  · intro plain
    simp only [nativePeer] at plain ⊢
    simp [plain]

theorem peerStep_eq {table : PeerTable τ} {station : Station τ} {call : PeerCall}
    {output : PeerOutput} (made : peerOutput table station call = output) :
    peerStep table station call =
      ({ driver := performAll station.driver output.life
         peers := output.actions.foldl table.perform
           (output.life.foldl table.performLife station.peers) }, output) := by
  rw [peerStep, made]

/-- The call of ESP-NOW that `add_peer` makes. -/
def putAction (table : PeerTable τ) (station : Station τ) (peer : PeerConfig) (result : EspErr) :
    PeerAction :=
  if table.isPeerExist station.peers peer.mac then
    .modPeer (nativePeer station.driver.config peer) result
  else .addPeer (nativePeer station.driver.config peer) result

theorem addPeer_cases (table : PeerTable τ) (station : Station τ) (peer : PeerConfig)
    (result : EspErr) :
    (∃ error, error ≠ espOk ∧ addPeer table station peer result = (error, [])) ∨
      (station.driver.initialized = true ∧
        ¬ (¬ isValidInterface peer.interface ∨ ¬ isValidChannel peer.channel ∨
          isZeroAddress peer.mac) ∧
        ¬ (peer.encrypt ∧ isBroadcastAddress peer.mac) ∧
        addPeer table station peer result = (result, [putAction table station peer result])) := by
  unfold addPeer putAction
  split
  · exact Or.inl ⟨_, by decide, rfl⟩
  · rename_i initialized
    split
    · exact Or.inl ⟨_, by decide, rfl⟩
    · rename_i valid
      split
      · exact Or.inl ⟨_, by decide, rfl⟩
      · rename_i secret
        refine Or.inr ⟨Decidable.not_not.mp initialized, valid, secret, ?_⟩
        split
        · rfl
        · rfl

theorem removePeer_cases (table : PeerTable τ) (station : Station τ) (mac : Option Mac)
    (result : EspErr) :
    (∃ error, error ≠ espOk ∧ removePeer table station mac result = (error, [])) ∨
      ∃ known, mac = some known ∧ table.isPeerExist station.peers known = true ∧
        removePeer table station mac result = (result, [.delPeer known result]) := by
  unfold removePeer
  split
  · exact Or.inl ⟨_, by decide, rfl⟩
  · cases mac with
    | none => exact Or.inl ⟨_, by decide, rfl⟩
    | some mac =>
        dsimp only
        split
        · exact Or.inl ⟨_, by decide, rfl⟩
        · rename_i present
          exact Or.inr ⟨mac, rfl, Decidable.not_not.mp present, rfl⟩

/-- The driver opens with the configuration it stores, and closes before it drops it. -/
theorem init_opened (driver : Driver) (config : Config) (outcome : InitOutcome)
    {opened : Option Config}
    (before : opened = if driver.initialized then some driver.config else none) :
    let after := performAll driver (init driver config outcome).2
    (if (init driver config outcome).1 = espOk then some (opened.getD config) else opened) =
      if after.initialized then some after.config else none := by
  have ended := init_run driver config outcome
  generalize init driver config outcome = result at ended ⊢
  cases ended with
  | repeated initialized =>
      rw [initialized, if_pos rfl] at before
      rw [before]
      change some driver.config = if driver.initialized then some driver.config else none
      rw [initialized, if_pos rfl]
  | refused closed =>
      rw [if_neg (show espErrInvalidArg ≠ espOk by decide)]
      exact before
  | gaveUp closed failed gives =>
      dsimp only
      rw [closed, if_neg Bool.false_ne_true] at before
      rw [if_neg failed, performAll_initialized ?_ driver, closed, before]
      · rfl
      · intro value member
        cases gives <;> simp [deleteQueues] at member
  | opened closed =>
      rw [closed, if_neg Bool.false_ne_true] at before
      rw [before]
      rfl

section Calls

variable {table : PeerTable τ} (documented : table.Documented) {station : Station τ}
  {known : Known} (registers : Registers table station known)

include registers

/-- A call after which driver and peers are as before. -/
theorem Registers.keep {after : Station τ} (driver : after.driver = station.driver)
    (peers : table.getPeer after.peers = table.getPeer station.peers) :
    Registers table after known := by
  refine ⟨?_, ?_, ?_, ?_⟩
  · rw [driver]
    exact registers.opened
  · rw [peers]
    exact registers.entries
  · rw [peers]
    exact registers.acceptable
  · rw [driver]
    exact registers.channel

include documented

theorem Registers.exists_iff (mac : Mac) :
    table.isPeerExist station.peers mac = (known.peers mac).isSome := by
  rw [documented.isPeerExist]
  have related := registers.entries mac
  generalize table.getPeer station.peers mac = entry at related
  generalize known.peers mac = given at related
  cases related with
  | none => rfl
  | some _ => rfl

omit registers in
/-- Whichever of its two calls `add_peer` makes. -/
theorem getPeer_put (station : Station τ) (peer : PeerConfig) :
    table.getPeer (table.perform station.peers (putAction table station peer espOk)) =
      Function.update (table.getPeer station.peers) peer.mac
        (some (nativePeer station.driver.config peer)) := by
  have present := documented.isPeerExist station.peers peer.mac
  unfold putAction
  split
  · rename_i there
    exact documented.modPeer _ (nativePeer station.driver.config peer) (present.symm.trans there)
  · rename_i absent
    rw [present, Bool.not_eq_true, Option.isSome_eq_false_iff, Option.isNone_iff_eq_none] at absent
    exact documented.addPeer _ (nativePeer station.driver.config peer) absent

theorem addPeer_registers (peer : PeerConfig) (result : EspErr) :
    Registers table (peerStep table station (.addPeer peer result)).1
        (know known (.addPeer peer result)
          (peerStep table station (.addPeer peer result)).2) ∧
      ∀ action ∈ (peerStep table station (.addPeer peer result)).2.actions, action.Fits known := by
  rcases addPeer_cases table station peer result with
    ⟨error, failed, made⟩ | ⟨initialized, valid, secret, made⟩
  · have output : peerOutput table station (.addPeer peer result) = { returned := error } := by
      rw [peerOutput, made]
    rw [peerStep_eq output, know, if_neg failed]
    exact ⟨registers, List.forall_mem_nil _⟩
  · have acceptable := nativePeer_acceptable registers.channel valid secret
    have opened := registers.opened
    rw [initialized, if_pos rfl] at opened
    have output : peerOutput table station (.addPeer peer result) =
        { returned := result, actions := [putAction table station peer result] } := by
      rw [peerOutput, made]
    rw [peerStep_eq output, know]
    constructor
    · by_cases success : result = espOk
      · subst success
        rw [if_pos rfl, opened]
        have peers := getPeer_put documented station peer
        refine ⟨?_, ?_, ?_, registers.channel⟩
        · rw [← opened]
          exact registers.opened
        · dsimp only [List.foldl_nil, List.foldl_cons]
          rw [peers]
          exact stands_update registers.entries _ (.some (nativePeer_stands _ _))
        · dsimp only [List.foldl_nil, List.foldl_cons]
          rw [peers]
          refine acceptable_update registers.acceptable _ ?_
          rintro entry ⟨⟩
          exact acceptable
      · rw [if_neg success]
        refine registers.keep rfl (documented.failed _ _ ?_)
        unfold putAction
        split
        · exact success
        · exact success
    · intro action member
      have present := registers.exists_iff documented peer.mac
      rw [List.mem_singleton.mp member]
      unfold putAction
      split
      · rename_i there
        exact ⟨present.symm.trans there, acceptable⟩
      · rename_i absent
        rw [present, Bool.not_eq_true, Option.isSome_eq_false_iff, Option.isNone_iff_eq_none]
          at absent
        exact ⟨absent, acceptable⟩

theorem removePeer_registers (mac : Option Mac) (result : EspErr) :
    Registers table (peerStep table station (.removePeer mac result)).1
        (know known (.removePeer mac result)
          (peerStep table station (.removePeer mac result)).2) ∧
      ∀ action ∈ (peerStep table station (.removePeer mac result)).2.actions,
        action.Fits known := by
  rcases removePeer_cases table station mac result with
    ⟨error, failed, made⟩ | ⟨mac, rfl, present, made⟩
  · have output : peerOutput table station (.removePeer mac result) = { returned := error } := by
      rw [peerOutput, made]
    rw [peerStep_eq output]
    cases mac with
    | none => exact ⟨registers, List.forall_mem_nil _⟩
    | some mac =>
        rw [know, if_neg failed]
        exact ⟨registers, List.forall_mem_nil _⟩
  · have output : peerOutput table station (.removePeer (some mac) result) =
        { returned := result, actions := [.delPeer mac result] } := by
      rw [peerOutput, made]
    rw [peerStep_eq output, know]
    constructor
    · by_cases success : result = espOk
      · subst success
        have peers := documented.delPeer station.peers mac
          ((documented.isPeerExist _ _).symm.trans present)
        rw [if_pos rfl]
        refine ⟨registers.opened, ?_, ?_, registers.channel⟩
        · dsimp only [List.foldl_nil, List.foldl_cons]
          rw [peers]
          exact stands_update registers.entries mac .none
        · dsimp only [List.foldl_nil, List.foldl_cons]
          rw [peers]
          exact acceptable_update registers.acceptable mac (fun entry none => nomatch none)
      · rw [if_neg success]
        exact registers.keep rfl (documented.failed _ _ success)
    · intro action member
      rw [List.mem_singleton.mp member]
      exact (registers.exists_iff documented mac).symm.trans present

theorem send_registers (mac : Option Mac) (data : Option (List UInt8)) (result : EspErr) :
    Registers table (peerStep table station (.send mac data result)).1 known ∧
      ∀ action ∈ (peerStep table station (.send mac data result)).2.actions,
        action.Fits known := by
  unfold peerStep peerOutput
  dsimp only
  unfold send
  split
  · exact ⟨registers, List.forall_mem_nil _⟩
  · split
    · split
      · exact ⟨registers, List.forall_mem_nil _⟩
      · rename_i length
        split
        · exact ⟨registers, List.forall_mem_nil _⟩
        · rename_i present
          refine ⟨registers.keep rfl (documented.send _ _ _ _), fun action member => ?_⟩
          rw [Decidable.not_not, registers.exists_iff documented] at present
          rw [List.mem_singleton.mp member]
          refine ⟨present, ?_⟩
          omega
    · exact ⟨registers, List.forall_mem_nil _⟩

/-- A call of `init` or `deinit` empties the table or leaves it. -/
theorem life_registers {actions : List Action} {opened : Option Config}
    (stores : ∀ stored, Action.storeConfig stored ∈ actions →
      isValidChannel stored.defaultPeerChannel = true)
    (same : opened = if (performAll station.driver actions).initialized then
      some (performAll station.driver actions).config else none) :
    Registers table
      { driver := performAll station.driver actions
        peers := actions.foldl table.performLife station.peers }
      { opened := opened
        peers := if Action.espNowDeinit espOk ∈ actions then fun _ => none else known.peers } := by
  have channel := performAll_config actions station.driver registers.channel stores
  have peers := documented.life actions station.peers
  by_cases down : Action.espNowDeinit espOk ∈ actions
  · rw [if_pos down] at peers
    rw [if_pos down]
    refine ⟨same, fun mac => ?_, fun mac entry found => ?_, channel⟩
    · rw [peers]
      exact .none
    · rw [peers] at found
      cases found
  · rw [if_neg down] at peers
    rw [if_neg down]
    refine ⟨same, fun mac => ?_, fun mac entry found => ?_, channel⟩
    · rw [peers]
      exact registers.entries mac
    · rw [peers] at found
      exact registers.acceptable mac entry found

omit documented registers in
theorem deinit_shuts (driver : Driver) (result : EspErr) :
    (performAll driver (deinit driver result).2).initialized = false := by
  unfold deinit
  split
  · rename_i closed
    exact Bool.of_not_eq_true closed
  · by_cases success : result = espOk
    · simp [performAll, perform, deleteQueues, success]
    · simp [performAll, perform, deleteQueues, success]

omit documented registers in
theorem deinit_channel (driver : Driver) (result : EspErr) {stored : Config}
    (member : Action.storeConfig stored ∈ (deinit driver result).2) :
    isValidChannel stored.defaultPeerChannel = true := by
  unfold deinit at member
  split at member
  · cases member
  · simp only [deleteQueues, List.cons_append, List.nil_append, List.mem_cons, reduceCtorEq,
      Action.storeConfig.injEq, List.not_mem_nil, false_or, or_false] at member
    rw [member]
    decide

/-- One call of any kind. -/
theorem peerStep_registers (call : PeerCall) :
    Registers table (peerStep table station call).1
        (know known call (peerStep table station call).2) ∧
      ∀ action ∈ (peerStep table station call).2.actions, action.Fits known := by
  cases call with
  | init config outcome =>
      exact ⟨life_registers documented registers
        (fun stored => init_channel station.driver config outcome)
        (init_opened station.driver config outcome registers.opened), List.forall_mem_nil _⟩
  | deinit result =>
      exact ⟨life_registers documented registers
        (fun stored => deinit_channel station.driver result)
        (if_neg (Bool.eq_false_iff.mp (deinit_shuts station.driver result))).symm,
        List.forall_mem_nil _⟩
  | setPrimaryMasterKey pmk result =>
      unfold peerStep peerOutput know
      dsimp only
      unfold setPrimaryMasterKey
      split
      · exact ⟨registers, List.forall_mem_nil _⟩
      · split
        · exact ⟨registers, List.forall_mem_nil _⟩
        · refine ⟨registers.keep rfl (documented.setPmk _ _ _), fun action member => ?_⟩
          rw [List.mem_singleton.mp member]
          trivial
  | addPeer peer result => exact addPeer_registers documented registers peer result
  | removePeer mac result => exact removePeer_registers documented registers mac result
  | send mac data result => exact send_registers documented registers mac data result

theorem run_registers (calls : List PeerCall) :
    Registers table (run (peerStep table) station calls)
      (knownAfter table station known calls) := by
  induction calls generalizing station known with
  | nil => exact registers
  | cons call rest ih => exact ih (peerStep_registers documented registers call).1

end Calls

section Start

variable {table : PeerTable τ} (documented : table.Documented)
include documented

theorem registers_start : Registers table { peers := table.blank } {} := by
  refine ⟨rfl, fun mac => ?_, fun mac entry found => ?_, rfl⟩
  · rw [documented.blank]
    exact .none
  · rw [documented.blank] at found
    cases found

/-- From the start, over any calls and whatever ESP-NOW answers: it has just the peers the
returned values tell of, each with the data last given and acceptable; `peer_exists` says so;
and every call made to ESP-NOW fits them, so that no known peer is added, no unknown one
changed, removed or sent to, and nothing sent that is empty or too long. -/
theorem peers_registered (calls : List PeerCall) :
    let station := run (peerStep table) { peers := table.blank } calls
    let known := knownAfter table { peers := table.blank } {} calls
    (∀ mac, Option.Rel (Stands mac) (table.getPeer station.peers mac) (known.peers mac)) ∧
      (∀ mac entry, table.getPeer station.peers mac = some entry → entry.Acceptable) ∧
      (∀ mac, peerExists table station (some mac) =
        (known.opened.isSome && (known.peers mac).isSome)) ∧
      ∀ call, ∀ action ∈ (peerStep table station call).2.actions, action.Fits known := by
  have registers := run_registers documented (registers_start documented) calls
  refine ⟨registers.entries, registers.acceptable, ?_, ?_⟩
  · intro mac
    rw [peerExists, Option.map_some, Option.getD_some, registers.exists_iff documented mac,
      registers.opened]
    split
    · rename_i open_
      rw [open_]
      rfl
    · rename_i closed
      rw [Bool.of_not_eq_true closed]
      rfl
  · exact fun call => (peerStep_registers documented registers call).2

end Start

/-- A table that is a function. -/
def functionTable : PeerTable (Mac → Option PeerInfo) :=
  { blank := fun _ => none
    isPeerExist := fun peers mac => (peers mac).isSome
    getPeer := id
    perform := fun peers action =>
      match action with
      | .addPeer peer result =>
          if result = espOk then Function.update peers peer.peerAddr (some peer) else peers
      | .modPeer peer result =>
          if result = espOk then Function.update peers peer.peerAddr (some peer) else peers
      | .delPeer mac result => if result = espOk then Function.update peers mac none else peers
      | _ => peers
    performLife := fun peers action =>
      if action = .espNowDeinit espOk then fun _ => none else peers }

theorem functionTable_documented : functionTable.Documented where
  blank := rfl
  isPeerExist _ _ := rfl
  failed peers action failed := by
    cases action with
    | addPeer | modPeer | delPeer => exact if_neg failed
    | setPmk | send => rfl
  addPeer _ _ _ := rfl
  modPeer _ _ _ := rfl
  delPeer _ _ _ := rfl
  setPmk _ _ _ := rfl
  send _ _ _ _ := rfl
  deinit _ := rfl
  other _ _ differs := if_neg differs

/-- A peer that is given twice, at first without a key. -/
def sampleCalls : List PeerCall :=
  [.init { defaultPeerChannel := 6 } {}, .addPeer { mac := broadcastMac } espOk,
    .addPeer { mac := Vector.replicate macAddressSize 2 } espOk,
    .addPeer { mac := Vector.replicate macAddressSize 2, encrypt := true } espOk]

theorem peers_registered_sample :
    ∃ entry, functionTable.getPeer (run (peerStep functionTable) { peers := functionTable.blank }
        sampleCalls).peers (Vector.replicate macAddressSize 2) = some entry ∧
      entry.channel = 6 ∧ entry.encrypt = true := by
  have related := (peers_registered functionTable_documented sampleCalls).1
    (Vector.replicate macAddressSize 2)
  have given : (knownAfter functionTable { peers := functionTable.blank } {} sampleCalls).peers
      (Vector.replicate macAddressSize 2) =
        some ({ defaultPeerChannel := 6 },
          { mac := Vector.replicate macAddressSize 2, encrypt := true }) := by
    decide +kernel
  rw [given] at related
  generalize functionTable.getPeer (run (peerStep functionTable) { peers := functionTable.blank }
    sampleCalls).peers (Vector.replicate macAddressSize 2) = found at related ⊢
  cases related with
  | some stands => exact ⟨_, rfl, stands.channel, stands.encrypt⟩

end EspNowDriver
