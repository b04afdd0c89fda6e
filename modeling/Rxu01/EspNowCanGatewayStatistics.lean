import Rxu01.EspNowCanGateway
import Rxu01.Reactive
import Mathlib.Data.List.DropRight

set_option autoImplicit false

/- What the gateway's counters say about a run of calls. -/
namespace EspNowCanGateway

open CanCommandRouter (CanFrame buildFrame isValidConfig)
open EspIdf (EspErr espErrInvalidArg espOk)
open Reactive (run history)
open RemoteProtocol (Message)

variable {σ : Type}

/-- The calls that change the component. -/
inductive Operation (σ : Type) where
  | init (config : Config σ)
  | deinit
  | resetStatistics
  | processMessage (message : Message)

/-- What a caller sees of a call: `is_initialized` before it, the value returned,
and the invocations of the transmit callback. -/
structure Answer where
  initialized : Bool
  err : EspErr := espOk
  result : Option ProcessResult := none
  transmitted : List (CanFrame × TransmitResult) := []

/-- One call, on the component and on what is behind the callback. -/
def operate (state : Gateway σ × σ) : Operation σ → (Gateway σ × σ) × Answer
  | .init config =>
      let (err, gateway) := init config state.1
      ((gateway, state.2), { initialized := state.1.initialized, err := err })
  | .deinit =>
      let (err, gateway) := deinit state.1
      ((gateway, state.2), { initialized := state.1.initialized, err := err })
  | .resetStatistics =>
      ((resetStatistics state.1, state.2), { initialized := state.1.initialized })
  | .processMessage message =>
      let processed := processMessage message state.1 state.2
      ((processed.gateway, processed.context),
        { initialized := state.1.initialized
          result := some processed.result
          transmitted := processed.transmitted })

/-- The calls that zero the statistics. An `init` does unless it is refused or
finds the component initialised. -/
def zeroes (entry : Operation σ × Answer) : Bool :=
  match entry.1 with
  | .init _ => !entry.2.initialized && entry.2.err == espOk
  | .deinit => true
  | .resetStatistics => true
  | .processMessage _ => false

/-- The calls since the statistics were last zeroed. -/
def sinceZeroed (entries : List (Operation σ × Answer)) : List (Operation σ × Answer) :=
  entries.rtakeWhile (fun entry => !zeroes entry)

/-- A `process_message` call made while the component is initialised. -/
def counted (entry : Operation σ × Answer) : Bool :=
  match entry.1 with
  | .processMessage _ => entry.2.initialized
  | _ => false

def returnedOk (entry : Operation σ × Answer) : Bool := entry.2.result == some .ok

/-- The counters account for the calls, modulo `2 ^ 32`. -/
structure Accounts (entries : List (Operation σ × Answer)) (statistics : Statistics) : Prop where
  calls : UInt32.ofNat (entries.countP counted) =
    statistics.validationErrors + statistics.commandsRouted
  transmitted : UInt32.ofNat (entries.flatMap (fun entry => entry.2.transmitted)).length =
    statistics.commandsRouted
  outcomes : statistics.commandsRouted = statistics.framesSent + statistics.transmitErrors
  succeeded : UInt32.ofNat (entries.countP returnedOk) = statistics.framesSent

/-- An initialised gateway has a callback and valid tables. -/
structure Connected (gateway : Gateway σ) : Prop where
  transmit : gateway.initialized = true → gateway.config.transmit.isSome = true
  router : gateway.initialized = true → isValidConfig gateway.config.commandRouter = true

/-- The ways a call of `process_message` goes on a connected gateway. -/
inductive Handled (gateway : Gateway σ) (context : σ) : Processed σ → Prop where
  | ignored (off : gateway.initialized = false) :
      Handled gateway context ⟨.canTransmitFailed, gateway, context, []⟩
  | rejected (on : gateway.initialized = true) (result : ProcessResult) (failed : result ≠ .ok) :
      Handled gateway context ⟨result, countValidationError gateway, context, []⟩
  | transmitted (on : gateway.initialized = true) (frame : CanFrame)
      (transmit : TransmitCallback σ) :
      Handled gateway context
        ⟨mapTransmitResult (transmit frame context).1,
          countTransmit (transmit frame context).1 (countCommandRouted gateway),
          (transmit frame context).2, [(frame, (transmit frame context).1)]⟩

theorem mapRouteResult_failed {reason : CanCommandRouter.RouteResult} (failed : reason ≠ .ok) :
    mapRouteResult reason ≠ .ok := by
  cases reason <;> simp_all [mapRouteResult]

theorem processMessage_handled (message : Message) {gateway : Gateway σ} (context : σ)
    (connected : Connected gateway) :
    Handled gateway context (processMessage message gateway context) := by
  cases on : gateway.initialized with
  | false =>
      unfold processMessage
      rw [on]
      exact Handled.ignored on
  | true =>
      cases accepted : rejectsMessage message with
      | true =>
          unfold processMessage
          rw [on, accepted]
          exact Handled.rejected on _ (by decide)
      | false =>
          rcases built : buildFrame message gateway.config.commandRouter with ⟨reason, frame⟩
          by_cases success : reason = .ok
          · subst success
            obtain ⟨transmit, present⟩ := Option.isSome_iff_exists.mp (connected.transmit on)
            rw [processMessage_routed context on accepted built present]
            exact Handled.transmitted on frame transmit
          · rw [processMessage_refused context on accepted built success]
            exact Handled.rejected on _ (mapRouteResult_failed success)

/-- The three ways a call of `init` goes. -/
theorem init_cases (config : Config σ) (gateway : Gateway σ) :
    (gateway.initialized = true ∧ init config gateway = (espOk, gateway)) ∨
    (gateway.initialized = false ∧ init config gateway = (espErrInvalidArg, gateway)) ∨
    (gateway.initialized = false ∧ config.transmit.isSome = true ∧
      isValidConfig config.commandRouter = true ∧
      init config gateway =
        (espOk, { config := config, statistics := {}, initialized := true })) := by
  unfold init
  cases on : gateway.initialized with
  | true => exact Or.inl ⟨rfl, if_pos rfl⟩
  | false =>
      rw [if_neg Bool.false_ne_true]
      split
      · exact Or.inr (Or.inl ⟨rfl, rfl⟩)
      · rename_i accepted
        simp only [Bool.or_eq_true, not_or, Bool.not_eq_true', Bool.not_eq_false,
          Option.isNone_iff_eq_none] at accepted
        exact Or.inr (Or.inr ⟨rfl, Option.isSome_iff_ne_none.mpr accepted.1, accepted.2, rfl⟩)

theorem init_connected (config : Config σ) {gateway : Gateway σ} (connected : Connected gateway) :
    Connected (init config gateway).2 := by
  rcases init_cases config gateway with ⟨_, same⟩ | ⟨_, same⟩ | ⟨_, transmit, router, fresh⟩
  · rw [same]
    exact connected
  · rw [same]
    exact connected
  · rw [fresh]
    exact ⟨fun _ => transmit, fun _ => router⟩

theorem Handled.connected {gateway : Gateway σ} {context : σ} {processed : Processed σ}
    (handled : Handled gateway context processed) (connected : Connected gateway) :
    Connected processed.gateway := by
  cases handled with
  | ignored => exact connected
  | rejected => exact ⟨connected.transmit, connected.router⟩
  | transmitted => exact ⟨connected.transmit, connected.router⟩

theorem operate_connected (state : Gateway σ × σ) (operation : Operation σ)
    (connected : Connected state.1) : Connected (operate state operation).1.1 := by
  cases operation with
  | init config => exact init_connected config connected
  | deinit => exact ⟨nofun, nofun⟩
  | resetStatistics => exact ⟨connected.transmit, connected.router⟩
  | processMessage message =>
      exact (processMessage_handled message state.2 connected).connected connected

section Accounts

variable {entries : List (Operation σ × Answer)} {statistics : Statistics}

theorem Accounts.none : Accounts ([] : List (Operation σ × Answer)) {} := ⟨rfl, rfl, rfl, rfl⟩

/-- A call that neither counts nor transmits. -/
theorem Accounts.idle (accounts : Accounts entries statistics) {entry : Operation σ × Answer}
    (uncounted : counted entry = false) (quiet : entry.2.transmitted = [])
    (failed : returnedOk entry = false) : Accounts (entries ++ [entry]) statistics := by
  obtain ⟨calls, transmitted, outcomes, sent⟩ := accounts
  refine ⟨?_, ?_, outcomes, ?_⟩
  · simpa [List.countP_append, uncounted] using calls
  · simpa [List.flatMap_append, quiet] using transmitted
  · simpa [List.countP_append, failed] using sent

theorem Accounts.rejected (accounts : Accounts entries statistics) {entry : Operation σ × Answer}
    (count : counted entry = true) (quiet : entry.2.transmitted = [])
    (failed : returnedOk entry = false) :
    Accounts (entries ++ [entry])
      { statistics with validationErrors := statistics.validationErrors + 1 } := by
  obtain ⟨calls, transmitted, outcomes, sent⟩ := accounts
  refine ⟨?_, ?_, outcomes, ?_⟩
  · simp only [List.countP_append, List.countP_singleton, count, ↓reduceIte, UInt32.ofNat_add, calls]
    grind
  · simpa [List.flatMap_append, quiet] using transmitted
  · simpa [List.countP_append, failed] using sent

/-- A call that reaches the callback. -/
theorem Accounts.transmitted_snoc (accounts : Accounts entries statistics)
    {entry : Operation σ × Answer} (count : counted entry = true) {frame : CanFrame}
    {result : TransmitResult} (sent : entry.2.transmitted = [(frame, result)])
    (returned : returnedOk entry = true ↔ result = .ok) :
    Accounts (entries ++ [entry])
      (if result = .ok then
        { statistics with
          commandsRouted := statistics.commandsRouted + 1
          framesSent := statistics.framesSent + 1 }
      else
        { statistics with
          commandsRouted := statistics.commandsRouted + 1
          transmitErrors := statistics.transmitErrors + 1 }) := by
  obtain ⟨calls, transmitted, outcomes, succeeded⟩ := accounts
  have more : UInt32.ofNat ((entries ++ [entry]).countP counted) =
      statistics.validationErrors + (statistics.commandsRouted + 1) := by
    simp only [List.countP_append, List.countP_singleton, count, ↓reduceIte, UInt32.ofNat_add, calls]
    exact UInt32.add_assoc _ _ _
  have longer : UInt32.ofNat
      ((entries ++ [entry]).flatMap (fun entry => entry.2.transmitted)).length =
        statistics.commandsRouted + 1 := by
    simp only [List.flatMap_append, List.flatMap_singleton, sent, List.length_append,
      List.length_singleton, UInt32.ofNat_add, transmitted]
    rfl
  by_cases success : result = .ok
  · rw [if_pos success]
    refine ⟨more, longer, ?_, ?_⟩
    · dsimp only
      grind
    · simp only [List.countP_append, List.countP_singleton, returned.mpr success, ↓reduceIte,
        UInt32.ofNat_add, succeeded]
      rfl
  · rw [if_neg success]
    refine ⟨more, longer, ?_, ?_⟩
    · dsimp only
      grind
    · have failed : returnedOk entry = false := by
        rw [← Bool.not_eq_true, returned]
        exact success
      simpa [List.countP_append, failed] using succeeded

end Accounts

theorem sinceZeroed_snoc (entries : List (Operation σ × Answer)) (entry : Operation σ × Answer) :
    sinceZeroed (entries ++ [entry]) =
      if zeroes entry then [] else sinceZeroed entries ++ [entry] := by
  unfold sinceZeroed
  rw [List.rtakeWhile_concat]
  cases zeroes entry <;> rfl

/-- The statistics after a call, from those before it. -/
theorem operate_accounts {state : Gateway σ × σ} {entries : List (Operation σ × Answer)}
    (connected : Connected state.1) (accounts : Accounts (sinceZeroed entries) state.1.statistics)
    (operation : Operation σ) :
    Accounts (sinceZeroed (entries ++ [(operation, (operate state operation).2)]))
      (operate state operation).1.1.statistics := by
  rw [sinceZeroed_snoc]
  cases operation with
  | init config =>
      have made : operate state (.init config) = (((init config state.1).2, state.2),
          { initialized := state.1.initialized, err := (init config state.1).1 }) := rfl
      rw [made]
      rcases init_cases config state.1 with ⟨on, same⟩ | ⟨off, same⟩ | ⟨off, _, _, same⟩
      · rw [same, on]
        exact accounts.idle rfl rfl rfl
      · rw [same, off]
        exact accounts.idle rfl rfl rfl
      · rw [same, off]
        exact Accounts.none
  | deinit => exact Accounts.none
  | resetStatistics => exact Accounts.none
  | processMessage message =>
      have handled := processMessage_handled message state.2 connected
      have made : operate state (.processMessage message) =
          (((processMessage message state.1 state.2).gateway,
            (processMessage message state.1 state.2).context),
          { initialized := state.1.initialized
            result := some (processMessage message state.1 state.2).result
            transmitted := (processMessage message state.1 state.2).transmitted }) := rfl
      rw [made]
      generalize processMessage message state.1 state.2 = processed at handled
      cases handled with
      | ignored off => exact accounts.idle off rfl rfl
      | rejected on result failed =>
          exact accounts.rejected on rfl (by simpa [returnedOk] using failed)
      | transmitted on frame transmit =>
          change Accounts _ (if _ then _ else _)
          refine accounts.transmitted_snoc ?_ rfl ?_
          · exact on
          · rw [returnedOk, beq_iff_eq, Option.some_inj]
            exact mapTransmitResult_ok _

/-- In every state a run reaches the counters account for the calls since they
were last zeroed, an uninitialised component does nothing, and an initialised one
can transmit. -/
theorem statistics_account (context : σ) (operations : List (Operation σ)) :
    let state := run operate (({} : Gateway σ), context) operations
    Accounts (sinceZeroed (history operate (({} : Gateway σ), context) operations))
        state.1.statistics ∧
      (state.1.initialized = false → ∀ message,
        processMessage message state.1 state.2 =
          ⟨.canTransmitFailed, state.1, state.2, []⟩) ∧
      (state.1.initialized = true → state.1.config.transmit.isSome = true ∧
        isValidConfig state.1.config.commandRouter = true) := by
  have invariant := Reactive.history_induction operate (fun _ => True)
    (fun entries state => Connected state.1 ∧ Accounts (sinceZeroed entries) state.1.statistics)
    (({} : Gateway σ), context) ⟨⟨nofun, nofun⟩, Accounts.none⟩ (fun _ _ _ => trivial)
    (fun _ operation _ before => ⟨operate_connected _ operation before.1,
      operate_accounts before.1 before.2 operation⟩) operations trivial
  obtain ⟨connected, accounts⟩ := invariant
  refine ⟨accounts, ?_, fun on => ⟨connected.transmit on, connected.router on⟩⟩
  intro off message
  unfold processMessage
  rw [off]
  rfl

end EspNowCanGateway
