import Mathlib.Data.List.Induction

set_option autoImplicit false

/- Deterministic reactive machines: a step function from a state and an input
to a state and an output, its runs, and the rules for reasoning about them. -/
namespace Reactive

variable {State Input Output : Type} (step : State → Input → State × Output)

/-- The state after a sequence of inputs. -/
def run : State → List Input → State
  | state, [] => state
  | state, input :: rest => run (step state input).1 rest

/-- Each input paired with the output it produced. -/
def history : State → List Input → List (Input × Output)
  | _, [] => []
  | state, input :: rest => (input, (step state input).2) :: history (step state input).1 rest

@[simp] theorem run_nil (state : State) : run step state [] = state := rfl

@[simp] theorem run_cons (state : State) (input : Input) (rest : List Input) :
    run step state (input :: rest) = run step (step state input).1 rest := rfl

@[simp] theorem history_cons (state : State) (input : Input) (rest : List Input) :
    history step state (input :: rest) =
      (input, (step state input).2) :: history step (step state input).1 rest := rfl

theorem run_append (state : State) (first second : List Input) :
    run step state (first ++ second) = run step (run step state first) second := by
  induction first generalizing state with
  | nil => rfl
  | cons input rest ih => exact ih (step state input).1

theorem history_append (state : State) (first second : List Input) :
    history step state (first ++ second) =
      history step state first ++ history step (run step state first) second := by
  induction first generalizing state with
  | nil => rfl
  | cons input rest ih =>
      simp only [List.cons_append, history_cons, run_cons, ih]

theorem history_snoc (state : State) (inputs : List Input) (input : Input) :
    history step state (inputs ++ [input]) =
      history step state inputs ++ [(input, (step (run step state inputs) input).2)] := by
  rw [history_append]
  rfl

/-- A member of the history is one step of the run, taken after a prefix of it. -/
theorem mem_history (state : State) (inputs : List Input) (entry : Input × Output)
    (member : entry ∈ history step state inputs) :
    ∃ before after, inputs = before ++ entry.1 :: after ∧
      entry.2 = (step (run step state before) entry.1).2 := by
  induction inputs generalizing state with
  | nil => cases member
  | cons input rest ih =>
      rcases List.mem_cons.mp member with rfl | later
      · exact ⟨[], rest, rfl, rfl⟩
      · obtain ⟨before, after, split, output⟩ := ih (step state input).1 later
        exact ⟨input :: before, after, by rw [split]; rfl, output⟩

/-- Induction over a run whose inputs are jointly legal: an invariant of the
history and the state that holds at the start and survives every legal step. -/
theorem history_induction (Legal : List Input → Prop)
    (Invariant : List (Input × Output) → State → Prop) (start : State)
    (initial : Invariant [] start)
    (closed : ∀ inputs input, Legal (inputs ++ [input]) → Legal inputs)
    (preserved : ∀ inputs input, Legal (inputs ++ [input]) →
      Invariant (history step start inputs) (run step start inputs) →
      Invariant (history step start inputs ++ [(input, (step (run step start inputs) input).2)])
        (step (run step start inputs) input).1)
    (inputs : List Input) (legal : Legal inputs) :
    Invariant (history step start inputs) (run step start inputs) := by
  induction inputs using List.reverseRecOn with
  | nil => exact initial
  | append_singleton inputs input ih =>
      have before := ih (closed inputs input legal)
      rw [history_snoc, run_append]
      exact preserved inputs input legal before

theorem history_inputs (state : State) (inputs : List Input) :
    (history step state inputs).map Prod.fst = inputs := by
  induction inputs generalizing state with
  | nil => rfl
  | cons input rest ih => rw [history_cons, List.map_cons, ih]

/-- An invariant of the inputs so far and the state. -/
theorem legal_induction (Legal : List Input → Prop) (Invariant : List Input → State → Prop)
    (start : State) (initial : Invariant [] start)
    (closed : ∀ inputs input, Legal (inputs ++ [input]) → Legal inputs)
    (preserved : ∀ inputs input, Legal (inputs ++ [input]) →
      Invariant inputs (run step start inputs) →
      Invariant (inputs ++ [input]) (step (run step start inputs) input).1)
    (inputs : List Input) (legal : Legal inputs) : Invariant inputs (run step start inputs) := by
  have invariant := history_induction step Legal
    (fun log state => Invariant (log.map Prod.fst) state) start initial closed
    (fun inputs input legal before => by
      rw [history_inputs] at before
      rw [List.map_append, history_inputs]
      exact preserved inputs input legal before) inputs legal
  rw [history_inputs] at invariant
  exact invariant

/-- An invariant of the state alone. -/
theorem run_induction (Invariant : State → Prop) (start : State) (initial : Invariant start)
    (preserved : ∀ state input, Invariant state → Invariant (step state input).1)
    (inputs : List Input) : Invariant (run step start inputs) := by
  induction inputs generalizing start with
  | nil => exact initial
  | cons input rest ih => exact ih (step start input).1 (preserved start input initial)

section Simulation

variable {Related : List Input → State → State → Prop}

/-- Two states are related for the inputs still to come when both answer the
next one alike and stay related for the others. -/
def Simulates (Related : List Input → State → State → Prop) : Prop :=
  ∀ input rest left right, Related (input :: rest) left right →
    (step left input).2 = (step right input).2 ∧
      Related rest (step left input).1 (step right input).1

theorem history_eq_of_simulates (simulates : Simulates step Related) (inputs : List Input)
    (left right : State) (related : Related inputs left right) :
    history step left inputs = history step right inputs ∧
      Related [] (run step left inputs) (run step right inputs) := by
  induction inputs generalizing left right with
  | nil => exact ⟨rfl, related⟩
  | cons input rest ih =>
      obtain ⟨same, next⟩ := simulates input rest left right related
      obtain ⟨later, final⟩ := ih _ _ next
      refine ⟨?_, final⟩
      rw [history_cons, history_cons, same, later]

/-- Deleting an input whose step leaves a related state changes no other entry
of the history, and the final states stay related. -/
theorem delete_input (simulates : Simulates step Related) (start : State)
    (before after : List Input) (input : Input)
    (invisible : Related after (step (run step start before) input).1 (run step start before)) :
    (∃ tail, history step start (before ++ input :: after) =
        history step start before ++
          (input, (step (run step start before) input).2) :: tail ∧
      history step start (before ++ after) = history step start before ++ tail) ∧
    Related [] (run step start (before ++ input :: after)) (run step start (before ++ after)) := by
  obtain ⟨same, final⟩ := history_eq_of_simulates step simulates after _ _ invisible
  refine ⟨⟨history step (run step start before) after, ?_, ?_⟩, ?_⟩
  · rw [history_append, history_cons, same]
  · rw [history_append]
  · rw [run_append, run_append, run_cons]
    exact final

end Simulation

section Projection

variable {State' Input' Output' : Type} (step' : State' → Input' → State' × Output')

/-- One machine seen in another: the inputs that show are steps of it, the others leave it
where it is. -/
structure Projects (project : State' → State) (shows : Input' → Option Input)
    (tells : Output' → Option Output) : Prop where
  shown : ∀ state input inner, shows input = some inner →
    project (step' state input).1 = (step (project state) inner).1 ∧
      tells (step' state input).2 = some (step (project state) inner).2
  hidden : ∀ state input, shows input = none → project (step' state input).1 = project state

/-- An entry of the outer history, as the inner machine has it. -/
def innerEntry (shows : Input' → Option Input) (tells : Output' → Option Output)
    (entry : Input' × Output') : Option (Input × Output) :=
  (shows entry.1).bind fun input => (tells entry.2).map (Prod.mk input)

variable {step step'} {project : State' → State} {shows : Input' → Option Input}
  {tells : Output' → Option Output}

theorem Projects.run_eq (projects : Projects step step' project shows tells) (state : State')
    (inputs : List Input') :
    project (run step' state inputs) = run step (project state) (inputs.filterMap shows) := by
  induction inputs generalizing state with
  | nil => rfl
  | cons input rest ih =>
      rw [run_cons, ih, List.filterMap_cons]
      cases shown : shows input with
      | none => rw [projects.hidden state input shown]
      | some inner => rw [(projects.shown state input inner shown).1, run_cons]

theorem Projects.history_eq (projects : Projects step step' project shows tells) (state : State')
    (inputs : List Input') :
    (history step' state inputs).filterMap (innerEntry shows tells) =
      history step (project state) (inputs.filterMap shows) := by
  induction inputs generalizing state with
  | nil => rfl
  | cons input rest ih =>
      rw [history_cons, List.filterMap_cons, List.filterMap_cons, ih]
      cases shown : shows input with
      | none =>
          rw [projects.hidden state input shown]
          simp [innerEntry, shown]
      | some inner =>
          obtain ⟨next, told⟩ := projects.shown state input inner shown
          rw [next, history_cons]
          simp [innerEntry, shown, told]

end Projection

end Reactive
