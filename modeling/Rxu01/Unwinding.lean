set_option autoImplicit false

/- Functions that make one call after another, give up at the first one that fails
and then clean up: what they return, and the statements they run. -/
namespace Unwinding

variable {State Action Error : Type} (perform : State → Action → State)

def performAll (state : State) (actions : List Action) : State := actions.foldl perform state

/-- Go on with `rest` when what `first` returns is accepted, else clean up and return it. -/
def attempt (accepts : Error → Bool) (cleanUp : List Action) (first rest : Error × List Action) :
    Error × List Action :=
  if accepts first.1 then (rest.1, first.2 ++ rest.2) else (first.1, first.2 ++ cleanUp)

/-- What holds of the value returned and the state left behind. -/
def Ends (post : Error → State → Prop) (state : State) (program : Error × List Action) : Prop :=
  post program.1 (performAll perform state program.2)

@[simp] theorem performAll_nil (state : State) : performAll perform state [] = state := rfl

@[simp] theorem performAll_cons (state : State) (action : Action) (rest : List Action) :
    performAll perform state (action :: rest) =
      performAll perform (perform state action) rest := rfl

theorem performAll_append (state : State) (first second : List Action) :
    performAll perform state (first ++ second) =
      performAll perform (performAll perform state first) second :=
  List.foldl_append

variable {perform}
variable {post : Error → State → Prop} {state : State} {accepts : Error → Bool}
variable {cleanUp : List Action} {rest : Error × List Action}

theorem ends_attempt {first : Error × List Action}
    (rejected : accepts first.1 = false →
      post first.1 (performAll perform (performAll perform state first.2) cleanUp))
    (accepted : accepts first.1 = true →
      Ends perform post (performAll perform state first.2) rest) :
    Ends perform post state (attempt accepts cleanUp first rest) := by
  unfold attempt
  split
  · rename_i success
    rw [Ends, performAll_append]
    exact accepted success
  · rename_i failure
    rw [Ends, performAll_append]
    exact rejected (Bool.of_not_eq_true failure)

/-- Success at the end means that everything on the way was accepted. -/
theorem attempt_ok_iff {ok : Error} {first : Error × List Action}
    (rejects : accepts first.1 = false → first.1 ≠ ok) :
    (attempt accepts cleanUp first rest).1 = ok ↔ accepts first.1 = true ∧ rest.1 = ok := by
  unfold attempt
  cases accepted : accepts first.1 with
  | true => simp
  | false => simp [rejects accepted]

/-- The rule for a function that makes a single call. -/
theorem ends_call {result : Error} {action : Action}
    (rejected : accepts result = false →
      post result (performAll perform (perform state action) cleanUp))
    (accepted : accepts result = true → Ends perform post (perform state action) rest) :
    Ends perform post state (attempt accepts cleanUp (result, [action]) rest) :=
  ends_attempt rejected accepted

end Unwinding
