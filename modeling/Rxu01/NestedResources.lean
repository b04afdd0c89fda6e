import Mathlib.Data.List.Basic

set_option autoImplicit false

/- Resources that are released in the reverse order of their acquisition. -/
namespace NestedResources

variable {ρ : Type} [DecidableEq ρ]

inductive Operation (ρ : Type) where
  | acquire (resource : ρ)
  | release (resource : ρ)
  | use (resource : ρ)
  deriving DecidableEq

/-- The resources held, the last acquired first; `none` when one is acquired twice,
used without being held, or released while it is not the last one. -/
def step (held : List ρ) : Operation ρ → Option (List ρ)
  | .acquire resource => if resource ∈ held then none else some (resource :: held)
  | .release resource => if held.head? = some resource then some held.tail else none
  | .use resource => if resource ∈ held then some held else none

def run : List ρ → List (Operation ρ) → Option (List ρ)
  | held, [] => some held
  | held, operation :: rest => (step held operation).bind (fun next => run next rest)

theorem run_append (held : List ρ) (first second : List (Operation ρ)) :
    run held (first ++ second) = (run held first).bind (fun middle => run middle second) := by
  induction first generalizing held with
  | nil => rfl
  | cons operation rest ih =>
      simp only [List.cons_append, run]
      cases step held operation with
      | none => rfl
      | some next => exact ih next

/-- Traces one after the other. -/
theorem run_trans {held middle last : List ρ} {first second : List (Operation ρ)}
    (start : run held first = some middle) (rest : run middle second = some last) :
    run held (first ++ second) = some last := by
  rw [run_append, start]
  exact rest

end NestedResources
