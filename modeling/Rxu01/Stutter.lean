import Mathlib.Data.List.Destutter

set_option autoImplicit false

/- A list that grows at its end, seen without the items that repeat the one before. -/
namespace Stutter

variable {α : Type} (R : α → α → Prop) [DecidableRel R]

theorem destutter'_snoc (first : α) (items : List α) (item : α) :
    (items ++ [item]).destutter' R first =
      if ∀ last ∈ (items.destutter' R first).getLast?, R last item then
        items.destutter' R first ++ [item]
      else items.destutter' R first := by
  induction items generalizing first with
  | nil =>
      rw [List.nil_append, List.destutter'_singleton]
      simp
  | cons next rest ih =>
      rw [List.cons_append, List.destutter'_cons, List.destutter'_cons]
      by_cases related : R first next
      · have last : (first :: rest.destutter' R next).getLast? =
            (rest.destutter' R next).getLast? :=
          List.getLast?_cons_of_ne_nil (List.destutter'_ne_nil _ _)
        rw [if_pos related, if_pos related, ih, last]
        split <;> rfl
      · rw [if_neg related, if_neg related, ih]

/-- The new item is kept if the last one kept lets it. -/
theorem destutter_snoc (items : List α) (item : α) :
    (items ++ [item]).destutter R =
      if ∀ last ∈ (items.destutter R).getLast?, R last item then items.destutter R ++ [item]
      else items.destutter R := by
  cases items with
  | nil => simp
  | cons first rest => exact destutter'_snoc R first rest item

/-- What was kept stays kept. -/
theorem destutter_prefix (items more : List α) :
    (items.destutter R).IsPrefix ((items ++ more).destutter R) := by
  induction more using List.reverseRecOn with
  | nil => simp
  | append_singleton more item ih =>
      rw [← List.append_assoc, destutter_snoc]
      split
      · exact ih.trans (List.prefix_append _ _)
      · exact ih

end Stutter
