import Mathlib.Data.List.Nodup

set_option autoImplicit false

/- Tables searched for the first entry with a key, and the check that no two
entries of a table have the same one. -/
namespace KeyedTable

variable {α κ : Type} (key : α → κ)

/-- No two entries share their key. -/
def Distinct (table : List α) : Prop :=
  table.Pairwise (fun first second => key first ≠ key second)

variable [DecidableEq κ]

/-- One pass that looks at each entry, and for its key at later entries only. -/
def check (accepts : α → Bool) : List α → Bool
  | [] => true
  | entry :: others =>
      if !accepts entry then false
      else if others.any (fun other => key other == key entry) then false
      else check accepts others

section Distinct

variable {key} {table : List α} {entry : α}

omit [DecidableEq κ] in
theorem Distinct.perm {table' : List α} (distinct : Distinct key table) (perm : table.Perm table') :
    Distinct key table' :=
  (perm.pairwise_iff (fun apart => apart.symm)).mp distinct

omit [DecidableEq κ] in
theorem Distinct.unique (distinct : Distinct key table) {other : α} (present : entry ∈ table)
    (present' : other ∈ table) (same : key entry = key other) : entry = other :=
  List.inj_on_of_nodup_map (List.pairwise_map.mpr distinct) present present' same

/-- The first match is the only one. -/
theorem Distinct.find_iff (distinct : Distinct key table) (wanted : κ) :
    table.find? (fun entry => key entry == wanted) = some entry ↔
      entry ∈ table ∧ key entry = wanted := by
  constructor
  · intro found
    have matched := List.find?_some found
    exact ⟨List.mem_of_find?_eq_some found, beq_iff_eq.mp matched⟩
  · rintro ⟨present, rfl⟩
    cases found : table.find? (fun other => key other == key entry) with
    | none =>
        have missing := List.find?_eq_none.mp found entry present
        simp at missing
    | some other =>
        have matched := List.find?_some found
        rw [distinct.unique (List.mem_of_find?_eq_some found) present (beq_iff_eq.mp matched)]

theorem Distinct.find_perm {table' : List α} (distinct : Distinct key table)
    (perm : table.Perm table') (wanted : κ) :
    table.find? (fun entry => key entry == wanted) =
      table'.find? (fun entry => key entry == wanted) := by
  apply Option.ext
  intro entry
  rw [distinct.find_iff, (distinct.perm perm).find_iff, perm.mem_iff]

theorem Distinct.filter_eq (distinct : Distinct key table) (present : entry ∈ table) :
    table.filter (fun other => key other == key entry) = [entry] := by
  induction table with
  | nil => cases present
  | cons first rest ih =>
      obtain ⟨apart, distinct⟩ := List.pairwise_cons.mp distinct
      rcases List.mem_cons.mp present with rfl | later
      · have none : rest.filter (fun other => key other == key entry) = [] := by
          apply List.filter_eq_nil_iff.mpr
          intro other member same
          exact apart other member (beq_iff_eq.mp same).symm
        simp only [List.filter_cons, beq_self_eq_true, ↓reduceIte, none]
      · have other : key first ≠ key entry := apart entry later
        simp only [List.filter_cons, beq_iff_eq, other, ↓reduceIte, ih distinct later]

end Distinct

/-- What the one pass decides. -/
theorem check_iff (accepts : α → Bool) (table : List α) :
    check key accepts table = true ↔
      Distinct key table ∧ ∀ entry ∈ table, accepts entry = true := by
  induction table with
  | nil => simp [check, Distinct]
  | cons entry others ih =>
      unfold check
      rw [Distinct, List.pairwise_cons, ← Distinct, List.forall_mem_cons]
      by_cases accepted : accepts entry = true
      · rw [accepted, Bool.not_true, if_neg Bool.false_ne_true]
        by_cases repeated : others.any (fun other => key other == key entry) = true
        · rw [if_pos repeated]
          obtain ⟨other, member, same⟩ := List.any_eq_true.mp repeated
          constructor
          · intro wrong
            cases wrong
          · rintro ⟨⟨apart, _⟩, _⟩
            exact absurd (beq_iff_eq.mp same).symm (apart other member)
        · have apart : ∀ other ∈ others, key entry ≠ key other := by
            intro other member same
            exact repeated (List.any_eq_true.mpr ⟨other, member, beq_iff_eq.mpr same.symm⟩)
          rw [if_neg repeated, ih]
          constructor
          · rintro ⟨distinct, accepts⟩
            exact ⟨⟨apart, distinct⟩, rfl, accepts⟩
          · rintro ⟨⟨_, distinct⟩, _, accepts⟩
            exact ⟨distinct, accepts⟩
      · simp [accepted]

theorem check_perm (accepts : α → Bool) {table table' : List α} (perm : table.Perm table') :
    check key accepts table = check key accepts table' := by
  apply Bool.eq_iff_iff.mpr
  rw [check_iff, check_iff]
  constructor
  · rintro ⟨distinct, accepted⟩
    exact ⟨distinct.perm perm, fun entry member => accepted entry (perm.mem_iff.mpr member)⟩
  · rintro ⟨distinct, accepted⟩
    exact ⟨distinct.perm perm.symm, fun entry member => accepted entry (perm.mem_iff.mp member)⟩

end KeyedTable
