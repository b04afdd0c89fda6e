import Mathlib.Data.List.Basic

set_option autoImplicit false

/- A mailbox with room for one job: a job is submitted when there is room, and is
then delivered or withdrawn. -/

/-- What was submitted and what was delivered so far, both oldest first. -/
@[ext]
structure Mailbox (α : Type) where
  submitted : List α
  pending : Option α
  delivered : List α
  kept : (delivered ++ pending.toList).Sublist submitted

namespace Mailbox

variable {α : Type}

def empty : Mailbox α := ⟨[], none, [], List.Sublist.refl _⟩

def submit (job : α) (mailbox : Mailbox α) (room : mailbox.pending = none) : Mailbox α :=
  { submitted := mailbox.submitted ++ [job]
    pending := some job
    delivered := mailbox.delivered
    kept := by
      have kept := mailbox.kept
      rw [room, Option.toList_none, List.append_nil] at kept
      exact kept.append (List.Sublist.refl [job]) }

def deliver (mailbox : Mailbox α) : Mailbox α :=
  { submitted := mailbox.submitted
    pending := none
    delivered := mailbox.delivered ++ mailbox.pending.toList
    kept := by
      rw [Option.toList_none, List.append_nil]
      exact mailbox.kept }

def withdraw (mailbox : Mailbox α) : Mailbox α :=
  { submitted := mailbox.submitted
    pending := none
    delivered := mailbox.delivered
    kept := by
      rw [Option.toList_none, List.append_nil]
      exact (List.sublist_append_left _ _).trans mailbox.kept }

/-- The job is still there, or it was delivered or withdrawn. -/
def Drains (before after : Mailbox α) : Prop :=
  after = before ∨ after = before.deliver ∨ after = before.withdraw

theorem delivered_sublist (mailbox : Mailbox α) : mailbox.delivered.Sublist mailbox.submitted :=
  (List.sublist_append_left _ _).trans mailbox.kept

@[simp] theorem submit_submitted (job : α) (mailbox : Mailbox α) (room : mailbox.pending = none) :
    (mailbox.submit job room).submitted = mailbox.submitted ++ [job] := rfl

@[simp] theorem deliver_delivered (mailbox : Mailbox α) :
    mailbox.deliver.delivered = mailbox.delivered ++ mailbox.pending.toList := rfl

section Drains

variable {first second third : Mailbox α}

theorem Drains.refl (mailbox : Mailbox α) : Drains mailbox mailbox := Or.inl rfl

theorem Drains.submitted (drains : Drains first second) : second.submitted = first.submitted := by
  rcases drains with rfl | rfl | rfl
  · rfl
  · rfl
  · rfl

theorem Drains.pending (drains : Drains first second) :
    second.pending = first.pending ∨ second.pending = none := by
  rcases drains with rfl | rfl | rfl
  · exact Or.inl rfl
  · exact Or.inr rfl
  · exact Or.inr rfl

/-- Nothing becomes of a mailbox without a job. -/
theorem Drains.room (drains : Drains first second) (room : first.pending = none) :
    second = first := by
  rcases drains with rfl | rfl | rfl
  · rfl
  · apply Mailbox.ext
    · rfl
    · exact room.symm
    · rw [deliver_delivered, room, Option.toList_none, List.append_nil]
  · exact Mailbox.ext rfl room.symm rfl

theorem Drains.trans (start : Drains first second) (rest : Drains second third) :
    Drains first third := by
  rcases start with rfl | rfl | rfl
  · exact rest
  · exact Or.inr (Or.inl (rest.room rfl))
  · exact Or.inr (Or.inr (rest.room rfl))

end Drains

end Mailbox
