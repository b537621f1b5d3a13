import SqlDraft.Fault

/-!
# Outcomes

An operation gives a value or a fault. These lemmas take an outcome apart into the outcomes of its
steps.

* `bind_eq_ok_iff`, `map_eq_ok_iff`, `exists_map_iff`: what a value that comes out says of the steps.
* `mapM_eq_ok`: steps over a list, none of which has a fault.
-/

namespace SqlDraft

variable {α β : Type}

@[simp] theorem ok_bind (a : α) (f : α → Except Fault β) : (Except.ok a >>= f) = f a := rfl

@[simp] theorem error_bind (e : Fault) (f : α → Except Fault β) :
    (Except.error e >>= f) = .error e := rfl

@[simp] theorem map_ok (a : α) (g : α → β) : (Except.ok a : Except Fault α).map g = .ok (g a) := rfl

@[simp] theorem map_error (e : Fault) (g : α → β) :
    (Except.error e : Except Fault α).map g = .error e := rfl

theorem bind_eq_ok_iff {x : Except Fault α} {f : α → Except Fault β} {b : β} :
    (x >>= f) = .ok b ↔ ∃ a, x = .ok a ∧ f a = .ok b := by
  cases x <;> simp

theorem map_eq_ok_iff {x : Except Fault α} {g : α → β} {b : β} :
    x.map g = .ok b ↔ ∃ a, x = .ok a ∧ g a = b := by
  cases x <;> simp

theorem exists_map_iff {x : Except Fault α} {g : α → β} :
    (∃ b, x.map g = .ok b) ↔ ∃ a, x = .ok a := by
  cases x <;> simp

/-- Steps over a list that all succeed succeed together. -/
theorem mapM_eq_ok {f : α → Except Fault β} {g : α → β} {xs : List α}
    (h : ∀ x ∈ xs, f x = .ok (g x)) : xs.mapM f = .ok (xs.map g) := by
  induction xs with
  | nil => rfl
  | cons x xs ih =>
    rw [List.mapM_cons, h x List.mem_cons_self, ok_bind,
      ih fun y hy => h y (List.mem_cons_of_mem _ hy)]
    rfl

end SqlDraft
