import SqlDraft.Sql.Execution

/-!
# Fragments under older names

Every collection has an older name. A fragment can stand under either name: the statement is the same,
also when it fails.

* `Slot.Fits`: the containers that a collection is made of.
* `Collections.ofSlots`: collections given name by name.
* `State.relocated`: a state some of whose collections stand under their older names.
* `Collections.merge_of_falsy`, `merge_relocated`: filling up finds a collection under either name.
* `StatementKind.render_legacy`: no statement reads the older names itself.
* `State.older_names_interchangeable`: both names give the same statement; what filling up leaves alone.
-/

namespace SqlDraft

/-- The containers that a collection is made of, whatever their entries. -/
def Slot.Fits (t : Slot) (v : Value) : Prop :=
  match t with
  | .tables => ∃ es, v = .dict es
  | .fields | .predicates | .joins | .groups | .orders => ∃ xs, v = .list xs

/-- A container without entries is that of a new query. -/
theorem Slot.Fits.eq_empty {t : Slot} {v : Value} (h : t.Fits v) (hv : v.truthy = false) :
    v = Collections.empty.get t := by
  cases t with
  | tables =>
    obtain ⟨es, rfl⟩ := h
    have hes : es = [] := by simpa [Value.truthy] using hv
    rw [hes]
    rfl
  | fields | predicates | joins | groups | orders =>
    obtain ⟨xs, rfl⟩ := h
    have hxs : xs = [] := by simpa [Value.truthy] using hv
    rw [hxs]
    rfl

namespace Collections

/-- Collections that are given name by name. -/
def ofSlots (f : Slot → Value) : Collections :=
  ⟨f .tables, f .fields, f .predicates, f .joins, f .groups, f .orders⟩

@[simp] theorem get_ofSlots (f : Slot → Value) (t : Slot) : (ofSlots f).get t = f t := by
  cases t <;> rfl

theorem pick_of_falsy {legacy : Value} (h : legacy.truthy = false) (current : Value) :
    pick current legacy = current := by
  rw [pick, h]
  rfl

theorem pick_of_truthy {current : Value} (h : current.truthy = true) (legacy : Value) :
    pick current legacy = current := by
  rw [pick, h, Bool.not_true, Bool.and_false]
  rfl

theorem truthy_get_empty (t : Slot) : (empty.get t).truthy = false := by cases t <;> rfl

/-- Legacy collections without entries add nothing. -/
theorem merge_of_falsy {legacy : Collections} (h : ∀ t, (legacy.get t).truthy = false)
    (current : Collections) : merge current legacy = current := by
  ext t
  rw [get_merge, pick_of_falsy (h t)]

end Collections

/-! ## Relocated collections -/

namespace State

/-- A state whose collections of some names stand under their older names, with nothing under the
current ones. Under the older names of the others stands something else, if they are in use. -/
def relocated (s : State) (moved : Slot → Bool) (other : Collections) : State :=
  { s with
    current := .ofSlots fun t => if moved t then Collections.empty.get t else s.current.get t
    legacy := .ofSlots fun t =>
      if moved t then s.current.get t
      else if (s.current.get t).truthy then other.get t else s.legacy.get t }

variable {s : State}

/-- Filling up finds every collection again: one that was moved under its older name, any other under its
current name, where it shadows what stands under the older one. -/
theorem merge_relocated (hfits : ∀ t : Slot, t.Fits (s.current.get t))
    (hlegacy : ∀ t, (s.legacy.get t).truthy = false) (moved : Slot → Bool) (other : Collections) :
    (s.relocated moved other).current.merge (s.relocated moved other).legacy = s.current := by
  ext t
  simp only [relocated, Collections.get_merge, Collections.get_ofSlots]
  by_cases hm : moved t = true
  · rw [if_pos hm, if_pos hm]
    by_cases hv : (s.current.get t).truthy = true
    · rw [Collections.pick, hv, Collections.truthy_get_empty]
      rfl
    · rw [Bool.not_eq_true] at hv
      rw [Collections.pick_of_falsy hv, (hfits t).eq_empty hv]
  · rw [if_neg hm, if_neg hm]
    by_cases hv : (s.current.get t).truthy = true
    · rw [Collections.pick_of_truthy hv]
    · rw [if_neg hv, Collections.pick_of_falsy (hlegacy t)]

end State

/-! ## Statements -/

/-- No statement reads the legacy collections: what it needs of them was filled in before. -/
theorem StatementKind.render_legacy (k : StatementKind) (s : State) (legacy : Collections) :
    k.render { s with legacy := legacy } = k.render s := by
  cases k <;> rfl

namespace State

theorem render_relocated {s : State} (hfits : ∀ t : Slot, t.Fits (s.current.get t))
    (hlegacy : ∀ t, (s.legacy.get t).truthy = false) (moved : Slot → Bool) (other : Collections)
    (k : StatementKind) :
    k.render (s.relocated moved other).reconciled = k.render s.reconciled := by
  have hmoved : (s.relocated moved other).reconciled =
      { s with legacy := (s.relocated moved other).legacy } := by
    rw [reconciled, merge_relocated hfits hlegacy]
    rfl
  have hsame : s.reconciled = s := by
    rw [reconciled, Collections.merge_of_falsy hlegacy]
  rw [hmoved, hsame, k.render_legacy]

/-- **Older names are as good as current ones.** A state keeps its collections under the current names, in
the right containers with any entries. Some of them are moved to their older names, and whatever is put
under the older names of those that stay in use: every statement is the same, or fails for the same
reason. And filling up a state, whatever it holds, keeps its limit, its assigned values and what stands
under the older names, and changes nothing when done again. -/
theorem older_names_interchangeable :
    (∀ s : State, (∀ t : Slot, t.Fits (s.current.get t)) → (∀ t, (s.legacy.get t).truthy = false) →
      ∀ (moved : Slot → Bool) (other : Collections) (k : StatementKind),
        k.render (s.relocated moved other).reconciled = k.render s.reconciled) ∧
    ∀ s : State, s.reconciled.limit = s.limit ∧ s.reconciled.insertions = s.insertions ∧
      s.reconciled.updates = s.updates ∧ s.reconciled.legacy = s.legacy ∧
      s.reconciled.reconciled = s.reconciled := by
  refine ⟨fun s hfits hlegacy moved other k => ?_, fun s => ?_⟩
  · exact render_relocated hfits hlegacy moved other k
  · exact ⟨rfl, rfl, rfl, rfl, s.reconciled_reconciled⟩

/-- Tables and predicates are moved, a badly typed group of fields stays, and something stands under the
older name of the fields. -/
theorem older_names_interchangeable_mixed :
    let s : State := { empty with current :=
      { Collections.empty with
        tables := .dict [(.text "a", .text "t")], fields := .list [.tuple [.text "x", .int 3]],
        predicates := .list [.text "x = 1"] } }
    let moved : Slot → Bool := fun t => t = .tables ∨ t = .predicates
    let other : Collections := { Collections.empty with fields := .float .nan }
    StatementKind.select.render (s.relocated moved other).reconciled = .error (.notText 1 .int) ∧
      StatementKind.delete.render (s.relocated moved other).reconciled =
        .ok "DELETE FROM t WHERE x = 1 " := by
  intro s moved other
  have hfits : ∀ t : Slot, t.Fits (s.current.get t) := by
    intro t
    cases t <;> exact ⟨_, rfl⟩
  have hlegacy : ∀ t, (s.legacy.get t).truthy = false := by
    intro t
    cases t <;> rfl
  have hsame := older_names_interchangeable.1 s hfits hlegacy moved other
  exact ⟨(hsame .select).trans rfl, (hsame .delete).trans rfl⟩

end State

end SqlDraft
