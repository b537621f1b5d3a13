import SqlDraft.Proofs.Contribution

/-!
# Assignments that stop

Values are assigned to fields one after the other. Where one of them cannot be assigned the assignment stops:
the values in front of it have been assigned, it and those behind it have not, and nothing else has changed.

* `Assigns`, `Refuses`: what pairs of fields and values make of a collection, and the pairs that it refuses.
* `assignOne_of_fault`, `assignEach_of_fault`: why one pair is refused, and where several of them stop.
* `Query.failed_assignment_stops`: what a failed assignment leaves of a query.
-/

namespace SqlDraft

/-- What a collection becomes when values are assigned to fields. A field without a name is passed over. -/
inductive Assigns (raw : Bool) : Value → List (Value × Value) → Value → Prop
  | done (collection : Value) : Assigns raw collection [] collection
  | skip {collection collection' field v : Value} {rest : List (Value × Value)}
      (unnamed : field.truthy = false) (others : Assigns raw collection rest collection') :
      Assigns raw collection ((field, v) :: rest) collection'
  | put {collection collection' collection'' field v x : Value} {rest : List (Value × Value)}
      (named : field.truthy = true) (expression : Query.expression raw v = .ok x)
      (assigned : collection.assign field x = .ok collection')
      (others : Assigns raw collection' rest collection'') :
      Assigns raw collection ((field, v) :: rest) collection''

/-- Why a collection refuses a value for a field: there is no expression for the value, or the field cannot be
set to it. -/
inductive Refuses (raw : Bool) (collection field v : Value) (f : Fault) : Prop
  | value (named : field.truthy = true) (expression : Query.expression raw v = .error f)
  | field {x : Value} (named : field.truthy = true) (expression : Query.expression raw v = .ok x)
      (refused : collection.assign field x = .error f)

/-- Fields without names leave a collection as it is. -/
theorem Assigns.eq_of_unnamed {raw : Bool} {collection collection' : Value} {ps : List (Value × Value)}
    (h : Assigns raw collection ps collection') (hps : ∀ p ∈ ps, p.1.truthy = false) :
    collection' = collection := by
  induction h with
  | done => rfl
  | skip _ _ ih => exact ih fun p hp => hps p (List.mem_cons_of_mem _ hp)
  | put named =>
    have hunnamed := hps _ List.mem_cons_self
    rw [named] at hunnamed
    cases hunnamed

namespace Query

variable {raw : Bool} {collection collection' field v : Value} {f : Fault}

/-! ## Pairs -/

/-- A pair that is not assigned is refused. -/
theorem assignOne_of_fault (h : assignOne raw collection field v = .error f) :
    Refuses raw collection field v f := by
  unfold assignOne at h
  split at h
  · rename_i named
    cases hx : expression raw v with
    | error g =>
      rw [hx, error_bind] at h
      cases h
      exact .value named hx
    | ok x =>
      rw [hx, ok_bind] at h
      exact .field named hx h
  · cases h

theorem assigns_cons {ps : List (Value × Value)} {target : Value}
    (h : assignOne raw collection field v = .ok collection') (hps : Assigns raw collection' ps target) :
    Assigns raw collection ((field, v) :: ps) target := by
  unfold assignOne at h
  split at h
  · rename_i named
    obtain ⟨x, hx, hassigned⟩ := bind_eq_ok_iff.mp h
    exact .put named hx hassigned hps
  · rename_i unnamed
    cases h
    exact .skip (Bool.eq_false_iff.mpr unnamed) hps

/-- Pairs are assigned up to the first that is refused. -/
theorem assignEach_of_fault {ps : List (Value × Value)} {target : Value}
    (h : assignEach raw collection ps = (target, .error f)) :
    ∃ earlier field v later, ps = earlier ++ (field, v) :: later ∧
      Assigns raw collection earlier target ∧ Refuses raw target field v f := by
  induction ps generalizing collection with
  | nil => cases h
  | cons p ps ih =>
    obtain ⟨field, v⟩ := p
    unfold assignEach at h
    split at h
    · rename_i collection' hone
      obtain ⟨earlier, field', v', later, rfl, hassigns, hrefuses⟩ := ih h
      exact ⟨(field, v) :: earlier, field', v', later, rfl, assigns_cons hone hassigns, hrefuses⟩
    · rename_i hone
      cases h
      exact ⟨[], field, v, ps, rfl, .done target, assignOne_of_fault hone⟩

/-! ## Calls -/

variable {q q' : Query} {a : Assignment} {c d : Container} {fs vs : List Value}

theorem assign_of_assignEach {fields values target : Value} {ps : List (Value × Value)}
    (hps : pairsFor fields values = .ok (some ps))
    (heach : assignEach raw (q.state.get a.member) ps = (target, .error f)) :
    q.assign a fields values raw = (q.setMember a.member target, .error f, []) := by
  unfold assign
  simp only [hps, heach]

/-- A call fails at a pair of one of the fields with its value; the collection of its statement is what the
pairs in front of that one make of it, and all else is as it was. -/
theorem assign_of_fault (h : (q.assign a (c.of fs) (d.of vs) raw).2.1 = .error f) :
    ∃ earlier field v later target, fs.zip vs = earlier ++ (field, v) :: later ∧
      Assigns raw (q.state.get a.member) earlier target ∧ Refuses raw target field v f ∧
      (q.assign a (c.of fs) (d.of vs) raw).1 = q.setMember a.member target := by
  have hpairs := Pairing.pairsFor_containers c d fs vs
  by_cases hlength : vs.length = fs.length
  · rw [if_pos hlength] at hpairs
    obtain ⟨target, answer, heach⟩ :
        ∃ target answer, assignEach raw (q.state.get a.member) (fs.zip vs) = (target, answer) := ⟨_, _, rfl⟩
    cases answer with
    | ok _ =>
      unfold assign at h
      simp only [hpairs, heach] at h
      cases h
    | error g =>
      have hassign := assign_of_assignEach hpairs heach
      rw [hassign] at h ⊢
      cases h
      obtain ⟨earlier, field, v, later, hps, hassigns, hrefuses⟩ := assignEach_of_fault heach
      exact ⟨earlier, field, v, later, target, hps, hassigns, hrefuses, rfl⟩
  · rw [if_neg hlength] at hpairs
    unfold assign at h
    simp only [hpairs] at h
    cases h

/-- **Failed assignments.** A call that fails to assign values to fields leaves the kind of statement, and all
members of the query but the collection of its statement, as they were. That collection is what the pairs in
front of the one that is refused make of it, so nothing at all has changed if none of them has a name for its
field. -/
theorem failed_assignment_stops (q : Query) (a : Assignment) (c d : Container) (fs vs : List Value)
    (raw : Bool) (f : Fault) (h : (q.assign a (c.of fs) (d.of vs) raw).2.1 = .error f) :
    let q' := (q.assign a (c.of fs) (d.of vs) raw).1
    q'.kind = q.kind ∧ (∀ m, m ≠ a.member → q'.state.get m = q.state.get m) ∧
      q' = q.setMember a.member (q'.state.get a.member) ∧
      ∃ earlier field v later, fs.zip vs = earlier ++ (field, v) :: later ∧
        Assigns raw (q.state.get a.member) earlier (q'.state.get a.member) ∧
        Refuses raw (q'.state.get a.member) field v f ∧
        ((∀ p ∈ earlier, p.1.truthy = false) → q' = q) := by
  intro q'
  obtain ⟨earlier, field, v, later, target, hps, hassigns, hrefuses, hq⟩ := assign_of_fault h
  have hq' : q' = q.setMember a.member target := hq
  have htarget : q'.state.get a.member = target := by
    rw [hq']
    exact (State.get_set ..).trans (if_pos rfl)
  refine ⟨by rw [hq']; rfl, fun m hm => ?_, by rw [htarget, hq'], earlier, field, v, later, hps, ?_, ?_, ?_⟩
  · rw [hq']
    exact (State.get_set ..).trans (if_neg hm)
  · rw [htarget]
    exact hassigns
  · rw [htarget]
    exact hrefuses
  · intro hunnamed
    rw [hq', hassigns.eq_of_unnamed hunnamed, setMember_get]

/-- The first value is assigned, over what was there; the second has no literal. -/
theorem failed_assignment_stops_unwritable :
    let q := (blank (.text "") none).setMember .updates (.dict [(.text "a", .text "NULL")])
    let called := q.assign .update (.list [.text "a", .text "b"]) (.tuple [.int 1, .int firstTooLong]) false
    called.2.1 = .error (.tooManyDigits none) ∧ called.1.kind = q.kind ∧
      called.1 = q.setMember .updates (.dict [(.text "a", .text "1")]) := by
  have hlong := withinDigitLimit_firstTooLong
  generalize firstTooLong = i at hlong ⊢
  intro q called
  have hexpression : expression false (.int i) = .error (.tooManyDigits none) := by
    rw [expression, if_neg Bool.false_ne_true, quote, Value.shown_int,
      signedText_of_tooLong hlong, map_error]
  have hfirst : assignOne false (.dict [(.text "a", .text "NULL")]) (.text "a") (.int 1) =
      .ok (.dict [(.text "a", .text "1")]) := rfl
  have hsecond : assignOne false (.dict [(.text "a", .text "1")]) (.text "b") (.int i) =
      .error (.tooManyDigits none) := by
    rw [assignOne, hexpression]
    rfl
  have heach : assignEach false (.dict [(.text "a", .text "NULL")])
      [(.text "a", .int 1), (.text "b", .int i)] =
        (.dict [(.text "a", .text "1")], .error (.tooManyDigits none)) := by
    rw [assignEach, hfirst]
    dsimp only
    rw [assignEach, hsecond]
  have hcalled : called =
      (q.setMember .updates (.dict [(.text "a", .text "1")]), .error (.tooManyDigits none), []) :=
    assign_of_assignEach rfl heach
  have h : called.2.1 = .error (.tooManyDigits none) := by rw [hcalled]
  obtain ⟨hkind, -, -, -⟩ := failed_assignment_stops q .update .list .tuple [.text "a", .text "b"]
    [.int 1, .int i] false (.tooManyDigits none) h
  exact ⟨h, hkind, by rw [hcalled]⟩

/-- A value that was assigned before the call failed stays assigned: the second field is a list, which is no
key. -/
theorem earlier_value_outlives_failure :
    let q := blank (.text "") none
    let called := q.assign .insert (.list [.text "a", .list [.text "b"]]) (.list [.int 1, .int 2]) false
    called.2.1 = .error (.unhashable .list) ∧
      called.1.state.insertions = .dict [(.text "a", .text "1")] ∧
      called.1.state.insertions ≠ q.state.insertions := by
  refine ⟨rfl, rfl, ?_⟩
  intro h
  have hentries : [(Value.text "a", Value.text "1")] = [] := Value.dict.inj h
  cases hentries

end Query

end SqlDraft
