import SqlDraft.Proofs.Contribution

/-!
# Assigning pair by pair

Values for several fields can be assigned in one call, or in one call for each pair of a field and its value.

* `Query.oneByOne`: the calls that assign one pair each.
* `Query.step_assign_pairs`, `step_assign_one`: what a call that is taken for pairs does, and one for a single
  pair.
* `Query.assignEach_dict`: a dictionary takes every pair of a name and a value that has an expression.
* `Query.assign_text_of_not_dict`: nothing else takes any.
* `Query.after_oneByOne`, `run_oneByOne_of_fault`: what the calls for the pairs come to, one after the
  other.
* `Query.assigned_pair_by_pair`: the one call and the calls for the pairs come to the same.
-/

namespace SqlDraft

namespace Query

/-- The calls that assign one pair each. -/
def oneByOne (a : Assignment) (raw : Bool) (ps : List (String × Value)) : List Call :=
  ps.map fun p => .assign a (.text p.1) p.2 raw

/-- Pairs whose names are handed over as texts. -/
def textPairs (ps : List (String × Value)) : List (Value × Value) := ps.map fun p => (.text p.1, p.2)

variable {q : Query} {a : Assignment} {raw : Bool} {target : Value} {f : Fault}

/-! ## One call -/

/-- A call that is taken for pairs assigns them to its collection, and turns the query into its kind of
statement if none is refused. -/
theorem step_assign_pairs {fields values : Value} {ps : List (Value × Value)}
    (h : pairsFor fields values = .ok (some ps)) :
    q.step (.assign a fields values raw) =
      match assignEach raw (q.state.get a.member) ps with
      | (target, .ok ()) => ⟨(q.setMember a.member target).setKind a.kind.toValue, .ok .none, [], []⟩
      | (target, .error f) => ⟨q.setMember a.member target, .error f, [], []⟩ := by
  show (q.assignEffect a fields values raw).silent = _
  unfold assignEffect assign
  rw [h]
  obtain ⟨target, answer, heach⟩ :
      ∃ target answer, assignEach raw (q.state.get a.member) ps = (target, answer) := ⟨_, _, rfl⟩
  simp only [heach]
  cases answer <;> rfl

/-- Values that do not match their fields are taken for no pairs. -/
theorem pairsFor_of_mismatch (c : Container) {fs : List Value} {values : Value}
    (h : ∀ d vs, values = Container.of d vs → vs.length ≠ fs.length) :
    pairsFor (c.of fs) values = .ok none := by
  have hcontainer (d : Container) (vs : List Value) (hvs : vs.length ≠ fs.length) :
      pairsFor (c.of fs) (d.of vs) = .ok none := by
    rw [Pairing.pairsFor_containers, if_neg hvs]
  cases values with
  | list vs => exact hcontainer .list vs (h .list vs rfl)
  | tuple vs => exact hcontainer .tuple vs (h .tuple vs rfl)
  | _ => cases c <;> rfl

/-- A call for one pair assigns it, or leaves the query as it is. -/
theorem step_assign_one (name : String) (v : Value) :
    q.step (.assign a (.text name) v raw) =
      match assignOne raw (q.state.get a.member) (.text name) v with
      | .ok target => ⟨(q.setMember a.member target).setKind a.kind.toValue, .ok .none, [], []⟩
      | .error f => ⟨q, .error f, [], []⟩ := by
  rw [step_assign_pairs (show pairsFor (.text name) v = .ok (some [(.text name, v)]) from rfl), assignEach]
  cases assignOne raw (q.state.get a.member) (.text name) v with
  | ok target => rfl
  | error f =>
    show Effect.mk (q.setMember a.member (q.state.get a.member)) _ _ _ = _
    rw [setMember_get]

/-! ## What collections take -/

/-- A dictionary takes every pair of a name and a value that has an expression. -/
theorem assignOne_dict (es : Entries) (name : String) {v x : Value} (hx : expression raw v = .ok x) :
    ∃ es', assignOne raw (.dict es) (.text name) v = .ok (.dict es') := by
  unfold assignOne
  split
  · exact ⟨Entries.put (.text name) x es, by rw [hx]; rfl⟩
  · exact ⟨es, rfl⟩

theorem assignEach_dict (es : Entries) {ps : List (String × Value)}
    (hps : ∀ p ∈ ps, ∃ x, expression raw p.2 = .ok x) :
    ∃ es', assignEach raw (.dict es) (textPairs ps) = (.dict es', .ok ()) := by
  induction ps generalizing es with
  | nil => exact ⟨es, rfl⟩
  | cons p ps ih =>
    obtain ⟨⟨x, hx⟩, hrest⟩ := List.forall_mem_cons.mp hps
    obtain ⟨es₁, hone⟩ := assignOne_dict es p.1 hx
    obtain ⟨es₂, heach⟩ := ih es₁ hrest
    refine ⟨es₂, ?_⟩
    rw [textPairs, List.map_cons, assignEach, hone]
    exact heach

/-- Nothing but a dictionary takes a value under a name. -/
theorem assign_text_of_not_dict (h : ∀ es, target ≠ .dict es) :
    ∃ f, ∀ name x, target.assign (.text name) x = .error f := by
  cases target with
  | dict es => exact absurd rfl (h es)
  | list xs => exact ⟨.wrongIndex .list .text, fun _ _ => rfl⟩
  | _ => exact ⟨.notAssignable _, fun _ _ => rfl⟩

/-- So what is no dictionary stays as it is, whatever becomes of the pair. -/
theorem eq_of_assignOne_of_not_dict (h : ∀ es, target ≠ .dict es) {name : String} {v target' : Value}
    (hone : assignOne raw target (.text name) v = .ok target') : target' = target := by
  unfold assignOne at hone
  split at hone
  · obtain ⟨x, -, hx⟩ := bind_eq_ok_iff.mp hone
    obtain ⟨f, hf⟩ := assign_text_of_not_dict h
    rw [hf] at hx
    cases hx
  · cases hone
    rfl

theorem assignEach_of_not_dict (h : ∀ es, target ≠ .dict es) (ps : List (String × Value)) :
    (assignEach raw target (textPairs ps)).1 = target := by
  induction ps with
  | nil => rfl
  | cons p ps ih =>
    rw [textPairs, List.map_cons, assignEach]
    split
    · rename_i target' hone
      rw [eq_of_assignOne_of_not_dict h hone]
      exact ih
    · rfl

/-! ## A call for each pair -/

theorem state_get_setMember (m : Member) (v : Value) : (q.setMember m v).state.get m = v :=
  (State.get_set ..).trans (if_pos rfl)

/-- If the pairs can be assigned, the calls for them assign them, each on what the one before left. -/
theorem after_oneByOne {ps : List (String × Value)}
    (h : assignEach raw (q.state.get a.member) (textPairs ps) = (target, .ok ())) :
    (q.after (oneByOne a raw ps) =
        if ps = [] then q else (q.setMember a.member target).setKind a.kind.toValue) ∧
      ∀ e ∈ q.run (oneByOne a raw ps), e.answer = .ok .none := by
  induction ps generalizing q with
  | nil => exact ⟨rfl, nofun⟩
  | cons p ps ih =>
    rw [textPairs, List.map_cons, assignEach] at h
    split at h
    · rename_i target₁ hone
      have hstep : q.step (.assign a (.text p.1) p.2 raw) =
          ⟨(q.setMember a.member target₁).setKind a.kind.toValue, .ok .none, [], []⟩ := by
        rw [step_assign_one, hone]
      rw [← state_get_setMember (q := q) a.member target₁] at h
      obtain ⟨hafter, hrun⟩ := ih (q := (q.setMember a.member target₁).setKind a.kind.toValue) h
      rw [oneByOne, List.map_cons, after, List.foldl_cons, run_cons, hstep, if_neg (List.cons_ne_nil p ps)]
      refine ⟨hafter.trans ?_, List.forall_mem_cons.mpr ⟨rfl, hrun⟩⟩
      split
      · rename_i hps
        subst hps
        cases h
        rw [state_get_setMember]
      · show ((q.setMember a.member target₁).setMember a.member target).setKind a.kind.toValue = _
        rw [setMember_setMember]
    · cases h

/-- If a pair is refused, so is the call for it. -/
theorem run_oneByOne_of_fault {ps : List (String × Value)}
    (h : assignEach raw (q.state.get a.member) (textPairs ps) = (target, .error f)) :
    ∃ e ∈ q.run (oneByOne a raw ps), e.answer = .error f := by
  induction ps generalizing q with
  | nil => cases h
  | cons p ps ih =>
    rw [textPairs, List.map_cons, assignEach] at h
    rw [oneByOne, List.map_cons, run_cons, step_assign_one]
    cases hone : assignOne raw (q.state.get a.member) (.text p.1) p.2 with
    | ok target₁ =>
      rw [hone] at h
      dsimp only at h
      rw [← state_get_setMember (q := q) a.member target₁] at h
      obtain ⟨e, he, hf⟩ := ih (q := (q.setMember a.member target₁).setKind a.kind.toValue) h
      exact ⟨e, List.mem_cons_of_mem _ he, hf⟩
    | error f' =>
      rw [hone] at h
      cases h
      exact ⟨_, List.mem_cons_self, rfl⟩

/-- On what is no dictionary the calls for the pairs have no effect on the members. -/
theorem state_after_oneByOne_of_not_dict (h : ∀ es, q.state.get a.member ≠ .dict es)
    (ps : List (String × Value)) : (q.after (oneByOne a raw ps)).state = q.state := by
  induction ps generalizing q with
  | nil => rfl
  | cons p ps ih =>
    have hstep : (q.step (.assign a (.text p.1) p.2 raw)).query.state = q.state := by
      rw [step_assign_one]
      split
      · rename_i target hone
        rw [eq_of_assignOne_of_not_dict h hone]
        show (q.setMember a.member (q.state.get a.member)).state = q.state
        rw [setMember_get]
      · rfl
    rw [oneByOne, List.map_cons, after, List.foldl_cons]
    exact (ih (by rw [hstep]; exact h)).trans hstep

/-! ## The two ways -/

section TwoWays

variable {fields values : Value} {ps : List (String × Value)}

/-- Pairs that can all be assigned: both ways leave the same query. -/
theorem at_once_of_ok (hps : ps ≠ []) (hpairs : pairsFor fields values = .ok (some (textPairs ps)))
    (heach : assignEach raw (q.state.get a.member) (textPairs ps) = (target, .ok ())) :
    (q.step (.assign a fields values raw)).answer = .ok .none ∧
      (q.step (.assign a fields values raw)).query = q.after (oneByOne a raw ps) ∧
      ∀ e ∈ q.run (oneByOne a raw ps), e.answer = .ok .none := by
  obtain ⟨hafter, hrun⟩ := after_oneByOne heach
  rw [if_neg hps] at hafter
  rw [step_assign_pairs hpairs, heach]
  exact ⟨rfl, hafter.symm, hrun⟩

/-- A pair that is refused although there is an expression for its value: there is no dictionary for it, and
neither way has an effect on the members. -/
theorem at_once_of_fault (hx : ∀ p ∈ ps, ∃ x, expression raw p.2 = .ok x)
    (hpairs : pairsFor fields values = .ok (some (textPairs ps)))
    (heach : assignEach raw (q.state.get a.member) (textPairs ps) = (target, .error f)) :
    (∀ es, q.state.get a.member ≠ .dict es) ∧
      (q.step (.assign a fields values raw)).answer = .error f ∧
      (q.step (.assign a fields values raw)).query.state = (q.after (oneByOne a raw ps)).state ∧
      ∃ e ∈ q.run (oneByOne a raw ps), e.answer = .error f := by
  have hdict : ∀ es, q.state.get a.member ≠ .dict es := by
    intro es hes
    obtain ⟨es', heach'⟩ := assignEach_dict es hx
    rw [hes, heach'] at heach
    cases heach
  have htarget : target = q.state.get a.member := by
    have hkept : (assignEach raw (q.state.get a.member) (textPairs ps)).1 = _ := assignEach_of_not_dict hdict ps
    rw [← hkept, heach]
  rw [step_assign_pairs hpairs, heach, htarget]
  refine ⟨hdict, rfl, ?_, run_oneByOne_of_fault heach⟩
  show (q.setMember a.member (q.state.get a.member)).state = _
  rw [setMember_get, state_after_oneByOne_of_not_dict hdict]

/-- Values that do not match their fields change the kind of statement alone. -/
theorem step_assign_of_mismatch (c : Container) {fs : List Value}
    (h : ∀ d vs, values = Container.of d vs → vs.length ≠ fs.length) :
    q.step (.assign a (c.of fs) values raw) =
      ⟨q.setKind a.kind.toValue, .ok .none, mismatchNotice (c.of fs) values, []⟩ := by
  show (q.assignEffect a (c.of fs) values raw).silent = _
  unfold assignEffect assign
  rw [pairsFor_of_mismatch c h]
  rfl

end TwoWays

/-- **Assigning pair by pair.** One call with values for as many named fields comes to the same as a call for each
pair, in order: to the same members, in any case, and to the same query if it succeeds. It does so exactly if
the calls for the pairs do, and always on a dictionary. A call with values that do not match their fields only
changes the kind of statement. -/
theorem assigned_pair_by_pair (q : Query) (a : Assignment) (c : Container) (raw : Bool) :
    (∀ (d : Container) (names : List String) (vs : List Value), names ≠ [] → vs.length = names.length →
      (∀ v ∈ vs, ∃ x, expression raw v = .ok x) →
      let e := q.step (.assign a (c.of (names.map .text)) (d.of vs) raw)
      let calls := (names.zip vs).map fun p => Call.assign a (.text p.1) p.2 raw
      e.query.state = (q.after calls).state ∧
        (e.answer = .ok .none → e.query = q.after calls) ∧
        (e.answer = .ok .none ↔ ∀ e' ∈ q.run calls, e'.answer = .ok .none) ∧
        ((∃ es, q.state.get a.member = .dict es) → e.answer = .ok .none)) ∧
    ∀ (fs : List Value) (values : Value), (∀ d vs, values = Container.of d vs → vs.length ≠ fs.length) →
      let e := q.step (.assign a (c.of fs) values raw)
      e.answer = .ok .none ∧ e.query = q.setKind a.kind.toValue := by
  refine ⟨fun d names vs hnames hlength hvs => ?_, fun fs values hvalues => ?_⟩
  · intro e calls
    have hps : names.zip vs ≠ [] := by
      intro hnil
      rcases List.zip_eq_nil_iff.mp hnil with hnil | hnil
      · exact hnames hnil
      · rw [hnil, List.length_nil] at hlength
        exact hnames (List.eq_nil_of_length_eq_zero hlength.symm)
    have hpairs : pairsFor (c.of (names.map .text)) (d.of vs) = .ok (some (textPairs (names.zip vs))) := by
      rw [Pairing.pairsFor_containers, if_pos (by rw [List.length_map, hlength]), List.zip_map_left]
      rfl
    have hx : ∀ p ∈ names.zip vs, ∃ x, expression raw p.2 = .ok x :=
      fun p hp => hvs p.2 (List.of_mem_zip hp).2
    obtain ⟨target, answer, heach⟩ : ∃ target answer,
        assignEach raw (q.state.get a.member) (textPairs (names.zip vs)) = (target, answer) := ⟨_, _, rfl⟩
    cases answer with
    | ok _ =>
      obtain ⟨hanswer, hquery, hrun⟩ := at_once_of_ok hps hpairs heach
      exact ⟨congrArg Query.state hquery, fun _ => hquery, ⟨fun _ => hrun, fun _ => hanswer⟩,
        fun _ => hanswer⟩
    | error f =>
      obtain ⟨hdict, hanswer, hstate, e', he', hf⟩ := at_once_of_fault hx hpairs heach
      have hfails : e.answer ≠ .ok .none := by
        rw [hanswer]
        exact nofun
      refine ⟨hstate, fun h => absurd h hfails, ⟨fun h => absurd h hfails, fun h => ?_⟩,
        fun ⟨es, hes⟩ => absurd hes (hdict es)⟩
      rw [h e' he'] at hf
      cases hf
  · intro e
    have he : e = _ := step_assign_of_mismatch c hvalues
    rw [he]
    exact ⟨rfl, rfl⟩

/-- A field that is named twice, one without a name and one that is assigned already; and a value too few. -/
theorem assigned_pair_by_pair_repeated :
    let q := (blank (.text "") none).setMember .updates (.dict [(.text "b", .text "NULL")])
    let e := q.step (.assign .update (.tuple [.text "a", .text "", .text "b", .text "a"])
      (.list [.list [.int 1], .int 2, .text "x", .int 3]) false)
    e.answer = .ok .none ∧
      e.query = q.after [.assign .update (.text "a") (.list [.int 1]) false,
        .assign .update (.text "") (.int 2) false, .assign .update (.text "b") (.text "x") false,
        .assign .update (.text "a") (.int 3) false] ∧
      e.query.state.updates = .dict [(.text "b", .text "'x'"), (.text "a", .text "3")] ∧
      (q.step (.assign .update (.tuple [.text "a", .text "b"]) (.list [.int 1]) false)).query =
        q.setKind (.text "update") := by
  intro q e
  have hall := assigned_pair_by_pair q .update .tuple false
  have hx : ∀ v ∈ [Value.list [.int 1], .int 2, .text "x", .int 3], ∃ x, expression false v = .ok x := by
    simp only [List.forall_mem_cons, List.not_mem_nil, false_imp_iff, implies_true, and_true]
    exact ⟨⟨_, rfl⟩, ⟨_, rfl⟩, ⟨_, rfl⟩, ⟨_, rfl⟩⟩
  obtain ⟨-, hquery, -, hanswer⟩ := hall.1 .list ["a", "", "b", "a"]
    [.list [.int 1], .int 2, .text "x", .int 3] (List.cons_ne_nil "a" _) rfl hx
  have hok := hanswer ⟨_, rfl⟩
  refine ⟨hok, hquery hok, rfl, (hall.2 [.text "a", .text "b"] (.list [.int 1]) ?_).2⟩
  intro d vs hd
  cases d with
  | list =>
    cases hd
    decide
  | tuple => cases hd

end Query

end SqlDraft
