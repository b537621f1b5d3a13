import SqlDraft.Proofs.Growth
import SqlDraft.Proofs.Nearest

/-!
# Remembered decisions

A logger decides about messages of a level when it is first asked, and remembers the decision until a level
is set somewhere. So what counts for it is the level that counted when it was asked.

* `Request.setsLevel`, `Request.asks?`: the requests that set a level, and those that ask a logger.
* `firstAsked`: the requests before a logger was first asked since a level was last set.
* `Journal.countingLevel`: the level that counted for it then.
* `Journal.setupWith_cases`, `loggerWith_cases`: what a setup and a request for a logger do to levels.
* `Journal.step_decisions_of_setsLevel`, `step_noted`: what one request does to decisions and levels.
* `Journal.takes_iff`: whether a logger takes messages, after any requests.
* `Journal.countingLevel_of_steady`: for a steady name the level counts that it has at present.
-/

namespace SqlDraft

/-- The name under which a logger writes. -/
def canonicalName (name : String) : String := if isRootName name then rootName else name

namespace Request

/-- Whether a request sets a level. A setup that fails over its file has set one before. -/
def setsLevel : Request → Bool
  | .setup _ options =>
    match Setup.ofOptions options with
    | .ok s => (levelOf s.level).toBool
    | .error _ => false
  | .logger name args =>
    match Journal.loggerSignature.check args.length, Journal.nameOf name with
    | .ok _, .ok _ => (args.getD 0 .null).truthy && (levelOf (args.getD 0 .null)).toBool
    | _, _ => false
  | .log .. => false

/-- The logger that a request asks whether it takes messages of a level, and the level. -/
def asks? : Request → Option (String × Level)
  | .log _ name level _ (.ok _) =>
    match Journal.nameOf name, Journal.messageLevel? level with
    | .ok name, some l => some (canonicalName name, l)
    | _, _ => none
  | _ => none

end Request

/-- The requests before the one that first asked a logger about messages of a level since a level was last
set, if there is one. The latest request comes first. -/
def firstAsked (key : String × Level) : List Request → Option (List Request)
  | [] => none
  | r :: older =>
    if r.setsLevel then none
    else (firstAsked key older).or (if r.asks? = some key then some older else none)

namespace Journal

/-- The level that counts for a logger and messages of a level after some requests, of which the latest comes
first: the effective level that the logger had when it was first asked about such messages, if it was asked
since a level was last set, and otherwise the one that it has at present. -/
def countingLevel (tree : Tree) (latest : List Request) (name : String) (l : Level) : Level :=
  let requests := ((firstAsked (canonicalName name, l) latest).getD latest).reverse
  ((((initial tree).after requests).note name).view name).effective

theorem after_reverse_cons (j : Journal) (r : Request) (older : List Request) :
    j.after (r :: older).reverse = ((j.after older.reverse).step r).journal := by
  rw [List.reverse_cons, after, List.foldl_append]
  rfl

/-! ## Names -/

variable {j : Journal} {name : String} {l : Level}

theorem view_name (j : Journal) (name : String) : (j.view name).name = canonicalName name := by
  unfold view canonicalName
  split <;> rfl

theorem canonicalName_canonicalName (name : String) :
    canonicalName (canonicalName name) = canonicalName name := by
  unfold canonicalName
  by_cases h : isRootName name = true
  · rw [if_pos h]
    rfl
  · rw [if_neg h, if_neg h]

theorem admits_canonicalName (j : Journal) (name : String) (l : Level) :
    j.admits (canonicalName name) l = j.admits name l := by
  unfold canonicalName
  split
  · rename_i h
    unfold admits view
    rw [if_pos h]
    rfl
  · rfl

theorem note_canonicalName (j : Journal) (name : String) : j.note (canonicalName name) = j.note name := by
  unfold canonicalName
  split
  · rename_i h
    unfold note
    rw [if_pos h]
    rfl
  · rfl

/-! ## What requests do to decisions -/

@[simp] theorem note_decisions (j : Journal) (name : String) : (j.note name).decisions = j.decisions := by
  unfold note
  split <;> rfl

theorem setLevel_decisions (j : Journal) (name : String) (l : Level) :
    (j.setLevel name l).decisions = [] := by
  unfold setLevel
  split <;> rfl

/-- A message leaves the levels as they are, and a decision. -/
theorem log_of_level (j : Journal) (name : String) {level : Value} (h : messageLevel? level = some l)
    (message : Value) (values : List Value) (created : Int) :
    (j.log name level message values created).1.rootLevel = j.rootLevel ∧
      (j.log name level message values created).1.levels = j.levels ∧
      (j.log name level message values created).1.decisions =
        ((canonicalName name, l), j.takes name l) :: j.decisions := by
  rw [log_eq j name h, ← j.view_name]
  split
  · split <;> exact ⟨rfl, rfl, rfl⟩
  · exact ⟨rfl, rfl, rfl⟩

theorem takes_eq (j : Journal) (name : String) (l : Level) :
    j.takes name l = (j.decisions.lookup (canonicalName name, l)).getD (j.admits name l) := by
  rw [takes, view_name]

theorem takes_canonicalName (j : Journal) (name : String) (l : Level) :
    j.takes (canonicalName name) l = j.takes name l := by
  rw [takes_eq, takes_eq, canonicalName_canonicalName, admits_canonicalName]

/-- A request for a logger notes it, if it is not refused, and may set its level. -/
theorem loggerWith_cases (j : Journal) (name : Value) (args : List Value) :
    (Request.logger name args).setsLevel = false ∧
        ((j.loggerWith name args).journal = j ∨ ∃ n, (j.loggerWith name args).journal = j.note n) ∨
      (Request.logger name args).setsLevel = true ∧
        ∃ n l, (j.loggerWith name args).journal = (j.note n).setLevel n l := by
  unfold loggerWith Request.setsLevel
  dsimp only
  cases loggerSignature.check args.length with
  | error f => exact .inl ⟨rfl, .inl rfl⟩
  | ok _ =>
    cases nameOf name with
    | error f => exact .inl ⟨rfl, .inl rfl⟩
    | ok n =>
      unfold logger
      dsimp only
      by_cases ht : (args.getD 0 .null).truthy = true
      · rw [if_pos ht, ht]
        cases levelOf (args.getD 0 .null) with
        | error f => exact .inl ⟨rfl, .inr ⟨n, rfl⟩⟩
        | ok l => exact .inr ⟨rfl, n, l, rfl⟩
      · rw [if_neg ht, Bool.eq_false_iff.mpr ht]
        exact .inl ⟨rfl, .inr ⟨n, rfl⟩⟩

/-- A setup that sets no level comes to nothing, and one that sets a level makes all decisions void. -/
theorem setupWith_cases (j : Journal) (refuses : Refusals) (options : List (String × Value)) :
    (Request.setup refuses options).setsLevel = false ∧ (j.setupWith refuses options).journal = j ∨
      (Request.setup refuses options).setsLevel = true ∧
        ∃ l, j.Relevelled l (j.setupWith refuses options).journal := by
  have houtcome := j.setupWith_outcome refuses options
  generalize j.setupWith refuses options = report at houtcome ⊢
  unfold Request.setsLevel
  dsimp only
  cases houtcome with
  | refused hlevel =>
    refine .inl ⟨?_, rfl⟩
    cases ho : Setup.ofOptions options with
    | error f => rfl
    | ok s =>
      obtain ⟨f, hl⟩ := hlevel s ho
      dsimp only
      rw [hl]
      rfl
  | broken ho hl hrelevelled | complete ho hl hrelevelled =>
    refine .inr ⟨?_, _, hrelevelled⟩
    rw [ho]
    dsimp only
    rw [hl]
    rfl

/-- Setting a level makes all decisions void. -/
theorem step_decisions_of_setsLevel (j : Journal) {r : Request}
    (hr : r.setsLevel = true) : (j.step r).journal.decisions = [] := by
  cases r with
  | log => cases hr
  | setup refuses options =>
    obtain ⟨h, -⟩ | ⟨-, l, hrelevelled⟩ := j.setupWith_cases refuses options
    · rw [h] at hr
      cases hr
    · exact hrelevelled.decisions
  | logger name args =>
    obtain ⟨h, -⟩ | ⟨-, n, l, hj⟩ := j.loggerWith_cases name args
    · rw [h] at hr
      cases hr
    · exact (congrArg decisions hj).trans (setLevel_decisions ..)

/-- What a request does that sets no level: it may note a logger, and add a decision of the logger that it
asks. -/
structure Noted (j j' : Journal) (asked : Option (String × Level)) : Prop where
  rootLevel : j'.rootLevel = j.rootLevel
  levels : j'.levels = j.levels ∨ ∃ name, isRootName name = false ∧ j'.levels = j.levels.note name
  decisions : j'.decisions =
    (asked.map fun key => (key, (j.note key.1).takes key.1 key.2)).toList ++ j.decisions

theorem Noted.refl (j : Journal) : j.Noted j none := ⟨rfl, .inl rfl, rfl⟩

theorem noted_note (j : Journal) (name : String) : j.Noted (j.note name) none := by
  unfold note
  split
  · exact .refl j
  · rename_i h
    exact ⟨rfl, .inr ⟨name, Bool.not_eq_true _ ▸ h, rfl⟩, rfl⟩

theorem message_noted (j : Journal) (created : Int) (name : String) (level message : Value)
    (values : List Value) :
    j.Noted ((j.note name).message created name level message (.ok values)).journal
      ((messageLevel? level).map fun l => (canonicalName name, l)) := by
  have hnote := j.noted_note name
  unfold Journal.message
  dsimp only
  rw [done_journal]
  cases hl : messageLevel? level with
  | none =>
    rw [log_of_no_level hl]
    exact hnote
  | some l =>
    obtain ⟨hroot, hlevels, hdecisions⟩ :=
      (j.note name).log_of_level name hl message values created
    refine ⟨hroot.trans hnote.rootLevel, ?_, ?_⟩
    · rw [hlevels]
      exact hnote.levels
    · rw [hdecisions, note_decisions, Option.map_some, Option.map_some, note_canonicalName,
        takes_canonicalName]
      rfl

/-- **One request** that sets no level. -/
theorem step_noted (j : Journal) {r : Request} (hr : r.setsLevel = false) :
    j.Noted (j.step r).journal r.asks? := by
  cases r with
  | setup refuses options =>
    show j.Noted (j.setupWith refuses options).journal none
    obtain ⟨-, hj⟩ | ⟨h, -⟩ := j.setupWith_cases refuses options
    · rw [hj]
      exact .refl j
    · rw [h] at hr
      cases hr
  | logger name args =>
    show j.Noted (j.loggerWith name args).journal none
    obtain ⟨-, hj | ⟨n, hj⟩⟩ | ⟨h, -⟩ := j.loggerWith_cases name args
    · rw [hj]
      exact .refl j
    · rw [hj]
      exact j.noted_note n
    · rw [h] at hr
      cases hr
  | log created name level message values =>
    unfold step
    dsimp only
    cases hname : nameOf name with
    | error f =>
      have hasks : (Request.log created name level message values).asks? = none := by
        cases values with
        | error f => rfl
        | ok values => simp only [Request.asks?, hname]
      rw [hasks]
      exact .refl j
    | ok n =>
      cases values with
      | error f => exact j.noted_note n
      | ok values =>
        have hasks : (Request.log created name level message (.ok values)).asks? =
            (messageLevel? level).map fun l => (canonicalName n, l) := by
          simp only [Request.asks?, hname]
          cases messageLevel? level <;> rfl
        rw [hasks]
        exact j.message_noted created n level message values

/-! ## Decisions after requests -/

/-- What is remembered of a logger is what it decided when it was first asked. -/
theorem lookup_decisions (tree : Tree) (latest : List Request) (name : String) (l : Level) :
    ((initial tree).after latest.reverse).decisions.lookup (canonicalName name, l) =
      (firstAsked (canonicalName name, l) latest).map fun older =>
        (((initial tree).after older.reverse).note (canonicalName name)).admits (canonicalName name) l := by
  induction latest with
  | nil => rfl
  | cons r older ih =>
    rw [after_reverse_cons, firstAsked]
    by_cases hr : r.setsLevel = true
    · rw [if_pos hr, step_decisions_of_setsLevel _ hr]
      rfl
    · rw [if_neg hr]
      have hnoted := ((initial tree).after older.reverse).step_noted (Bool.not_eq_true _ ▸ hr)
      rw [hnoted.decisions, List.lookup_append, ih]
      by_cases hask : r.asks? = some (canonicalName name, l)
      · rw [hask, if_pos rfl, Option.map_some, Option.toList_some, List.lookup_cons_self, Option.some_or,
          takes_eq, note_decisions, canonicalName_canonicalName, ih]
        cases firstAsked (canonicalName name, l) older <;> rfl
      · rw [if_neg hask, Option.or_none]
        cases hasked : r.asks? with
        | none => rfl
        | some key =>
          have hne : ((canonicalName name, l) == key) = false := by
            refine beq_eq_false_iff_ne.mpr fun he => hask ?_
            rw [hasked, he]
          rw [Option.map_some, Option.toList_some, List.lookup_cons, hne]
          rfl

/-- **After any requests** a logger takes messages by the level that counted when it was first asked. -/
theorem takes_iff (tree : Tree) (latest : List Request) (name : String) (l : Level) :
    (((initial tree).after latest.reverse).note name).takes name l = true ↔
      0 < l.rank ∧ (countingLevel tree latest name l).rank ≤ l.rank := by
  have hadmits (j : Journal) : (j.note name).admits name l = true ↔
      0 < l.rank ∧ ((j.note name).view name).effective.rank ≤ l.rank := by
    rw [admits, Bool.and_eq_true, decide_eq_true_iff, decide_eq_true_iff]
  rw [takes_eq, note_decisions, lookup_decisions, countingLevel]
  simp only [note_canonicalName, admits_canonicalName]
  cases firstAsked (canonicalName name, l) latest <;> exact hadmits _

/-! ## Levels after requests -/

/-- Journals with the same levels, whatever loggers were asked for. -/
structure SameLevels (j j' : Journal) : Prop where
  rootLevel : j'.rootLevel = j.rootLevel
  own : ∀ name, j'.levels.own name = j.levels.own name

theorem SameLevels.trans {j j' j'' : Journal} (h : j.SameLevels j') (h' : j'.SameLevels j'') :
    j.SameLevels j'' :=
  ⟨h'.rootLevel.trans h.rootLevel, fun name => (h'.own name).trans (h.own name)⟩

theorem SameLevels.symm {j j' : Journal} (h : j.SameLevels j') : j'.SameLevels j :=
  ⟨h.rootLevel.symm, fun name => (h.own name).symm⟩

theorem Noted.sameLevels {j j' : Journal} {asked : Option (String × Level)} (h : j.Noted j' asked) :
    j.SameLevels j' := by
  refine ⟨h.rootLevel, fun name => ?_⟩
  rcases h.levels with hl | ⟨n, -, hl⟩
  · rw [hl]
  · rw [hl, Levels.own_note]

theorem Noted.proper {j j' : Journal} {asked : Option (String × Level)} (h : j.Noted j' asked)
    (hj : j.levels.Proper) : j'.levels.Proper := by
  rcases h.levels with hl | ⟨n, hn, hl⟩
  · rwa [hl]
  · rw [hl]
    exact hj.note hn

theorem setLevel_proper {j : Journal} (hj : j.levels.Proper) (name : String) (l : Level) :
    (j.setLevel name l).levels.Proper := by
  unfold setLevel
  split
  · exact hj
  · rename_i h
    exact hj.set (Bool.not_eq_true _ ▸ h) l

theorem step_proper {j : Journal} (hj : j.levels.Proper) (r : Request) :
    (j.step r).journal.levels.Proper := by
  cases hr : r.setsLevel with
  | false => exact (j.step_noted hr).proper hj
  | true =>
    cases r with
    | setup refuses options =>
      show (j.setupWith refuses options).journal.levels.Proper
      obtain ⟨-, h⟩ | ⟨-, l, hrelevelled⟩ := j.setupWith_cases refuses options
      · rwa [h]
      · rwa [hrelevelled.levels]
    | logger name args =>
      show (j.loggerWith name args).journal.levels.Proper
      obtain ⟨h, -⟩ | ⟨-, n, l, h⟩ := j.loggerWith_cases name args
      · rw [h] at hr
        cases hr
      · rw [h]
        exact setLevel_proper ((j.noted_note n).proper hj) n l
    | log => cases hr

theorem after_proper (tree : Tree) (latest : List Request) :
    ((initial tree).after latest.reverse).levels.Proper := by
  induction latest with
  | nil => exact fun _ _ => rfl
  | cons r older ih =>
    rw [after_reverse_cons]
    exact step_proper ih r

/-- No level was set since a logger was first asked. -/
theorem sameLevels_of_firstAsked (tree : Tree) {key : String × Level} {latest older : List Request}
    (h : firstAsked key latest = some older) :
    ((initial tree).after older.reverse).SameLevels ((initial tree).after latest.reverse) := by
  induction latest with
  | nil => cases h
  | cons r rest ih =>
    rw [firstAsked] at h
    by_cases hr : r.setsLevel = true
    · rw [if_pos hr] at h
      cases h
    · rw [if_neg hr] at h
      have hstep := (((initial tree).after rest.reverse).step_noted
        (Bool.not_eq_true _ ▸ hr)).sameLevels
      rw [after_reverse_cons]
      cases hrest : firstAsked key rest with
      | some o =>
        rw [hrest, Option.some_or] at h
        cases h
        exact (ih hrest).trans hstep
      | none =>
        rw [hrest, Option.none_or] at h
        split at h
        · cases h
          exact hstep
        · cases h

theorem effective_of_sameLevels {j j' : Journal} (h : j.SameLevels j') (hj : j.levels.Proper)
    (hj' : j'.levels.Proper) {name : String} (hname : SteadyName name) :
    (j'.view name).effective = (j.view name).effective := by
  unfold view
  split
  · exact h.rootLevel
  · show j'.levels.effective j'.rootLevel name = j.levels.effective j.rootLevel name
    rw [Levels.effective_eq_nearest hj hname, Levels.effective_eq_nearest hj' hname, h.rootLevel,
      Levels.nearest_congr h.own]

/-- **For a logger with a steady name** the level counts that it has at present. -/
theorem countingLevel_of_steady (tree : Tree) (latest : List Request) {name : String}
    (h : SteadyName name) (l : Level) :
    countingLevel tree latest name l =
      ((((initial tree).after latest.reverse).note name).view name).effective := by
  have hnote (requests : List Request) :=
    ((initial tree).after requests.reverse).noted_note name
  unfold countingLevel
  cases hasked : firstAsked (canonicalName name, l) latest with
  | none => rfl
  | some older =>
    have hsame := ((hnote older).sameLevels.symm.trans (sameLevels_of_firstAsked tree hasked)).trans
      (hnote latest).sameLevels
    exact (effective_of_sameLevels hsame ((hnote older).proper (after_proper tree older))
      ((hnote latest).proper (after_proper tree latest)) h).symm

end Journal

end SqlDraft
