import SqlDraft.Proofs.Growth

/-!
# Setups that fail

A setup that fails over its options or its level leaves the journal as it was. One that fails over its file has
set the level and replaced the handlers by then, so the file that was written to before is not written to any
more.

* `Journal.Unconfigured`: what is left of a journal whose setup failed over its file.
* `Journal.setupWith_of_no_level`, `setupWith_of_level`: the two ways to fail.
* `Tree.makeDirectories_of_file`, `Journal.setupWith_of_directory_fault`: a file in the place of a directory.
* `Journal.Unconfigured.after`: what was lost does not come back before another setup.
* `Journal.failed_setup_leaves`: what a failed setup leaves, at once and later on.
-/

namespace SqlDraft

/-- No directory is made where a file stands. -/
theorem Tree.makeDirectories_of_file {t : Tree} {refuses : Refusals} (parts : List String) {name : String}
    {p : Path} (hfault : pathFault (parts ++ [name]) = none)
    (hplace : t.place refuses (quotedPath (parts ++ [name])) t.home parts name = .ok p)
    (hfile : t.isFile p = true) :
    t.makeDirectories refuses (parts ++ [name]) =
      (t, .error (.fileInTheWay (quotedPath (parts ++ [name])))) := by
  have hmake : t.makeDirectory refuses parts name =
      .error (.fileInTheWay (quotedPath (parts ++ [name]))) := by
    unfold makeDirectory
    simp only [hfault, hplace, ok_bind, hfile, if_true]
  have hreverse : (parts ++ [name]).reverse = name :: parts.reverse := by
    rw [List.reverse_append, List.reverse_singleton, List.singleton_append]
  rw [makeDirectories, hreverse, makeUpwards, List.reverse_reverse, hmake]

namespace Journal

variable {j : Journal} {refuses : Refusals} {options : List (String × Value)} {s : Setup} {l : Level} {f : Fault}

/-- What is left of a journal whose setup failed over its file: the new level, the handler for the console if one
was asked for, and the files as they were. -/
structure Unconfigured (j : Journal) (s : Setup) (l : Level) (j' : Journal) : Prop where
  handlers : j'.handlers = s.consoleHandlers l
  content : ∀ q, j'.tree.content? q = j.tree.content? q

/-- Options that do not say how to set the journal up, or name no level, change nothing. -/
theorem setupWith_of_no_level
    (h : ¬∃ s l, Setup.ofOptions options = .ok s ∧ levelOf s.level = .ok l) :
    (j.setupWith refuses options).journal = j := by
  have houtcome := j.setupWith_outcome refuses options
  generalize j.setupWith refuses options = report at houtcome ⊢
  cases houtcome with
  | refused => rfl
  | broken chosen level => exact absurd ⟨_, _, chosen, level⟩ h
  | complete chosen level => exact absurd ⟨_, _, chosen, level⟩ h

/-- Options that name a level fail over the file alone. -/
theorem setupWith_of_level (hs : Setup.ofOptions options = .ok s) (hl : levelOf s.level = .ok l)
    (hf : (j.setupWith refuses options).answer = .error f) :
    s.file.truthy = true ∧ (j.setupWith refuses options).journal.rootLevel = l ∧
      (j.setupWith refuses options).journal.levels = j.levels ∧
      j.Unconfigured s l (j.setupWith refuses options).journal := by
  have houtcome := j.setupWith_outcome refuses options
  have hfile : s.file.truthy = true := by
    by_contra hfile
    unfold setupWith setup at hf
    simp only [hs, hl, if_neg hfile] at hf
    cases hf
  generalize j.setupWith refuses options = report at houtcome hf ⊢
  cases houtcome with
  | refused level =>
    obtain ⟨f', hf'⟩ := level s hs
    rw [hl] at hf'
    cases hf'
  | broken chosen level relevelled handlers content =>
    rw [hs] at chosen
    cases chosen
    rw [hl] at level
    cases level
    exact ⟨hfile, relevelled.rootLevel, relevelled.levels, handlers, content⟩
  | complete => cases hf

/-- A setup that has no directory for its file fails over that. -/
theorem setupWith_of_directory_fault {directory : List String} {tree : Tree}
    (hs : Setup.ofOptions options = .ok s) (hl : levelOf s.level = .ok l) (hfile : s.file.truthy = true)
    (hdirectory : s.directoryParts = .ok directory)
    (hmade : j.tree.makeDirectories refuses directory = (tree, .error f)) :
    j.setupWith refuses options = ({ j with
      rootLevel := l, decisions := [], handlers := s.consoleHandlers l, tree := tree } : Journal).failed f := by
  unfold setupWith setup addFile
  simp only [hs, hl, if_pos hfile, hdirectory, hmade]
  rfl

/-- No request but a setup brings a handler back, or changes a file. -/
theorem Unconfigured.after {j' : Journal} (h : j.Unconfigured s l j') {rs : List Request}
    (hrs : ∀ r ∈ rs, r.isSetup = false) : j.Unconfigured s l (j'.after rs) := by
  have hkept := j'.after_kept hrs
  refine ⟨hkept.handlers.trans h.handlers, fun q => (hkept.spared q fun e he ht => ?_).trans (h.content q)⟩
  rw [h.handlers] at he
  rw [Setup.target_of_mem_consoleHandlers he] at ht
  cases ht

/-- **Failed setups.** Whatever the system refuses: a setup that fails leaves everything as it was, unless its options
name a level. If they do it has failed over its file: the root logger has that level and, of the handlers that were
asked for, the one for the console; those it had before are gone. Until the next setup it keeps these handlers, and no
file changes. -/
theorem failed_setup_leaves (j : Journal) (refuses : Refusals) (options : List (String × Value)) (f : Fault)
    (h : (j.step (.setup refuses options)).answer = .error f) :
    let j' := (j.step (.setup refuses options)).journal
    ((¬∃ s l, Setup.ofOptions options = .ok s ∧ levelOf s.level = .ok l) → j' = j) ∧
      ∀ s l, Setup.ofOptions options = .ok s → levelOf s.level = .ok l →
        s.file.truthy = true ∧ j'.rootLevel = l ∧ j'.handlers = s.consoleHandlers l ∧ j'.levels = j.levels ∧
          ∀ rs : List Request, (∀ r ∈ rs, r.isSetup = false) →
            (j'.after rs).handlers = s.consoleHandlers l ∧
              ∀ q, (j'.after rs).tree.content? q = j.tree.content? q := by
  intro j'
  refine ⟨setupWith_of_no_level, fun s l hs hl => ?_⟩
  obtain ⟨hfile, hroot, hlevels, hleft⟩ := setupWith_of_level hs hl h
  refine ⟨hfile, hroot, hleft.handlers, hlevels, fun rs hrs => ?_⟩
  obtain ⟨hhandlers, hcontent⟩ := hleft.after hrs
  exact ⟨hhandlers, hcontent⟩

/-- A setup whose directory is the file that the journal writes to. -/
theorem setupWith_over_file :
    let j := (initial (.initial ["srv"])).after [.setup .none [("log_file", .text "a.log")]]
    j.setupWith .none
        [("log_level", .text "ERROR"), ("log_dir", .text "logs/a.log"), ("log_file", .text "b.log")] =
      ({ j with rootLevel := .error, decisions := [], handlers := Setup.usual.consoleHandlers .error } :
        Journal).failed (.fileInTheWay "'logs/a.log'") := by
  intro j
  have htree : j.tree = ⟨["srv"], [["dev"], ["srv", "logs"]],
      [(["dev", "null"], ""), (["srv", "logs", "a.log"], "")]⟩ := rfl
  have hquoted : quotedPath ["logs", "a.log"] = "'logs/a.log'" := by decide +kernel
  have hplace : j.tree.place .none (quotedPath ["logs", "a.log"]) j.tree.home ["logs"] "a.log" =
      .ok ["srv", "logs", "a.log"] := by
    rw [htree]
    rfl
  have hfile : j.tree.isFile ["srv", "logs", "a.log"] = true := by rw [htree]; rfl
  have hmade := Tree.makeDirectories_of_file ["logs"] (by decide +kernel) hplace hfile
  rw [List.singleton_append, hquoted] at hmade
  exact setupWith_of_directory_fault
    (s := ⟨.text "ERROR", .text "b.log", .text "logs/a.log", true, true⟩) rfl rfl rfl rfl hmade

/-- A setup whose directory is a file: the handler for the file that was written to so far is gone. -/
theorem failed_setup_leaves_console :
    let j := (initial (.initial ["srv"])).after [.setup .none [("log_file", .text "a.log")]]
    let options := [("log_level", .text "ERROR"), ("log_dir", .text "logs/a.log"), ("log_file", .text "b.log")]
    let j' := (j.step (.setup .none options)).journal
    (j.step (.setup .none options)).answer = .error (.fileInTheWay "'logs/a.log'") ∧ j'.rootLevel = .error ∧
      j'.handlers = Setup.usual.consoleHandlers .error ∧
      (j'.after [.log 0 (.text "x") (.int 50) (.text "lost") (.ok [])]).tree.content? ["srv", "logs", "a.log"] =
        some "" := by
  intro j options j'
  have hanswer : (j.step (.setup .none options)).answer = .error (.fileInTheWay "'logs/a.log'") :=
    congrArg Report.answer setupWith_over_file
  obtain ⟨-, hroot, hhandlers, -, hlater⟩ := (failed_setup_leaves j .none options _ hanswer).2
    ⟨.text "ERROR", .text "b.log", .text "logs/a.log", true, true⟩ .error rfl rfl
  refine ⟨hanswer, hroot, hhandlers, ?_⟩
  obtain ⟨-, hcontent⟩ := hlater [.log 0 (.text "x") (.int 50) (.text "lost") (.ok [])] (by decide)
  rw [hcontent]
  rfl

/-- The root logger loses its level and a handler to a setup that fails. -/
theorem failed_setup_replaces_handlers :
    let j := (initial (.initial ["srv"])).after [.setup .none [("log_file", .text "a.log")]]
    let r := j.step (.setup .none
      [("log_level", .text "ERROR"), ("log_dir", .text "logs/a.log"), ("log_file", .text "b.log")])
    r.answer = .error (.fileInTheWay "'logs/a.log'") ∧ r.journal.rootLevel ≠ j.rootLevel ∧
      r.journal.handlers ≠ j.handlers := by
  intro j r
  have hr : r = _ := setupWith_over_file
  rw [hr]
  refine ⟨rfl, by decide +kernel, fun h => ?_⟩
  have hlength := congrArg List.length h
  revert hlength
  decide +kernel

end Journal

end SqlDraft
