import SqlDraft.Proofs.Growth
import SqlDraft.Proofs.Lines

/-!
# Muted runs

What is written to the console has no bearing on the files. A request for a setup is muted by switching the
console and its colours off, whatever it chose for them. The run of muted requests has no console and no
colours; in all else it is the run of the requests as they were.

* `Handler.writesFile`: the handlers that a muted journal keeps.
* `Delivery.muted`, `Journal.muted`, `Report.muted`, `Setup.muted`: what is left without the console.
* `Setup.muteOptions`, `Request.muted`: options and requests without a console.
* `Delivery.muted_through`, `muted_foldl_through`: one handler, and all of them.
* `Journal.log_muted`, `logger_muted`, `setup_muted`, `Setup.ofOptions_muteOptions`: what a request comes to.
* `Journal.step_muted`, `run_muted`: one request, and any number of them.
* `Request.SameButConsole`, `Journal.run_of_sameButConsole`: two runs that differ in the console.
* `Journal.PlainFiles`, `run_plainFiles`: no handler for a file has colours.
* `Journal.console_leaves_files_alone`: so colours and console never reach a file.
-/

namespace SqlDraft

/-! ## Without the console -/

/-- Whether a handler writes to a file. -/
def Handler.writesFile (h : Handler) : Bool :=
  match h.target with
  | .console => false
  | .file _ => true

/-- A record on its way of which nothing was written to the console. -/
def Journal.Delivery.muted (d : Journal.Delivery) : Journal.Delivery := { d with console := "" }

/-- A setup without console and colours. -/
def Setup.muted (s : Setup) : Setup := { s with console := false, colours := false }

/-- A journal without its handlers for the console. -/
def Journal.muted (j : Journal) : Journal := { j with handlers := j.handlers.filter Handler.writesFile }

/-- A report of which nothing was written to the console. -/
def Report.muted (e : Report) : Report := ⟨e.journal.muted, e.answer, ""⟩

/-- Whether an option is a choice for the console. -/
def Setup.concernsConsole (option : String) : Bool := option == "console_output" || option == "use_colors"

/-- The options that are no choices for the console. -/
def Setup.otherOptions (options : List (String × Value)) : List (String × Value) :=
  options.filter fun o => !concernsConsole o.1

/-- Options with the console and its colours switched off, whatever was chosen for them. -/
def Setup.muteOptions (options : List (String × Value)) : List (String × Value) :=
  [("console_output", .bool false), ("use_colors", .bool false)] ++ otherOptions options

/-- A request without console and colours. -/
def Request.muted : Request → Request
  | setup refuses options => setup refuses (Setup.muteOptions options)
  | r => r

namespace Journal

/-! ## Records on their way -/

namespace Delivery

/-- A handler leaves a record without an exception to note as it was. -/
theorem through_record {d : Delivery} (hd : d.record.isNoted = true) (h : Handler) :
    (d.through h).record = d.record := by
  have hformat := h.formatter.format_record hd
  rw [through_eq]
  split
  · dsimp only
    split
    · cases h.target <;> exact hformat
    · exact hformat
  · rfl

/-- A handler for the console does nothing but write to the console, and the others do not read it. -/
theorem muted_through {d : Delivery} (hd : d.record.isNoted = true) (h : Handler) :
    (d.through h).muted = if h.writesFile then d.muted.through h else d.muted := by
  rw [through_eq, through_eq]
  cases ht : h.target with
  | console =>
    have hconsole : h.writesFile = false := by rw [Handler.writesFile, ht]
    rw [hconsole, if_neg Bool.false_ne_true, h.formatter.format_record hd]
    split
    · dsimp only
      split <;> rfl
    · rfl
  | file p =>
    have hfile : h.writesFile = true := by rw [Handler.writesFile, ht]
    rw [hfile, if_pos rfl]
    by_cases hrank : h.level.rank ≤ d.level.rank
    · have hmuted : h.level.rank ≤ d.muted.level.rank := hrank
      have hrecord : d.muted.record = d.record := rfl
      rw [if_pos hrank, if_pos hmuted, hrecord]
      cases (h.formatter.format d.record).2 <;> rfl
    · have hmuted : ¬h.level.rank ≤ d.muted.level.rank := hrank
      rw [if_neg hrank, if_neg hmuted]

theorem muted_foldl_through (hs : List Handler) {d : Delivery} (hd : d.record.isNoted = true) :
    (hs.foldl Delivery.through d).muted = (hs.filter Handler.writesFile).foldl Delivery.through d.muted := by
  induction hs generalizing d with
  | nil => rfl
  | cons h hs ih =>
    have hthrough : (d.through h).record.isNoted = true := through_record hd h ▸ hd
    rw [List.foldl_cons, ih hthrough, muted_through hd, List.filter_cons]
    cases h.writesFile <;> rfl

end Delivery

variable (j : Journal)

/-! ## Messages -/

theorem deliver_muted (l : Level) {record : Record} (h : record.isNoted = true) :
    j.muted.deliver l record = ((j.deliver l record).1.muted, "") := by
  have hfold : j.muted.handlers.foldl Delivery.through ⟨l, record, j.muted.tree, ""⟩ =
      (j.handlers.foldl Delivery.through ⟨l, record, j.tree, ""⟩).muted :=
    (Delivery.muted_foldl_through j.handlers (d := ⟨l, record, j.tree, ""⟩) h).symm
  unfold deliver
  rw [hfold]
  rfl

theorem log_muted (name : String) (level message : Value) (values : List Value) (created : Int) :
    j.muted.log name level message values created =
      ((j.log name level message values created).1.muted,
        (j.log name level message values created).2.map fun _ => "") := by
  cases hl : messageLevel? level with
  | none =>
    rw [log_of_no_level hl, log_of_no_level hl]
    rfl
  | some l =>
    rw [log_eq j name hl, log_eq j.muted name hl]
    have htakes : j.muted.takes name l = j.takes name l := rfl
    have hview : j.muted.view name = j.view name := rfl
    have hdecided : j.muted.decided name l = (j.decided name l).muted := rfl
    rw [htakes, hview, hdecided]
    split
    · split
      · rfl
      · rename_i hmake
        rw [deliver_muted _ _ (Record.bare_of_make hmake).isNoted]
        rfl
    · rfl

/-! ## Loggers -/

theorem note_muted (name : String) : j.muted.note name = (j.note name).muted := by
  unfold note
  split <;> rfl

theorem setLevel_muted (name : String) (l : Level) : j.muted.setLevel name l = (j.setLevel name l).muted := by
  unfold setLevel
  split <;> rfl

theorem logger_muted (name : String) (level : Value) :
    j.muted.logger name level = ((j.logger name level).1.muted, (j.logger name level).2) := by
  unfold logger
  dsimp only
  rw [note_muted]
  split
  · split
    · rfl
    · rw [setLevel_muted]
      rfl
  · rfl

/-! ## Setups -/

variable (refuses : Refusals)

theorem openFile_muted (parts : List String) (l : Level) :
    j.muted.openFile refuses parts l =
      ((j.openFile refuses parts l).1.muted, (j.openFile refuses parts l).2) := by
  have htree : j.muted.tree = j.tree := rfl
  unfold openFile
  rw [htree]
  split
  · rfl
  · have hhandlers (p : Path) : (j.handlers ++ [Setup.fileHandler p l]).filter Handler.writesFile =
        j.handlers.filter Handler.writesFile ++ [Setup.fileHandler p l] := List.filter_append ..
    simp only [muted, hhandlers]

theorem addFile_muted (s : Setup) (l : Level) :
    j.muted.addFile refuses s.muted l = ((j.addFile refuses s l).1.muted, (j.addFile refuses s l).2) := by
  have hdirectory : s.muted.directoryParts = s.directoryParts := rfl
  have hfile : s.muted.fileParts = s.fileParts := rfl
  have htree : j.muted.tree = j.tree := rfl
  unfold addFile
  rw [hdirectory, hfile, htree]
  split
  · rfl
  · split
    · rfl
    · dsimp only
      split
      · rfl
      · exact openFile_muted { j with tree := _ } refuses _ l

theorem filter_consoleHandlers (s : Setup) (l : Level) :
    (s.consoleHandlers l).filter Handler.writesFile = [] := by
  refine List.filter_eq_nil_iff.mpr fun h hh => ?_
  rw [Handler.writesFile, Setup.target_of_mem_consoleHandlers hh]
  exact Bool.false_ne_true

theorem setup_muted (s : Setup) :
    j.muted.setup refuses s.muted = ((j.setup refuses s).1.muted, (j.setup refuses s).2) := by
  have hlevel : s.muted.level = s.level := rfl
  have hfile : s.muted.file = s.file := rfl
  unfold setup
  rw [hlevel, hfile]
  split
  · rfl
  · rename_i l _
    have hjournal : { j.muted with rootLevel := l, decisions := [], handlers := s.muted.consoleHandlers l } =
        ({ j with rootLevel := l, decisions := [], handlers := s.consoleHandlers l } : Journal).muted :=
      congrArg (Journal.mk l j.levels [] · j.tree) (filter_consoleHandlers s l).symm
    dsimp only
    rw [hjournal]
    split
    · exact addFile_muted ..
    · rfl

end Journal

namespace Setup

/-- A choice for the console is lost when a setup is muted; any other choice can be made afterwards. -/
theorem map_muted_choose (s : Setup) (option : String) (v : Value) :
    (s.choose option v).map muted =
      if concernsConsole option then .ok s.muted else s.muted.choose option v := by
  unfold choose
  split
  · rfl
  · rfl
  · rfl
  · rfl
  · rfl
  · rename_i hconsole hcolours
    have hother : concernsConsole option = false := by
      rw [concernsConsole, Bool.or_eq_false_iff, beq_eq_false_iff_ne, beq_eq_false_iff_ne]
      exact ⟨hconsole, hcolours⟩
    rw [hother]
    rfl

theorem map_muted_foldlM (options : List (String × Value)) (s : Setup) :
    (options.foldlM (fun s o => choose s o.1 o.2) s).map muted =
      (otherOptions options).foldlM (fun s o => choose s o.1 o.2) s.muted := by
  induction options generalizing s with
  | nil => rfl
  | cons o options ih =>
    have hchoose := s.map_muted_choose o.1 o.2
    rw [List.foldlM_cons, otherOptions, List.filter_cons]
    cases hconsole : concernsConsole o.1 with
    | true =>
      rw [hconsole, if_pos rfl] at hchoose
      obtain ⟨s', hs', hmuted⟩ := map_eq_ok_iff.mp hchoose
      rw [hs', ok_bind, ih, hmuted]
      rfl
    | false =>
      rw [hconsole, if_neg Bool.false_ne_true] at hchoose
      rw [Bool.not_false, if_pos rfl, List.foldlM_cons, ← hchoose]
      cases s.choose o.1 o.2 with
      | error f => rfl
      | ok s' => exact ih s'

/-- Muted options ask for the setup that they asked for before, without console and colours. -/
theorem ofOptions_muteOptions (options : List (String × Value)) :
    ofOptions (muteOptions options) = (ofOptions options).map muted :=
  (map_muted_foldlM options usual).symm

end Setup

/-! ## Requests -/

namespace Journal

theorem done_muted (j : Journal) (console : Except Fault String) :
    j.muted.done (console.map fun _ => "") = (j.done console).muted := by
  cases console <;> rfl

theorem setupWith_muted (j : Journal) (refuses : Refusals) (options : List (String × Value)) :
    j.muted.setupWith refuses (Setup.muteOptions options) = (j.setupWith refuses options).muted := by
  unfold setupWith
  rw [Setup.ofOptions_muteOptions]
  cases Setup.ofOptions options with
  | error f => rfl
  | ok s =>
    simp only [map_ok, setup_muted]
    cases (j.setup refuses s).2 <;> rfl

theorem message_muted (j : Journal) (created : Int) (name : String) (level message : Value)
    (values : Except Fault (List Value)) :
    j.muted.message created name level message values =
      (j.message created name level message values).muted := by
  unfold Journal.message
  cases values with
  | error f => rfl
  | ok values =>
    dsimp only
    rw [log_muted]
    exact done_muted ..

/-- **One request.** Muting it takes nothing away but what is written to the console. -/
theorem step_muted (j : Journal) (r : Request) :
    j.muted.step r.muted = (j.step r).muted := by
  cases r with
  | setup refuses options => exact j.setupWith_muted refuses options
  | logger name args =>
    show j.muted.loggerWith name args = (j.loggerWith name args).muted
    unfold loggerWith
    split
    · rfl
    · rfl
    · rw [logger_muted]
      rfl
  | log created name level message values =>
    unfold step
    dsimp only [Request.muted]
    split
    · rfl
    · rw [note_muted]
      exact message_muted ..

/-- **A run.** Muting its requests takes nothing away but what is written to the console. -/
theorem run_muted (j : Journal) (rs : List Request) :
    j.muted.run (rs.map Request.muted) = (j.run rs).map Report.muted := by
  induction rs generalizing j with
  | nil => rfl
  | cons r rs ih =>
    rw [List.map_cons, run_cons, run_cons, List.map_cons, step_muted]
    exact congrArg _ (ih _)

end Journal

/-! ## Two runs -/

namespace Request

/-- Two requests that are one up to the choices for the console. -/
inductive SameButConsole : Request → Request → Prop
  | setup {refuses : Refusals} {options options' : List (String × Value)}
      (others : Setup.otherOptions options = Setup.otherOptions options') :
      SameButConsole (.setup refuses options) (.setup refuses options')
  | same (r : Request) : SameButConsole r r

theorem SameButConsole.muted_eq {r r' : Request} (h : r.SameButConsole r') : r.muted = r'.muted := by
  cases h with
  | setup others => rw [muted, muted, Setup.muteOptions, Setup.muteOptions, others]
  | same => rfl

theorem map_muted_of_sameButConsole {rs rs' : List Request} (h : List.Forall₂ SameButConsole rs rs') :
    rs.map muted = rs'.map muted := by
  induction h with
  | nil => rfl
  | cons hr _ ih => rw [List.map_cons, List.map_cons, hr.muted_eq, ih]

end Request

namespace Report

/-- What a request comes to besides what is written to the console: its answer, the directories and the files. -/
def outcome (e : Report) : Except Fault (Option Journal.LoggerView) × Tree := (e.answer, e.journal.tree)

theorem map_outcome_muted (es : List Report) : (es.map muted).map outcome = es.map outcome := by
  rw [List.map_map]
  rfl

end Report

namespace Journal

/-- Runs that differ in the choices for the console come to the same, request by request. -/
theorem run_of_sameButConsole {j j' : Journal} (hj : j.muted = j'.muted) {rs rs' : List Request}
    (hrs : List.Forall₂ Request.SameButConsole rs rs') :
    (j.run rs).map Report.outcome = (j'.run rs').map Report.outcome := by
  calc (j.run rs).map Report.outcome
      = (j.muted.run (rs.map Request.muted)).map Report.outcome := by
        rw [run_muted, Report.map_outcome_muted]
    _ = (j'.muted.run (rs'.map Request.muted)).map Report.outcome := by
        rw [hj, Request.map_muted_of_sameButConsole hrs]
    _ = (j'.run rs').map Report.outcome := by rw [run_muted, Report.map_outcome_muted]

/-! ## Colours -/

/-- The journals none of whose handlers for files has colours. -/
def PlainFiles (j : Journal) : Prop := ∀ h ∈ j.muted.handlers, h.formatter.colours = false

theorem setupWith_plainFiles {j : Journal} (hj : j.PlainFiles) (refuses : Refusals)
    (options : List (String × Value)) : (j.setupWith refuses options).journal.PlainFiles := by
  have houtcome := j.setupWith_outcome refuses options
  generalize j.setupWith refuses options = report at houtcome ⊢
  cases houtcome with
  | refused => exact hj
  | @broken s l f j' _ _ _ hhandlers _ =>
    intro h hh
    have hfiles : h ∈ j'.handlers.filter Handler.writesFile := hh
    rw [hhandlers, filter_consoleHandlers] at hfiles
    cases hfiles
  | @complete s l j' _ _ _ hhandlers _ _ =>
    intro h hh
    have hfiles : h ∈ j'.handlers.filter Handler.writesFile := hh
    rw [hhandlers, Setup.handlers, List.filter_append, filter_consoleHandlers, List.nil_append] at hfiles
    obtain ⟨p, -, rfl⟩ := List.mem_map.mp (List.mem_filter.mp hfiles).1
    rfl

theorem step_plainFiles {j : Journal} (hj : j.PlainFiles) (r : Request) :
    (j.step r).journal.PlainFiles := by
  obtain ⟨refuses, options, rfl⟩ | hkept := j.setup_or_kept r
  · exact setupWith_plainFiles hj refuses options
  · intro h hh
    refine hj h ?_
    show h ∈ j.handlers.filter Handler.writesFile
    rw [← hkept.handlers]
    exact hh

/-- Throughout a run no handler for a file has colours. -/
theorem run_plainFiles {j : Journal} (hj : j.PlainFiles) (rs : List Request) :
    ∀ e ∈ j.run rs, e.journal.PlainFiles := by
  induction rs generalizing j with
  | nil => exact fun e he => absurd he List.not_mem_nil
  | cons r rs ih =>
    rw [run_cons]
    have hstep := step_plainFiles hj r
    exact List.forall_mem_cons.mpr ⟨hstep, ih hstep⟩

/-- **Console and colours.** A formatter leaves a record as it was, whether it comes to a text or to a fault; only the
text of its exception may be noted, if there is one and it was not noted before. Runs that differ in the choices for
the console alone come to the same answers, directories and files after every request. So the files are those of a
run without the console; throughout that run no handler has colours. -/
theorem console_leaves_files_alone :
    (∀ (f : Formatter) (r : Record),
      (f.format r).1 = { r with exceptionText := (f.format r).1.exceptionText } ∧
        (r.isNoted = true → (f.format r).1 = r)) ∧
    (∀ (j : Journal) (rs rs' : List Request), List.Forall₂ Request.SameButConsole rs rs' →
      (j.run rs).map Report.outcome = (j.run rs').map Report.outcome) ∧
    ∀ (tree : Tree) (rs : List Request),
      ((initial tree).run rs).map Report.outcome =
        ((initial tree).run (rs.map Request.muted)).map Report.outcome ∧
      ∀ e ∈ (initial tree).run (rs.map Request.muted),
        e.console = "" ∧ ∀ h ∈ e.journal.handlers, h.formatter.colours = false := by
  refine ⟨fun f r => ⟨f.format_record_eq r, f.format_record⟩,
    fun j rs rs' hrs => run_of_sameButConsole rfl hrs, fun tree rs => ?_⟩
  have hmuted : (initial tree).run (rs.map Request.muted) = ((initial tree).run rs).map Report.muted :=
    run_muted (initial tree) rs
  have hplain : (initial tree).PlainFiles := fun h hh => absurd hh List.not_mem_nil
  rw [hmuted, Report.map_outcome_muted]
  refine ⟨rfl, fun e he => ?_⟩
  obtain ⟨e', he', rfl⟩ := List.mem_map.mp he
  exact ⟨rfl, run_plainFiles hplain rs e' he'⟩

/-- A message in colour, and one that cannot be written, beside the same without the console. -/
theorem console_leaves_files_alone_coloured :
    let j := initial (.initial ["srv"])
    let messages : List Request := [.log 0 (.text "x") (.int 40) (.text "boom") (.ok []),
      .log 1 (.text "x") (.int 40) (.text "%d") (.ok [.text "y"])]
    let rs := .setup .none [("log_file", .text "a.log")] :: messages
    let rs' := .setup .none [("console_output", .int 0), ("log_file", .text "a.log")] :: messages
    (j.run rs).map Report.outcome = (j.run rs').map Report.outcome ∧
      (j.run rs).map Report.console =
        ["", "1970-01-01 00:00:00 - x - " ++ terminalCode "31" ++ "ERROR" ++ plainCode ++ " - boom\n", ""] ∧
      (j.after rs).tree.inside = [(["logs", "a.log"], "1970-01-01 00:00:00 - x - ERROR - boom\n")] := by
  intro j messages rs rs'
  have hrs : List.Forall₂ Request.SameButConsole rs rs' :=
    .cons (.setup rfl) (.cons (.same _) (.cons (.same _) .nil))
  exact ⟨console_leaves_files_alone.2.1 j rs rs' hrs, by decide +kernel, by decide +kernel⟩

end Journal

end SqlDraft
