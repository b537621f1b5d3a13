import SqlDraft.Proofs.Lines
import SqlDraft.Proofs.Remembering

/-!
# Delivery

A message that its logger takes, and that weighs enough for the last setup, is written once to every place
that this setup asked for, and nowhere else.

* `Record.exists_shows`: the line of a record.
* `Setup.consoleText`, `Setup.fileText`: what a setup writes of a line, and where.
* `Journal.deliver_of_handlers`, `deliver_of_lighter`: what the handlers of a setup write.
* `Journal.Writes`, `step_log_writes`, `step_log_silent`: what one message writes.
* `Journal.Passes`, `Delivers`: the messages that are written, and what a setup stands for until the next.
* `Journal.delivered_exactly_once`: after any requests, a setup stands for it.
-/

namespace SqlDraft

/-! ## Records of messages -/

theorem levelLabel_of_messageLevel {level label : Value} {l : Level}
    (hlevel : Journal.messageLevel? level = some l) (h : levelLabel level = .ok label) :
    ∃ s, label = .text s := by
  have hkey : level.keyFault = none := by
    cases level <;> first | rfl | cases hlevel
  have hnumber : levelNumber? level = none := by
    cases level <;> first | rfl | cases hlevel
  unfold levelLabel at h
  rw [hkey, hnumber] at h
  dsimp only at h
  split at h
  · rename_i label' hlabel
    cases h
    unfold Entries.get? at hlabel
    obtain ⟨e, he, rfl⟩ := Option.map_eq_some_iff.mp hlabel
    obtain ⟨named, -, rfl⟩ := List.mem_map.mp (List.mem_of_find?_eq_some he)
    exact ⟨_, rfl⟩
  · rename_i hrank
    cases hrank
  · obtain ⟨s, -, h⟩ := bind_eq_ok_iff.mp h
    cases h
    exact ⟨_, rfl⟩

/-- A message that can be filled, at a time that can be told, has a line. -/
theorem Record.exists_shows {logger message time : String} {level template : Value} {values : List Value}
    {created : Int} {r : Record} {l : Level} (hlevel : Journal.messageLevel? level = some l)
    (hmake : Record.make (.text logger) level template values created = .ok r)
    (hmessage : r.text = .ok message) (htime : r.time = .ok time) :
    ∃ label, levelLabel level = .ok (.text label) ∧ r.Shows ⟨time, logger, label, message⟩ := by
  have hbare := Record.bare_of_make hmake
  obtain ⟨label, hlabel, h⟩ := bind_eq_ok_iff.mp hmake
  obtain ⟨s, rfl⟩ := levelLabel_of_messageLevel hlevel hlabel
  cases h
  exact ⟨s, hlabel, hbare, htime, rfl, rfl, hmessage⟩

/-! ## Handlers -/

theorem Setup.level_of_mem_handlers {s : Setup} {home : Path} {l : Level} {h : Handler}
    (hh : h ∈ s.handlers home l) : h.level = l := by
  rcases List.mem_append.mp hh with hh | hh
  · unfold consoleHandlers at hh
    split at hh
    · rw [List.mem_singleton.mp hh]
    · cases hh
  · obtain ⟨q, -, rfl⟩ := List.mem_map.mp hh
    rfl

/-- What a setup writes of a line to the console. -/
def Setup.consoleText (s : Setup) (x : Line) : String :=
  if s.console then x.text s.colours ++ Journal.lineEnd else ""

/-- What a setup writes of a line behind a file, if paths start at a home. The device that swallows what is written
keeps nothing. -/
def Setup.fileText (s : Setup) (home : Path) (x : Line) (q : Path) : String :=
  if s.location? home = some q then Tree.kept q (x.text false ++ Journal.lineEnd) else ""

namespace Journal

variable {j : Journal} {s : Setup} {home : Path} {l₀ l : Level} {record : Record} {x : Line}

namespace Delivery

variable {d : Delivery}

/-- A handler writes the line of a record that weighs enough. -/
theorem through_of_shows (h : d.record.Shows x) (hl : l₀.rank ≤ d.level.rank) (t : Target)
    (colours : Bool) : d.through ⟨t, l₀, ⟨lineTemplate, colours⟩⟩ = d.write t (x.text colours) := by
  rw [through_eq, if_pos hl]
  dsimp only
  rw [h.format_eq, Formatter.format_record _ h.bare.isNoted]

/-- A handler passes over a record that does not weigh enough. -/
theorem through_of_lighter {h : Handler} (hl : ¬h.level.rank ≤ d.level.rank) : d.through h = d := by
  rw [through_eq, if_neg hl]

/-- The handler for the console writes a record that weighs enough once, if there is one. -/
theorem foldl_consoleHandlers (h : d.record.Shows x) (hl : l₀.rank ≤ d.level.rank) :
    (s.consoleHandlers l₀).foldl Delivery.through d =
      { d with console := d.console ++ s.consoleText x } := by
  unfold Setup.consoleHandlers Setup.consoleText
  split
  · rw [List.foldl_cons, List.foldl_nil, through_of_shows h hl, write, String.append_assoc]
  · rw [List.foldl_nil, String.append_empty]

/-- The handler for a file writes a record that weighs enough once, if there is one. -/
theorem foldl_fileHandler (h : d.record.Shows x) (hl : l₀.rank ≤ d.level.rank) :
    let d' := ((s.location? home).toList.map fun p => Setup.fileHandler p l₀).foldl Delivery.through d
    d'.console = d.console ∧
      ∀ q, d'.tree.content? q = (d.tree.content? q).map fun c => c ++ s.fileText home x q := by
  unfold Setup.fileText
  cases s.location? home with
  | none => exact ⟨rfl, fun q => by simp⟩
  | some p =>
    have hthrough : d.through (Setup.fileHandler p l₀) = d.write (.file p) (x.text false) :=
      through_of_shows h hl (.file p) false
    simp only [Option.toList_some, List.map_cons, List.map_nil, List.foldl_cons, List.foldl_nil, hthrough]
    refine ⟨rfl, fun q => ?_⟩
    show (d.tree.append p _).content? q = _
    rw [Tree.content_append]
    by_cases hq : q = p
    · simp only [hq, if_true]
    · have hne : some p ≠ some q := fun h => hq (Option.some.inj h).symm
      simp only [if_neg hq, if_neg hne, String.append_empty]

end Delivery

/-- **The handlers of a setup** write a record that weighs enough once each, and nothing else. -/
theorem deliver_of_handlers (hj : j.handlers = s.handlers home l₀) (h : record.Shows x)
    (hl : l₀.rank ≤ l.rank) :
    (j.deliver l record).2 = s.consoleText x ∧
      ∀ q, (j.deliver l record).1.tree.content? q =
        (j.tree.content? q).map fun c => c ++ s.fileText home x q := by
  unfold deliver
  dsimp only
  rw [hj, Setup.handlers, List.foldl_append, Delivery.foldl_consoleHandlers h hl, String.empty_append]
  exact Delivery.foldl_fileHandler (d := ⟨l, record, j.tree, s.consoleText x⟩) h hl

theorem foldl_through_of_lighter {hs : List Handler} {d : Delivery}
    (h : ∀ e ∈ hs, ¬e.level.rank ≤ d.level.rank) : hs.foldl Delivery.through d = d := by
  induction hs with
  | nil => rfl
  | cons e hs ih =>
    obtain ⟨he, hrest⟩ := List.forall_mem_cons.mp h
    rw [List.foldl_cons, Delivery.through_of_lighter he, ih hrest]

/-- The handlers of a setup write nothing of a record that does not weigh enough. -/
theorem deliver_of_lighter (hj : j.handlers = s.handlers home l₀) (hl : ¬l₀.rank ≤ l.rank)
    (record : Record) : j.deliver l record = (j, "") := by
  have hlighter : ∀ e ∈ j.handlers, ¬e.level.rank ≤ l.rank := by
    intro e he
    rw [hj] at he
    rwa [Setup.level_of_mem_handlers he]
  unfold deliver
  rw [foldl_through_of_lighter (d := ⟨l, record, j.tree, ""⟩) hlighter]

/-! ## Messages -/

variable {name : String} {level message : Value} {values : List Value} {created : Int}

theorem log_of_takes (hlevel : messageLevel? level = some l) (htakes : j.takes name l = true)
    (hmake : Record.make (.text (canonicalName name)) level message values created = .ok record) :
    j.log name level message values created =
      (((j.decided name l).deliver l record).1, .ok ((j.decided name l).deliver l record).2) := by
  rw [log_eq j name hlevel, if_pos htakes, view_name, hmake]

theorem log_of_not_takes (hlevel : messageLevel? level = some l) (htakes : ¬j.takes name l = true) :
    j.log name level message values created = (j.decided name l, .ok "") := by
  rw [log_eq j name hlevel, if_neg htakes]

/-- Whether a request writes a text to the console, and texts behind the contents of the files, and changes
no content otherwise. -/
structure Writes (j : Journal) (r : Request) (console : String) (added : Path → String) : Prop where
  console : (j.step r).console = console
  content : ∀ q, (j.step r).journal.tree.content? q = (j.tree.content? q).map fun c => c ++ added q

theorem step_log {nameV : Value} (hname : nameOf nameV = .ok name) (j : Journal) (created : Int)
    (level message : Value) (values : List Value) :
    j.step (.log created nameV level message (.ok values)) =
      ((j.note name).log name level message values created).1.done
        ((j.note name).log name level message values created).2 := by
  unfold step
  dsimp only
  rw [hname]
  rfl

/-- A message that its logger takes, and that weighs enough, is written once to each place. -/
theorem step_log_writes {nameV : Value} {text time : String} (hj : j.handlers = s.handlers home l₀)
    (hname : nameOf nameV = .ok name) (hlevel : messageLevel? level = some l)
    (htakes : (j.note name).takes name l = true) (hl : l₀.rank ≤ l.rank)
    (hmake : Record.make (.text (canonicalName name)) level message values created = .ok record)
    (htext : record.text = .ok text) (htime : record.time = .ok time) :
    ∃ label, levelLabel level = .ok (.text label) ∧
      j.Writes (.log created nameV level message (.ok values))
        (s.consoleText ⟨time, canonicalName name, label, text⟩)
        (s.fileText home ⟨time, canonicalName name, label, text⟩) := by
  obtain ⟨label, hlabel, hshows⟩ := Record.exists_shows hlevel hmake htext htime
  have hdecided : ((j.note name).decided name l).handlers = s.handlers home l₀ :=
    (j.note_handlers name).trans hj
  obtain ⟨hconsole, hcontent⟩ := deliver_of_handlers hdecided hshows hl
  refine ⟨label, hlabel, ?_, fun q => ?_⟩
  · rw [step_log hname, log_of_takes hlevel htakes hmake]
    exact hconsole
  · have htree : ((j.note name).decided name l).tree = j.tree := j.note_tree name
    rw [step_log hname, log_of_takes hlevel htakes hmake, done_journal, hcontent q, htree]

theorem log_silent (hj : j.handlers = s.handlers home l₀) (hlevel : messageLevel? level = some l)
    (h : ¬(j.takes name l = true ∧ l₀.rank ≤ l.rank)) (message : Value) (values : List Value)
    (created : Int) :
    (j.log name level message values created).1.tree = j.tree ∧
      ((j.log name level message values created).1.done
        (j.log name level message values created).2).console = "" := by
  by_cases htakes : j.takes name l = true
  · have hl : ¬l₀.rank ≤ l.rank := fun hl => h ⟨htakes, hl⟩
    cases hmake : Record.make (.text (canonicalName name)) level message values created with
    | error f =>
      rw [log_eq j name hlevel, if_pos htakes, view_name, hmake]
      exact ⟨rfl, rfl⟩
    | ok record =>
      rw [log_of_takes hlevel htakes hmake, deliver_of_lighter (j := j.decided name l) hj hl]
      exact ⟨rfl, rfl⟩
  · rw [log_of_not_takes hlevel htakes]
    exact ⟨rfl, rfl⟩

/-- Nothing is written of any other message. -/
theorem step_log_silent {nameV : Value} (hj : j.handlers = s.handlers home l₀)
    (hname : nameOf nameV = .ok name) (hlevel : messageLevel? level = some l)
    (h : ¬((j.note name).takes name l = true ∧ l₀.rank ≤ l.rank)) (created : Int) (message : Value)
    (values : List Value) :
    j.Writes (.log created nameV level message (.ok values)) "" fun _ => "" := by
  obtain ⟨htree, hconsole⟩ :=
    log_silent ((j.note_handlers name).trans hj) hlevel h message values created
  refine ⟨?_, fun q => ?_⟩
  · rw [step_log hname]
    exact hconsole
  · rw [step_log hname, done_journal, htree, note_tree]
    simp

/-! ## From one setup to the next -/

/-- Whether a message passes after some requests, of which the latest comes first: its level is positive, and
neither below the one that counts for its logger nor below the one of a setup. -/
def Passes (tree : Tree) (latest : List Request) (l₀ : Level) (name : String) (l : Level) : Prop :=
  0 < l.rank ∧ (countingLevel tree latest name l).rank ≤ l.rank ∧ l₀.rank ≤ l.rank

/-- What a setup with a level stands for after some requests, which started with the files of a tree. -/
structure Delivers (tree : Tree) (requests : List Request) (s : Setup) (l₀ : Level) : Prop where
  /-- The handlers are those that the setup asks for. -/
  handlers : ((initial tree).after requests).handlers = s.handlers tree.home l₀
  /-- The file is there. -/
  file : ∀ q, s.location? tree.home = some q →
    (((initial tree).after requests).tree.content? q).isSome = true
  /-- A message that passes is written once to each place that the setup asks for. -/
  written : ∀ created nameV name level l message values record text time,
    nameOf nameV = .ok name → messageLevel? level = some l →
    Passes tree requests.reverse l₀ name l →
    Record.make (.text (canonicalName name)) level message values created = .ok record →
    record.text = .ok text → record.time = .ok time →
    ∃ label, levelLabel level = .ok (.text label) ∧
      ((initial tree).after requests).Writes (.log created nameV level message (.ok values))
        (s.consoleText ⟨time, canonicalName name, label, text⟩)
        (s.fileText tree.home ⟨time, canonicalName name, label, text⟩)
  /-- Nothing is written of another message. -/
  silent : ∀ created nameV name level l message values,
    nameOf nameV = .ok name → messageLevel? level = some l →
    ¬Passes tree requests.reverse l₀ name l →
    ((initial tree).after requests).Writes (.log created nameV level message (.ok values)) "" fun _ => ""
  /-- For a logger with a steady name the level counts that it has at present. -/
  steady : ∀ name l, SteadyName name →
    countingLevel tree requests.reverse name l =
      ((((initial tree).after requests).note name).view name).effective

theorem delivers_of_handlers {tree : Tree} {requests : List Request}
    (hhandlers : ((initial tree).after requests).handlers = s.handlers tree.home l₀)
    (hfile : ∀ q, s.location? tree.home = some q →
      (((initial tree).after requests).tree.content? q).isSome = true) :
    Delivers tree requests s l₀ := by
  have htakes (name : String) (l : Level) := takes_iff tree requests.reverse name l
  have hsteady {name : String} (h : SteadyName name) (l : Level) :=
    countingLevel_of_steady tree requests.reverse h l
  simp only [List.reverse_reverse] at htakes hsteady
  refine ⟨hhandlers, hfile, ?_, ?_, fun _ l h => hsteady h l⟩
  · intro created nameV name level l message values record text time hname hlevel hpasses hmake htext htime
    obtain ⟨hpositive, hcounting, hl⟩ := hpasses
    exact step_log_writes hhandlers hname hlevel ((htakes name l).mpr ⟨hpositive, hcounting⟩) hl
      hmake htext htime
  · intro created nameV name level l message values hname hlevel hpasses
    refine step_log_silent hhandlers hname hlevel ?_ created message values
    rintro ⟨htaken, hl⟩
    obtain ⟨hpositive, hcounting⟩ := (htakes name l).mp htaken
    exact hpasses ⟨hpositive, hcounting, hl⟩

theorem after_append (j : Journal) (rs ss : List Request) :
    j.after (rs ++ ss) = (j.after rs).after ss := List.foldl_append

/-- A request for a setup that comes through leaves the handlers that it asks for, and their file. -/
theorem setupWith_of_ok {refuses : Refusals} {options : List (String × Value)}
    (h : (j.setupWith refuses options).answer = .ok none) :
    ∃ s l, Setup.ofOptions options = .ok s ∧ levelOf s.level = .ok l ∧
      (s.location? j.tree.home).isSome = s.file.truthy ∧
      (j.setupWith refuses options).journal.handlers = s.handlers j.tree.home l ∧
      ∀ q, s.location? j.tree.home = some q →
        ∃ c, (j.setupWith refuses options).journal.tree.content? q = some c := by
  have houtcome := j.setupWith_outcome refuses options
  generalize j.setupWith refuses options = report at h houtcome ⊢
  cases houtcome with
  | refused | broken => cases h
  | complete ho hl _ hhandlers hlocation hcontent =>
    refine ⟨_, _, ho, hl, hlocation, hhandlers, fun q hq => ?_⟩
    rw [hcontent q, if_pos hq]
    cases j.tree.content? q with
    | none => exact ⟨"", rfl⟩
    | some c => exact ⟨c, rfl⟩

/-- **Delivery.** Whatever files there were at first: from a setup that comes through until the next, a message that
passes is written once to each place that the setup asks for, and nothing is written otherwise. A file of an earlier
setup stays as it is until a setup opens it again, and files only ever grow by lines. -/
theorem delivered_exactly_once (tree : Tree) (history : List Request) (refuses : Refusals)
    (options : List (String × Value))
    (h : (((initial tree).after history).step (.setup refuses options)).answer = .ok none) :
    ∃ s l₀, Setup.ofOptions options = .ok s ∧ levelOf s.level = .ok l₀ ∧
      (s.location? tree.home).isSome = s.file.truthy ∧
      (∀ later, (∀ r ∈ later, r.isSetup = false) →
        Delivers tree (history ++ .setup refuses options :: later) s l₀) ∧
      (∀ later q, s.location? tree.home ≠ some q →
        ¬((initial tree).after (history ++ [.setup refuses options])).Opens q later →
        ((initial tree).after (history ++ .setup refuses options :: later)).tree.content? q =
          ((initial tree).after (history ++ [.setup refuses options])).tree.content? q) ∧
      ∀ before later, ((initial tree).after before).tree.Extends
        ((initial tree).after (before ++ later)).tree := by
  obtain ⟨s, l₀, ho, hl₀, hlocation, hhandlers, hfile⟩ := setupWith_of_ok h
  have hhome : ((initial tree).after history).tree.home = tree.home := (initial tree).after_home history
  rw [hhome] at hlocation hhandlers hfile
  have hafter (later : List Request) : (initial tree).after (history ++ .setup refuses options :: later) =
      (((initial tree).after history).setupWith refuses options).journal.after later :=
    (initial tree).after_append history (.setup refuses options :: later)
  refine ⟨s, l₀, ho, hl₀, hlocation, fun later hlater => ?_, fun later q hq hopens => ?_,
    fun before later => ?_⟩
  · have hkept := (((initial tree).after history).setupWith refuses options).journal.after_kept hlater
    rw [← hafter] at hkept
    refine delivers_of_handlers (hkept.handlers.trans hhandlers) fun q hq => ?_
    obtain ⟨c, hc⟩ := hfile q hq
    obtain ⟨lines, hlines⟩ := hkept.extends_tree q c hc
    rw [hlines]
    rfl
  · rw [hafter] at hopens ⊢
    rw [hafter]
    refine after_untouched (fun e he ht => hq ?_) hopens
    exact Setup.location_of_target (hhandlers ▸ he) ht
  · rw [after_append]
    exact after_extends _ later

/-- A setup that moves the file, and a message that passes afterwards. -/
theorem delivered_exactly_once_moved :
    let tree := Tree.initial ["srv"]
    let earlier : Request := .setup .none [("log_file", .text "a.log")]
    let options : List (String × Value) := [("log_file", .text "b.log")]
    (((initial tree).after [earlier]).step (.setup .none options)).answer = .ok none ∧
      ∃ s, Setup.ofOptions options = .ok s ∧ Delivers tree [earlier, .setup .none options] s .info ∧
        Passes tree [.setup .none options, earlier] .info "a" .info := by
  have h : (((initial (.initial ["srv"])).after [.setup .none [("log_file", .text "a.log")]]).step
      (.setup .none [("log_file", .text "b.log")])).answer = .ok none := rfl
  intro tree earlier options
  obtain ⟨s, l₀, ho, hl₀, -, hdelivers, -⟩ := delivered_exactly_once tree [earlier] .none options h
  obtain rfl : { Setup.usual with file := .text "b.log" } = s := Except.ok.inj ho
  obtain rfl : Level.info = l₀ := Except.ok.inj hl₀
  refine ⟨h, _, rfl, hdelivers [] (by simp), ?_, ?_, ?_⟩
  · decide
  · decide +kernel
  · decide

/-- The level that a logger has at present need not be the one that counts: this logger was asked when no
logger with a level was known to enclose it, and a name between the two was asked for since. -/
theorem remembered_decision_outlives_level :
    let j := (initial (.initial [])).after [.setup .none [("use_colors", .bool false)],
      .logger (.text "a") [.text "ERROR"], .log 0 (.text "a..b") (.int 20) (.text "x") (.ok []),
      .logger (.text "a.") []]
    ((j.note "a..b").view "a..b").effective = .error ∧
      (j.step (.log 60 (.text "a..b") (.int 20) (.text "y") (.ok []))).console =
        "1970-01-01 00:01:00 - a..b - INFO - y\n" := by
  decide +kernel

end Journal

end SqlDraft
