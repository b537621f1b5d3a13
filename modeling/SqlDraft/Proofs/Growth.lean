import Mathlib.Data.List.Basic
import SqlDraft.Journal.Run
import SqlDraft.Proofs.Outcome

/-!
# Files that grow

What stands in a file stays there, and more lines come behind it only through a handler that writes to the
file.

* `linesText`, `Tree.Extends`: lines one after another, and trees whose files have only grown by lines.
* `Tree.makeDirectories_eq`, `openFile_spec`: what making directories and opening a file change.
* `Setup.location?`, `Setup.handlers`: where the file of a setup stands, and the handlers it asks for.
* `Journal.SetupOutcome`, `setupWith_outcome`: what a request for a setup can come to.
* `Journal.log_eq`: what a message does.
* `Delivery.through_eq`: what a handler does with a record.
* `Journal.step_kept`, `setup_or_kept`: what a request keeps unless it is for a setup.
* `Journal.step_home`, `after_home`: the home stays.
* `Journal.step_extends`, `after_extends`: one request, and any number of them, only make files grow.
* `Journal.Opens`, `Journal.step_untouched`, `after_untouched`: no request changes a file that no handler
  writes to, up to a setup that opens it.
-/

namespace SqlDraft

/-- Lines one after another, each with its end. -/
def linesText (lines : List String) : String := String.join (lines.map fun line => line ++ Journal.lineEnd)

theorem linesText_append (ls ls' : List String) : linesText (ls ++ ls') = linesText ls ++ linesText ls' := by
  rw [linesText, List.map_append, String.join_append]
  rfl

theorem linesText_singleton (line : String) : linesText [line] = line ++ Journal.lineEnd := by
  rw [linesText, List.map_singleton, String.join_cons, String.join_nil, String.append_empty]

/-! ## Trees -/

namespace Tree

/-- Whether the files of one tree are those of another, with more lines behind their contents. -/
def Extends (t t' : Tree) : Prop :=
  ∀ p c, t.content? p = some c → ∃ lines, t'.content? p = some (c ++ linesText lines)

theorem Extends.of_content {t t' : Tree} (h : ∀ p c, t.content? p = some c → t'.content? p = some c) :
    t.Extends t' := fun p c hc => ⟨[], (h p c hc).trans (congrArg some (String.append_empty).symm)⟩

theorem Extends.refl (t : Tree) : t.Extends t := .of_content fun _ _ h => h

theorem Extends.trans {t t' t'' : Tree} (h : t.Extends t') (h' : t'.Extends t'') : t.Extends t'' := by
  intro p c hc
  obtain ⟨lines, hlines⟩ := h p c hc
  obtain ⟨lines', hlines'⟩ := h' p _ hlines
  exact ⟨lines ++ lines', by rw [hlines', linesText_append, String.append_assoc]⟩

variable {t t' : Tree} {p : Path}

/-- Adding a line to a file. -/
theorem append_extends (t : Tree) (p : Path) (line : String) :
    t.Extends (t.append p (line ++ Journal.lineEnd)) := by
  intro q c hc
  rw [content_append, hc, Option.map_some]
  by_cases hq : q = p
  · rw [if_pos hq, kept]
    split
    · exact ⟨[], rfl⟩
    · exact ⟨[line], by rw [linesText_singleton]⟩
  · rw [if_neg hq]
    exact ⟨[], congrArg some (String.append_empty).symm⟩

/-! ### Directories -/

variable {refuses : Refusals}

theorem makeDirectory_eq {parts : List String} {name : String}
    (h : t.makeDirectory refuses parts name = .ok t') : ∃ ds, t' = { t with directories := ds } := by
  unfold makeDirectory at h
  dsimp only at h
  split at h
  · cases h
  · obtain ⟨p, -, h⟩ := bind_eq_ok_iff.mp h
    split at h
    · cases h
    · split at h
      · cases h
        exact ⟨t.directories, rfl⟩
      · obtain ⟨-, -, h⟩ := bind_eq_ok_iff.mp h
        cases h
        exact ⟨_, rfl⟩

/-- Making directories changes nothing else, also if a fault comes in between. -/
theorem makeUpwards_eq (t : Tree) (parts : List String) :
    ∃ ds, (t.makeUpwards refuses parts).1 = { t with directories := ds } := by
  induction parts generalizing t with
  | nil => exact ⟨t.directories, rfl⟩
  | cons name above ih =>
    obtain ⟨ds, hds⟩ := ih t
    unfold makeUpwards
    split
    · rename_i hmade
      exact makeDirectory_eq hmade
    · split
      · rename_i habove
        rw [habove] at hds
        exact ⟨ds, hds⟩
      · rename_i habove
        rw [habove] at hds
        split
        · rename_i hmade
          obtain ⟨ds', rfl⟩ := makeDirectory_eq hmade
          exact ⟨ds', congrArg (fun t : Tree => { t with directories := ds' }) hds⟩
        · exact ⟨ds, hds⟩
    · exact ⟨t.directories, rfl⟩

theorem makeDirectories_eq (t : Tree) (refuses : Refusals) (parts : List String) :
    ∃ ds, (t.makeDirectories refuses parts).1 = { t with directories := ds } := t.makeUpwards_eq parts.reverse

/-! ### Opening files -/

theorem lookup_append_singleton (fs : List (Path × String)) (q : Path) :
    (fs ++ [(p, "")]).lookup q = (fs.lookup q).or (if q = p then some "" else none) := by
  rw [List.lookup_append]
  congr 1
  by_cases h : q = p
  · rw [if_pos h, h]
    exact List.lookup_cons_self
  · have hne : (q == p) = false := beq_eq_false_iff_ne.mpr h
    rw [if_neg h, List.lookup_cons, hne]
    rfl

/-- A file that is opened stands where its parts lead. It is there afterwards, empty if it was not there
before, and no other file is changed. -/
theorem openFile_spec {parts : List String} (h : t.openFile refuses parts = .ok (t', p)) :
    p = destination t.home parts ∧ t'.home = t.home ∧
      ∀ q, t'.content? q = (t.content? q).or (if q = p then some "" else none) := by
  unfold openFile at h
  dsimp only at h
  split at h
  · cases h
  · split at h
    · cases h
    · obtain ⟨-, -, h⟩ := bind_eq_ok_iff.mp h
      split at h
      · cases h
      · obtain ⟨-, -, h⟩ := bind_eq_ok_iff.mp h
        cases h
        refine ⟨rfl, by split <;> rfl, fun q => ?_⟩
        split
        · rename_i hfile
          obtain ⟨c, hc⟩ := Option.isSome_iff_exists.mp hfile
          by_cases hq : q = destination t.home parts
          · rw [hq, hc, Option.some_or]
          · rw [if_neg hq, Option.or_none]
        · exact lookup_append_singleton t.files q

end Tree

/-! ## Setups -/

namespace Setup

/-- Where the file of a setup stands, if one is asked for and paths start at a home. -/
def location? (s : Setup) (home : Path) : Option Path :=
  if s.file.truthy then
    match s.directoryParts, s.fileParts with
    | .ok directory, .ok file => some (destination home (directory ++ file))
    | _, _ => none
  else none

/-- The handlers that a setup asks for: the one for the console comes first. -/
def handlers (s : Setup) (home : Path) (l : Level) : List Handler :=
  s.consoleHandlers l ++ (s.location? home).toList.map fun p => fileHandler p l

theorem target_of_mem_consoleHandlers {s : Setup} {l : Level} {h : Handler}
    (hh : h ∈ s.consoleHandlers l) : h.target = .console := by
  unfold consoleHandlers at hh
  split at hh
  · rw [List.mem_singleton.mp hh]
  · cases hh

theorem location_of_target {s : Setup} {home : Path} {l : Level} {h : Handler} {p : Path}
    (hh : h ∈ s.handlers home l) (hp : h.target = .file p) : s.location? home = some p := by
  rcases List.mem_append.mp hh with hh | hh
  · rw [target_of_mem_consoleHandlers hh] at hp
    cases hp
  · obtain ⟨q, hq, rfl⟩ := List.mem_map.mp hh
    cases hp
    exact Option.mem_toList.mp hq

end Setup

namespace Journal

variable {j j' : Journal} {refuses : Refusals} {s : Setup} {l : Level}

theorem addFile_of_ok (hfile : s.file.truthy = true) (h : j.addFile refuses s l = (j', .ok ())) :
    ∃ p, s.location? j.tree.home = some p ∧ j'.rootLevel = j.rootLevel ∧ j'.levels = j.levels ∧
      j'.decisions = j.decisions ∧ j'.tree.home = j.tree.home ∧
      j'.handlers = j.handlers ++ [Setup.fileHandler p l] ∧
      ∀ q, j'.tree.content? q = (j.tree.content? q).or (if q = p then some "" else none) := by
  unfold addFile at h
  split at h
  · cases h
  · rename_i directory hdirectory
    obtain ⟨ds, hds⟩ := j.tree.makeDirectories_eq refuses directory
    split at h
    · cases h
    · rename_i tree hmade
      rw [hmade] at hds
      dsimp only at h
      split at h
      · cases h
      · rename_i file hfileParts
        unfold openFile at h
        dsimp only at h
        split at h
        · cases h
        · rename_i tree' p hopened
          cases h
          obtain rfl : tree = { j.tree with directories := ds } := hds
          obtain ⟨hp, hhome, hcontent⟩ := Tree.openFile_spec hopened
          refine ⟨p, ?_, rfl, rfl, rfl, hhome, rfl, hcontent⟩
          rw [Setup.location?, if_pos hfile, hdirectory, hfileParts, hp]

/-- Whether a journal is another one after the level of the root logger was set. -/
structure Relevelled (j : Journal) (l : Level) (j' : Journal) : Prop where
  rootLevel : j'.rootLevel = l
  levels : j'.levels = j.levels
  decisions : j'.decisions = []
  home : j'.tree.home = j.tree.home

/-- A setup that comes through. -/
theorem setup_of_ok (h : j.setup refuses s = (j', .ok ())) :
    ∃ l, levelOf s.level = .ok l ∧ j.Relevelled l j' ∧ j'.handlers = s.handlers j.tree.home l ∧
      (s.location? j.tree.home).isSome = s.file.truthy ∧
      ∀ q, j'.tree.content? q =
        (j.tree.content? q).or (if s.location? j.tree.home = some q then some "" else none) := by
  unfold setup at h
  split at h
  · cases h
  · rename_i l hl
    refine ⟨l, hl, ?_⟩
    dsimp only at h
    split at h
    · rename_i hfile
      obtain ⟨p, hp, hroot, hlevels, hdecisions, hhome, hhandlers, hcontent⟩ := addFile_of_ok hfile h
      change s.location? j.tree.home = some p at hp
      refine ⟨⟨hroot, hlevels, hdecisions, hhome⟩, ?_, by rw [hp, hfile]; rfl, fun q => ?_⟩
      · rw [hhandlers, Setup.handlers, hp]
        rfl
      · rw [hcontent q, hp]
        simp only [Option.some.injEq, eq_comm]
    · rename_i hfile
      have hnone : s.location? j.tree.home = none := if_neg hfile
      cases h
      refine ⟨⟨rfl, rfl, rfl, rfl⟩, ?_, by rw [hnone, Bool.eq_false_iff.mpr hfile]; rfl, fun q => ?_⟩
      · rw [Setup.handlers, hnone]
        exact (List.append_nil _).symm
      · rw [hnone, if_neg (by simp), Option.or_none]

/-- A file that cannot be opened leaves no handler behind, only directories. -/
theorem addFile_of_fault {f : Fault} (h : j.addFile refuses s l = (j', .error f)) :
    ∃ ds, j' = { j with tree := { j.tree with directories := ds } } := by
  unfold addFile at h
  split at h
  · cases h
    exact ⟨j.tree.directories, rfl⟩
  · rename_i directory _
    obtain ⟨ds, hds⟩ := j.tree.makeDirectories_eq refuses directory
    split at h
    · rename_i hmade
      rw [hmade] at hds
      cases h
      exact ⟨ds, congrArg (fun t => { j with tree := t }) hds⟩
    · rename_i tree hmade
      rw [hmade] at hds
      obtain rfl : tree = { j.tree with directories := ds } := hds
      dsimp only at h
      split at h
      · cases h
        exact ⟨ds, rfl⟩
      · unfold openFile at h
        dsimp only at h
        split at h
        · cases h
          exact ⟨ds, rfl⟩
        · cases h

/-- A setup that fails comes to nothing, or fails over its file. -/
theorem setup_of_fault {f : Fault} (h : j.setup refuses s = (j', .error f)) :
    levelOf s.level = .error f ∧ j' = j ∨
      ∃ l, levelOf s.level = .ok l ∧ j.Relevelled l j' ∧ j'.handlers = s.consoleHandlers l ∧
        ∀ q, j'.tree.content? q = j.tree.content? q := by
  unfold setup at h
  split at h
  · rename_i f' hf
    cases h
    exact .inl ⟨hf, rfl⟩
  · rename_i l hl
    dsimp only at h
    split at h
    · obtain ⟨ds, rfl⟩ := addFile_of_fault h
      exact .inr ⟨l, hl, ⟨rfl, rfl, rfl, rfl⟩, rfl, fun _ => rfl⟩
    · cases h

/-- What a request for a setup can come to: it is refused, it fails over its file, or it comes through. -/
inductive SetupOutcome (j : Journal) (options : List (String × Value)) : Report → Prop
  | refused {f : Fault}
      (level : ∀ s, Setup.ofOptions options = .ok s → ∃ f, levelOf s.level = .error f) :
      SetupOutcome j options (j.failed f)
  | broken {s : Setup} {l : Level} {f : Fault} {j' : Journal}
      (chosen : Setup.ofOptions options = .ok s) (level : levelOf s.level = .ok l)
      (relevelled : j.Relevelled l j') (handlers : j'.handlers = s.consoleHandlers l)
      (content : ∀ q, j'.tree.content? q = j.tree.content? q) :
      SetupOutcome j options (j'.failed f)
  | complete {s : Setup} {l : Level} {j' : Journal}
      (chosen : Setup.ofOptions options = .ok s) (level : levelOf s.level = .ok l)
      (relevelled : j.Relevelled l j') (handlers : j'.handlers = s.handlers j.tree.home l)
      (location : (s.location? j.tree.home).isSome = s.file.truthy)
      (content : ∀ q, j'.tree.content? q =
        (j.tree.content? q).or (if s.location? j.tree.home = some q then some "" else none)) :
      SetupOutcome j options ⟨j', .ok none, ""⟩

theorem setupWith_outcome (j : Journal) (refuses : Refusals) (options : List (String × Value)) :
    j.SetupOutcome options (j.setupWith refuses options) := by
  unfold setupWith
  cases ho : Setup.ofOptions options with
  | error f => exact .refused fun s hs => by rw [ho] at hs; cases hs
  | ok s =>
    dsimp only
    obtain ⟨j', answer, hj⟩ : ∃ j' answer, j.setup refuses s = (j', answer) := ⟨_, _, rfl⟩
    rw [hj]
    cases answer with
    | ok _ =>
      obtain ⟨l, hl, hrelevelled, hhandlers, hlocation, hcontent⟩ := setup_of_ok hj
      exact .complete ho hl hrelevelled hhandlers hlocation hcontent
    | error f =>
      obtain ⟨hl, rfl⟩ | ⟨l, hl, hrelevelled, hhandlers, hcontent⟩ := setup_of_fault hj
      · refine .refused fun s' hs' => ?_
        rw [ho] at hs'
        cases hs'
        exact ⟨f, hl⟩
      · exact .broken ho hl hrelevelled hhandlers hcontent

/-! ## Records on their way -/

namespace Delivery

variable (d : Delivery) (h : Handler)

/-- A handler writes a record as its formatter does, or passes it over. The record is what the formatter leaves. -/
theorem through_eq : d.through h =
    if h.level.rank ≤ d.level.rank then
      let d' := { d with record := (h.formatter.format d.record).1 }
      match (h.formatter.format d.record).2 with
      | .ok line => d'.write h.target line
      | .error _ => d'
    else d := by
  unfold Delivery.through
  split
  · split <;> rename_i hformat <;> simp only [hformat]
  · rfl

theorem through_home : (d.through h).tree.home = d.tree.home := by
  rw [through_eq]
  split
  · dsimp only
    split
    · cases h.target <;> rfl
    · rfl
  · rfl

theorem through_extends : d.tree.Extends (d.through h).tree := by
  rw [through_eq]
  split
  · split
    · cases h.target with
      | console => exact .refl _
      | file p => exact Tree.append_extends d.tree p _
    · exact .refl _
  · exact .refl _

theorem through_untouched {q : Path} (hq : h.target ≠ .file q) :
    (d.through h).tree.content? q = d.tree.content? q := by
  rw [through_eq]
  split
  · split
    · cases ht : h.target with
      | console => rfl
      | file p =>
        have hne : q ≠ p := by
          rintro rfl
          exact hq ht
        show (d.tree.append p _).content? q = d.tree.content? q
        rw [Tree.content_append]
        simp only [if_neg hne, Option.map_id']
    · rfl
  · rfl

end Delivery

theorem foldl_through_home (hs : List Handler) (d : Delivery) :
    (hs.foldl Delivery.through d).tree.home = d.tree.home := by
  induction hs generalizing d with
  | nil => rfl
  | cons h hs ih => exact (ih _).trans (d.through_home h)

theorem foldl_through_extends (hs : List Handler) (d : Delivery) :
    d.tree.Extends (hs.foldl Delivery.through d).tree := by
  induction hs generalizing d with
  | nil => exact .refl _
  | cons h hs ih => exact (d.through_extends h).trans (ih _)

theorem foldl_through_untouched {q : Path} {hs : List Handler} (hq : ∀ h ∈ hs, h.target ≠ .file q)
    (d : Delivery) : (hs.foldl Delivery.through d).tree.content? q = d.tree.content? q := by
  induction hs generalizing d with
  | nil => rfl
  | cons h hs ih =>
    obtain ⟨hh, hrest⟩ := List.forall_mem_cons.mp hq
    exact (ih hrest _).trans (d.through_untouched h hh)

/-! ## Requests -/

/-- The files in which no handler writes. -/
def Spares (j : Journal) (q : Path) : Prop := ∀ h ∈ j.handlers, h.target ≠ .file q

/-- What leaves the handlers as they are, makes files grow, and only those in which a handler writes. -/
structure Kept (j j' : Journal) : Prop where
  home : j'.tree.home = j.tree.home
  handlers : j'.handlers = j.handlers
  extends_tree : j.tree.Extends j'.tree
  spared : ∀ q, j.Spares q → j'.tree.content? q = j.tree.content? q

theorem Kept.of_eq {j j' : Journal} (hhandlers : j'.handlers = j.handlers) (htree : j'.tree = j.tree) :
    j.Kept j' :=
  ⟨congrArg Tree.home htree, hhandlers, htree ▸ .refl _, fun _ _ => by rw [htree]⟩

theorem Kept.trans {j j' j'' : Journal} (h : j.Kept j') (h' : j'.Kept j'') : j.Kept j'' where
  home := h'.home.trans h.home
  handlers := h'.handlers.trans h.handlers
  extends_tree := h.extends_tree.trans h'.extends_tree
  spared q hq := by
    have hq' : j'.Spares q := fun e he => hq e (h.handlers ▸ he)
    exact (h'.spared q hq').trans (h.spared q hq)

@[simp] theorem note_handlers (j : Journal) (name : String) : (j.note name).handlers = j.handlers := by
  unfold note
  split <;> rfl

@[simp] theorem note_tree (j : Journal) (name : String) : (j.note name).tree = j.tree := by
  unfold note
  split <;> rfl

theorem note_kept (j : Journal) (name : String) : j.Kept (j.note name) :=
  .of_eq (j.note_handlers name) (j.note_tree name)

theorem logger_kept (j : Journal) (name : String) (level : Value) : j.Kept (j.logger name level).1 := by
  have hnote := j.note_kept name
  unfold logger
  dsimp only
  split
  · split
    · exact hnote
    · unfold setLevel
      split <;> exact ⟨hnote.home, hnote.handlers, hnote.extends_tree, hnote.spared⟩
  · exact hnote

theorem deliver_kept (j : Journal) (l : Level) (record : Record) : j.Kept (j.deliver l record).1 where
  home := foldl_through_home j.handlers ⟨l, record, j.tree, ""⟩
  handlers := rfl
  extends_tree := foldl_through_extends j.handlers ⟨l, record, j.tree, ""⟩
  spared _ hq := foldl_through_untouched hq ⟨l, record, j.tree, ""⟩

theorem takes_decided (j : Journal) (name : String) (l : Level) :
    (j.decided name l).takes name l = j.takes name l := by
  have hlookup : (j.decided name l).decisions.lookup ((j.view name).name, l) = some (j.takes name l) :=
    List.lookup_cons_self
  have hview : (j.decided name l).view name = j.view name := rfl
  rw [takes, hview, hlookup, Option.getD_some]

/-- A message is decided about, and delivered if its logger takes it. -/
theorem log_eq (j : Journal) (name : String) {level : Value} (h : messageLevel? level = some l)
    (message : Value) (values : List Value) (created : Int) :
    j.log name level message values created =
      if j.takes name l then
        match Record.make (.text (j.view name).name) level message values created with
        | .error f => (j.decided name l, .error f)
        | .ok record =>
          (((j.decided name l).deliver l record).1, .ok ((j.decided name l).deliver l record).2)
      else (j.decided name l, .ok "") := by
  have htakes : (j.decided name l).takes name l = true ↔ j.takes name l = true := by rw [takes_decided]
  unfold log
  rw [h]
  exact if_congr htakes rfl rfl

theorem log_of_no_level {level : Value} (h : messageLevel? level = none) (name : String)
    (message : Value) (values : List Value) (created : Int) :
    j.log name level message values created = (j, .ok "") := by
  unfold log
  rw [h]

theorem log_kept (j : Journal) (name : String) (level message : Value) (values : List Value)
    (created : Int) : j.Kept (j.log name level message values created).1 := by
  cases hl : messageLevel? level with
  | none =>
    rw [log_of_no_level hl]
    exact .of_eq rfl rfl
  | some l =>
    rw [log_eq j name hl]
    split
    · split
      · exact .of_eq rfl rfl
      · rename_i record _
        have h := (j.decided name l).deliver_kept l record
        exact ⟨h.home, h.handlers, h.extends_tree, h.spared⟩
    · exact .of_eq rfl rfl

@[simp] theorem done_journal (j : Journal) (console : Except Fault String) :
    (j.done console).journal = j := by
  cases console <;> rfl

end Journal

namespace Request

/-- Whether a request asks for a setup. -/
def isSetup : Request → Bool
  | .setup .. => true
  | _ => false

/-- The requests for a setup whose file stands at a path, if paths start at a home. -/
def Configures (r : Request) (home q : Path) : Prop :=
  match r with
  | .setup _ options => ∃ s, Setup.ofOptions options = .ok s ∧ s.location? home = some q
  | _ => False

end Request

namespace Journal

theorem step_kept (j : Journal) {r : Request} (hr : r.isSetup = false) : j.Kept (j.step r).journal := by
  cases r with
  | setup refuses options => cases hr
  | logger name args =>
    show j.Kept (j.loggerWith name args).journal
    unfold loggerWith
    split
    · exact .of_eq rfl rfl
    · exact .of_eq rfl rfl
    · exact j.logger_kept _ _
  | log created name level message values =>
    unfold step
    dsimp only
    split
    · exact .of_eq rfl rfl
    · rename_i name' _
      have hnote := j.note_kept name'
      unfold Journal.message
      cases values with
      | error f => exact hnote
      | ok values =>
        rw [done_journal]
        exact hnote.trans (log_kept ..)

/-- A request is for a setup, or keeps the journal. -/
theorem setup_or_kept (j : Journal) (r : Request) :
    (∃ refuses options, r = .setup refuses options) ∨ j.Kept (j.step r).journal := by
  cases r with
  | setup refuses options => exact .inl ⟨refuses, options, rfl⟩
  | logger | log => exact .inr (j.step_kept rfl)

theorem setupWith_home (j : Journal) (refuses : Refusals) (options : List (String × Value)) :
    (j.setupWith refuses options).journal.tree.home = j.tree.home := by
  have houtcome := j.setupWith_outcome refuses options
  generalize j.setupWith refuses options = report at houtcome ⊢
  cases houtcome with
  | refused => rfl
  | broken _ _ hrelevelled | complete _ _ hrelevelled => exact hrelevelled.home

/-- A setup makes files, if any; no handler writes in a file that it does not open. -/
theorem setupWith_content (j : Journal) (refuses : Refusals) (options : List (String × Value)) :
    (∀ q c, j.tree.content? q = some c → (j.setupWith refuses options).journal.tree.content? q = some c) ∧
      ∀ q, j.Spares q →
        ¬((Request.setup refuses options).Configures j.tree.home q ∧
          (j.setupWith refuses options).answer.isOk = true) →
        (j.setupWith refuses options).journal.tree.content? q = j.tree.content? q ∧
          (j.setupWith refuses options).journal.Spares q := by
  have houtcome := j.setupWith_outcome refuses options
  generalize j.setupWith refuses options = report at houtcome ⊢
  cases houtcome with
  | refused => exact ⟨fun _ _ hc => hc, fun q hq _ => ⟨rfl, hq⟩⟩
  | broken _ _ _ hhandlers hcontent =>
    refine ⟨fun q c hc => (hcontent q).trans hc, fun q _ _ => ⟨hcontent q, fun h hh ht => ?_⟩⟩
    have hh : h ∈ _ := hhandlers ▸ hh
    rw [Setup.target_of_mem_consoleHandlers hh] at ht
    cases ht
  | @complete s l j' ho _ _ hhandlers _ hcontent =>
    refine ⟨fun q c hc => ?_, fun q _ hopens => ?_⟩
    · rw [hcontent, hc, Option.some_or]
    · have hnone : s.location? j.tree.home ≠ some q := fun hl => hopens ⟨⟨s, ho, hl⟩, rfl⟩
      refine ⟨?_, fun h hh ht => hnone (Setup.location_of_target (hhandlers ▸ hh) ht)⟩
      rw [hcontent, if_neg hnone, Option.or_none]

/-- **One request** only makes files grow. -/
theorem step_extends (j : Journal) (r : Request) : j.tree.Extends (j.step r).journal.tree := by
  obtain ⟨refuses, options, rfl⟩ | hkept := j.setup_or_kept r
  · exact .of_content (j.setupWith_content refuses options).1
  · exact hkept.extends_tree

/-- **One request** does not move the home. -/
theorem step_home (j : Journal) (r : Request) : (j.step r).journal.tree.home = j.tree.home := by
  obtain ⟨refuses, options, rfl⟩ | hkept := j.setup_or_kept r
  · exact j.setupWith_home refuses options
  · exact hkept.home

/-- **One request** changes no file that handlers spare, and handlers spare it afterwards, unless a setup
opens it. -/
theorem step_untouched {j : Journal} {r : Request} {q : Path} (hq : j.Spares q)
    (hr : ¬(r.Configures j.tree.home q ∧ (j.step r).answer.isOk = true)) :
    (j.step r).journal.tree.content? q = j.tree.content? q ∧ (j.step r).journal.Spares q := by
  obtain ⟨refuses, options, rfl⟩ | hkept := j.setup_or_kept r
  · exact (j.setupWith_content refuses options).2 q hq hr
  · exact ⟨hkept.spared q hq, fun e he => hq e (hkept.handlers ▸ he)⟩

/-! ## Runs -/

/-- **A run** only makes files grow. -/
theorem after_extends (j : Journal) (rs : List Request) : j.tree.Extends (j.after rs).tree := by
  induction rs generalizing j with
  | nil => exact .refl _
  | cons r rs ih => exact (j.step_extends r).trans (ih _)

/-- Whether one of some requests is for a setup that comes through, and whose file stands at a path. -/
def Opens (j : Journal) (q : Path) : List Request → Prop
  | [] => False
  | r :: rs =>
    r.Configures j.tree.home q ∧ (j.step r).answer.isOk = true ∨ Opens (j.step r).journal q rs

theorem after_home (j : Journal) (rs : List Request) : (j.after rs).tree.home = j.tree.home := by
  induction rs generalizing j with
  | nil => rfl
  | cons r rs ih => exact (ih _).trans (j.step_home r)

/-- **A run** changes no file that handlers spare at its start, up to a setup that opens it. -/
theorem after_untouched {j : Journal} {rs : List Request} {q : Path} (hq : j.Spares q) (hrs : ¬j.Opens q rs) :
    (j.after rs).tree.content? q = j.tree.content? q := by
  induction rs generalizing j with
  | nil => rfl
  | cons r rs ih =>
    obtain ⟨hr, hrest⟩ := not_or.mp hrs
    obtain ⟨hcontent, hspares⟩ := step_untouched hq hr
    exact (ih hspares hrest).trans hcontent

theorem after_kept (j : Journal) {rs : List Request} (hrs : ∀ r ∈ rs, r.isSetup = false) :
    j.Kept (j.after rs) := by
  induction rs generalizing j with
  | nil => exact .of_eq rfl rfl
  | cons r rs ih =>
    obtain ⟨hr, hrest⟩ := List.forall_mem_cons.mp hrs
    exact (j.step_kept hr).trans (ih _ hrest)

end Journal

end SqlDraft
