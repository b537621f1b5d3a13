import SqlDraft.Journal.Setup
import SqlDraft.Proofs.Outcome

/-!
# Lines

A handler writes a record as one line: its time, its logger, its level and its message.

* `Line`, `Line.text`: what a line is made of, and the line.
* `Record.Shows`: the records that say what a line is made of.
* `Directive.fill_shown`, `fill_lineTemplate`: what the template of a line is filled with.
* `Record.Shows.format_eq`: a record is written as its line.
-/

namespace SqlDraft

/-- What a line is made of. -/
structure Line where
  time : String
  logger : String
  level : String
  message : String

/-- The name of a level in its colour, if it has one. -/
def colouredLevel (level : String) : String :=
  match colourOf? level with
  | some colour => inColour colour level
  | none => level

namespace Line

/-- A line, with its level in colour or without. -/
def text (x : Line) (colours : Bool) : String :=
  x.time ++ " - " ++ x.logger ++ " - " ++ (if colours then colouredLevel x.level else x.level) ++ " - " ++
    x.message

end Line

/-- A record that tells of nothing below its line. -/
structure Record.Bare (r : Record) : Prop where
  exception : r.exception.truthy = false
  exceptionText : r.exceptionText.truthy = false
  stack : r.stack.truthy = false

/-- The records that say what a line is made of, and nothing below it. -/
structure Record.Shows (r : Record) (x : Line) : Prop where
  bare : r.Bare
  time : r.time = .ok x.time
  logger : r.logger = .text x.logger
  level : r.levelName = .text x.level
  message : r.text = .ok x.message

/-! ## The template of a line -/

/-- A directive for the text of an entry. -/
def Directive.shown (key : String) : Directive :=
  ⟨.named key, ⟨false, false, false, false, false⟩, .absent, .absent, some 's'⟩

theorem Directive.fill_shown {d v : Value} {key s : String} (hentry : d.entry key = .ok v)
    (hshown : v.shown = .ok s) (position : Nat) (next : Option Value) :
    (Directive.shown key).fill position (.dictionary d next) = .ok (s.toList, .dictionary d none) := by
  have hname : Supply.name (.dictionary d next) (.named key) = .ok (.dictionary d (some v)) := by
    rw [Supply.name, hentry]
    rfl
  have hwrite : Conversion.shown.write 's' ⟨⟨false, false, false, false, false⟩, 0, none⟩ v =
      .ok s.toList := by
    rw [Conversion.write, Conversion.field, hshown]
    exact congrArg Except.ok (FieldText.laid_of_le (Nat.zero_le _) false)
  unfold Directive.fill Directive.shown
  dsimp only
  rw [hname]
  simp only [widthOf, precisionOf, Supply.take, Conversion.ofChar?, ok_bind, Bool.or_false, hwrite]
  rfl

theorem fillPieces_cons {p : Piece} {ps : List Piece} {s s' : Supply} {cs ds : List Char}
    (hp : p.fill s = .ok (cs, s')) (hps : fillPieces ps s' = .ok ds) :
    fillPieces (p :: ps) s = .ok (cs ++ ds) := by
  rw [fillPieces, hp, ok_bind]
  dsimp only
  rw [hps]
  rfl

theorem pieces_lineTemplate : pieces lineTemplate =
    [.directive (.shown "asctime") 10, .char ' ', .char '-', .char ' ',
      .directive (.shown "name") 21, .char ' ', .char '-', .char ' ',
      .directive (.shown "levelname") 37, .char ' ', .char '-', .char ' ',
      .directive (.shown "message") 51] := by
  decide +kernel

/-- What the template of a line is filled with. -/
theorem fill_lineTemplate {d : Value} {x : Line} {level : String}
    (htime : d.entry "asctime" = .ok (.text x.time)) (hlogger : d.entry "name" = .ok (.text x.logger))
    (hlevel : d.entry "levelname" = .ok (.text level))
    (hmessage : d.entry "message" = .ok (.text x.message)) :
    fill lineTemplate (.ofDictionary d) =
      .ok (x.time ++ " - " ++ x.logger ++ " - " ++ level ++ " - " ++ x.message) := by
  have hchar (c : Char) {ps : List Piece} {s : Supply} {cs : List Char} (h : fillPieces ps s = .ok cs) :
      fillPieces (.char c :: ps) s = .ok (c :: cs) :=
    fillPieces_cons (show Piece.fill (.char c) s = .ok ([c], s) from rfl) h
  have hseparator {ps : List Piece} {s : Supply} {cs : List Char} (h : fillPieces ps s = .ok cs) :
      fillPieces (.char ' ' :: .char '-' :: .char ' ' :: ps) s = .ok (' ' :: '-' :: ' ' :: cs) :=
    hchar ' ' (hchar '-' (hchar ' ' h))
  have hfield {key s : String} (h : d.entry key = .ok (.text s)) (position : Nat) (next : Option Value) :
      Piece.fill (.directive (.shown key) position) (.dictionary d next) =
        .ok (s.toList, .dictionary d none) := Directive.fill_shown h rfl position next
  have hend : fillPieces [] (.dictionary d none) = .ok [] := rfl
  have hall := fillPieces_cons (hfield htime 10 (some d)) (hseparator (fillPieces_cons
    (hfield hlogger 21 none) (hseparator (fillPieces_cons (hfield hlevel 37 none) (hseparator
      (fillPieces_cons (hfield hmessage 51 none) hend))))))
  rw [fill, pieces_lineTemplate, Supply.ofDictionary, hall, map_ok]
  refine congrArg Except.ok (String.toList_injective ?_)
  simp

/-! ## Records -/

namespace Record

theorem bare_of_make {logger level message : Value} {values : List Value} {created : Int} {r : Record}
    (h : make logger level message values created = .ok r) : r.Bare := by
  obtain ⟨label, -, h⟩ := bind_eq_ok_iff.mp h
  cases h
  exact ⟨rfl, rfl, rfl⟩

/-- The fields that a record is given when it is written are not among the others. -/
theorem lookup_fields_eq_none (r : Record) {name : String} (h : name = "message" ∨ name = "asctime") :
    r.fields.lookup name = none := by
  have hknown : name ∈ fieldNames := by
    rcases h with rfl | rfl <;> decide
  have hfurther : r.further.lookup name = none := by
    refine List.lookup_eq_none_iff.mpr fun f hf => bne_iff_ne.mpr ?_
    rintro rfl
    exact r.further_fields.fresh _ (List.mem_map_of_mem hf) hknown
  rw [fields, List.lookup_append, hfurther]
  rcases h with rfl | rfl <;> rfl

theorem entry_message (r : Record) (text : String) (time : Option String) :
    (Value.dict (r.entries text time)).entry "message" = .ok (.text text) := by
  rw [entries, Value.entry_named, List.lookup_append, r.lookup_fields_eq_none (.inl rfl)]
  rfl

theorem entry_asctime (r : Record) (text time : String) :
    (Value.dict (r.entries text (some time))).entry "asctime" = .ok (.text time) := by
  rw [entries, Value.entry_named, List.lookup_append, r.lookup_fields_eq_none (.inr rfl)]
  rfl

theorem Bare.isNoted {r : Record} (h : r.Bare) : r.isNoted = true := by
  rw [Record.isNoted, h.exception]
  rfl

end Record

theorem below_of_absent {v : Value} (h : v.truthy = false) (s : String) : below s v = .ok s :=
  if_neg (Bool.eq_false_iff.mp h)

/-- A record that tells of nothing else is written as its line. -/
theorem Formatter.write_of_bare {r : Record} (h : r.Bare) (f : Formatter) : f.write r = f.line r := by
  have hnote : r.note = .ok r.exceptionText := if_pos h.isNoted
  rw [write, hnote]
  cases f.line r with
  | error fault => rfl
  | ok s =>
    rw [ok_bind, ok_bind, below_of_absent h.exceptionText, ok_bind, below_of_absent h.stack]

namespace Record.Shows

variable {r : Record} {x : Line}

/-- A record is written by the template of a line. -/
theorem write_eq (h : r.Shows x) {level : String} (hlevel : r.levelName = .text level) (colours : Bool) :
    (⟨lineTemplate, colours⟩ : Formatter).write r =
      .ok (x.time ++ " - " ++ x.logger ++ " - " ++ level ++ " - " ++ x.message) := by
  have htime : Formatter.time? ⟨lineTemplate, colours⟩ r = .ok (some x.time) := by
    have hnames : namesTime lineTemplate.toList = true := by decide +kernel
    rw [Formatter.time?, if_pos hnames, h.time]
    rfl
  have hfill : fill lineTemplate (.ofDictionary (.dict (r.entries x.message (some x.time)))) =
      .ok (x.time ++ " - " ++ x.logger ++ " - " ++ level ++ " - " ++ x.message) := by
    refine fill_lineTemplate ?_ ?_ ?_ ?_
    · exact entry_asctime r x.message x.time
    · exact congrArg Except.ok h.logger
    · exact congrArg Except.ok hlevel
    · exact entry_message r x.message (some x.time)
  rw [Formatter.write_of_bare h.bare, Formatter.line, h.message, ok_bind, htime, ok_bind]
  simp only [hfill]

/-- A record is written as its line. -/
theorem format_eq (h : r.Shows x) (colours : Bool) :
    ((⟨lineTemplate, colours⟩ : Formatter).format r).2 = .ok (x.text colours) := by
  have hname : Formatter.colouredName ⟨lineTemplate, colours⟩ r.levelName =
      .ok (if colours then (colourOf? x.level).map fun c => .text (inColour c x.level) else none) := by
    unfold Formatter.colouredName
    cases colours with
    | false => rfl
    | true =>
      rw [h.level]
      rfl
  unfold Formatter.format
  rw [hname]
  cases colours with
  | false => exact h.write_eq h.level false
  | true =>
    rw [if_pos rfl, Line.text, if_pos rfl, colouredLevel]
    cases colourOf? x.level with
    | none => exact h.write_eq h.level true
    | some colour =>
      have hcoloured : ({ r with levelName := .text (inColour colour x.level) } : Record).Shows
          { x with level := inColour colour x.level } := ⟨⟨h.bare.exception, h.bare.exceptionText, h.bare.stack⟩,
          h.time, h.logger, rfl, h.message⟩
      exact hcoloured.write_eq rfl true

end Record.Shows

end SqlDraft
