import SqlDraft.Journal.Formatter
import SqlDraft.Journal.Tree
import SqlDraft.Text.Upper

/-!
# Setups of the journal

A setup tells the level from which messages are written, and where they are written to.

* `Handler`: what writes messages of a level and above, to the console or to a file.
* `levelOf`: the level that a name stands for, in letters of either case.
* `Setup`, `Setup.usual`, `Setup.ofOptions`: a setup, the one without options, and the one some options
  ask for.
* `Setup.directoryParts`, `fileParts`: where the file stands.
* `Setup.consoleHandlers`, `fileHandler`: the handlers.
-/

namespace SqlDraft

/-! ## Handlers -/

/-- Where a handler writes. -/
inductive Target
  | console
  | file (p : Path)
  deriving DecidableEq

/-- What writes records of a level and above. -/
structure Handler where
  target : Target
  level : Level
  formatter : Formatter

/-! ## Levels by name -/

/-- A name that stands for a template and not for a level. -/
def templateName : String := "BASIC_FORMAT"

/-- The template it stands for. -/
def basicTemplate : String := "%(levelname)s:%(name)s:%(message)s"

/-- A name that stands for the ways to write templates and not for a level. -/
def stylesName : String := "_STYLES"

/-- The ways to write templates, each with the template it starts from. -/
def templateStyles : List (String × String × String) :=
  [("%", "PercentStyle", basicTemplate),
    ("\x7b", "StrFormatStyle", "\x7blevelname\x7d:\x7bname\x7d:\x7bmessage\x7d"),
    ("$", "StringTemplateStyle", "$\x7blevelname\x7d:$\x7bname\x7d:$\x7bmessage\x7d")]

/-- The ways to write templates in quoted form. -/
def quotedStyles : String :=
  "\x7b" ++ ", ".intercalate (templateStyles.map fun e =>
    quotedText e.1 ++ ": (<class 'logging." ++ e.2.1 ++ "'>, " ++ quotedText e.2.2 ++ ")") ++ "\x7d"

/-- The level that a name stands for. -/
def levelOf : Value → Except Fault Level
  | .text s =>
    let name := upperText s
    match Level.ofName? name with
    | some l => .ok l
    | none =>
      if name = templateName then .error (.notLevel (quotedText basicTemplate))
      else if name = stylesName then .error (.neverLevel quotedStyles)
      else .error (.unknownLevelName name)
  | v => .error (.noMember v.kind "upper")

/-! ## Setups -/

/-- How the journal is to be set up. -/
structure Setup where
  /-- The name of the level. -/
  level : Value
  /-- The name of the file; one that does not count as present stands for no file. -/
  file : Value
  /-- The directory of the file; one that does not count as present stands for the usual one. -/
  directory : Value
  console : Bool
  colours : Bool

/-- The directory of a file if none is given. -/
def usualDirectory : String := "logs"

/-- The template of a line. -/
def lineTemplate : String := "%(asctime)s - %(name)s - %(levelname)s - %(message)s"

namespace Setup

/-- Messages in colour to the console alone, from the level of information on. -/
def usual : Setup := ⟨.text "INFO", .null, .null, true, true⟩

/-- Replaces the choice of an option. -/
def choose (s : Setup) (option : String) (v : Value) : Except Fault Setup :=
  match option with
  | "log_level" => .ok { s with level := v }
  | "log_file" => .ok { s with file := v }
  | "log_dir" => .ok { s with directory := v }
  | "console_output" => .ok { s with console := v.truthy }
  | "use_colors" => .ok { s with colours := v.truthy }
  | _ => .error (.unknownOption "setup_logging" option)

/-- The setup that some options ask for. -/
def ofOptions (options : List (String × Value)) : Except Fault Setup :=
  options.foldlM (fun s o => s.choose o.1 o.2) usual

/-- The parts of the directory. -/
def directoryParts (s : Setup) : Except Fault (List String) :=
  match s.directory.orElse (.text usualDirectory) with
  | .text d => .ok (partsOf d)
  | v => .error (.notPath v.kind)

/-- The parts of the file in its directory. -/
def fileParts (s : Setup) : Except Fault (List String) :=
  match s.file with
  | .text f => .ok (partsOf f)
  | v => .error (.notPathPart v.kind)

/-- The handlers for the console. -/
def consoleHandlers (s : Setup) (l : Level) : List Handler :=
  if s.console then [⟨.console, l, ⟨lineTemplate, s.colours⟩⟩] else []

/-- The handler for a file. -/
def fileHandler (p : Path) (l : Level) : Handler := ⟨.file p, l, ⟨lineTemplate, false⟩⟩

end Setup

end SqlDraft
