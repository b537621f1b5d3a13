import SqlDraft.Text.Quoted
import SqlDraft.Fault

/-!
# Directory trees

Directories and files, one directory of which is the home: paths start there unless they say that they start at the
top. There are no links, so ways back can be taken out of a path before it is followed.

* `Path`, `partsOf`, `destination`: places, the parts of a path as it is written, and where they lead.
* `absolute`: the parts of a path from the top on, without ways back.
* `Refusals`: what the system denies for reasons of its own.
* `Tree`: the directories and the contents of the files.
* `Tree.inside`: the files below the home.
* `Tree.walk`: where parts lead, if they lead through directories.
* `Tree.makeDirectory`, `makeDirectories`: makes a directory, alone or with those above it. The directories
  that were made before a fault stay.
* `Tree.openFile`, `append`: a file that text can be added to, and where it stands. A device that swallows what is
  written stays empty.
-/

namespace SqlDraft

/-- The names from the top of all directories on. -/
abbrev Path := List String

/-- The texts between the slashes of a text. -/
def betweenSlashes : List Char → List (List Char)
  | [] => [[]]
  | c :: cs =>
    if c = '/' then [] :: betweenSlashes cs
    else
      match betweenSlashes cs with
      | [] => [[c]]
      | part :: parts => (c :: part) :: parts

/-- The part that leads to the top of all directories. -/
def topPart : String := "/"

/-- The same part, as it is spelled in a path that starts with exactly two slashes. -/
def doubleTopPart : String := "//"

/-- Whether a part leads to the top. -/
def isTopPart (part : String) : Bool := part == topPart || part == doubleTopPart

/-- The part that leads back. -/
def backPart : String := ".."

/-- The part for the slashes at the start of a path. More than two are as good as one. -/
def startOf (s : List Char) : List String :=
  match (s.takeWhile (· == '/')).length with
  | 0 => []
  | 2 => [doubleTopPart]
  | _ => [topPart]

/-- The parts of a path as it is written. Empty parts and single points say nothing, but for the slashes
at the start. -/
def partsOf (s : String) : List String :=
  startOf s.toList ++
    ((betweenSlashes s.toList).filter fun part => part != [] && part != ['.']).map String.ofList

/-- One part further. Nothing lies above the top, which is one place however it is spelled. -/
def stepInto (here : Path) (part : String) : Path :=
  if isTopPart part then []
  else if part = backPart then here.dropLast
  else here ++ [part]

/-- Where parts lead from a place on. -/
def destination (here : Path) (parts : List String) : Path := parts.foldl stepInto here

/-- The parts of a path from the top on, without ways back. Only what follows the last part that leads to the top
counts, and that part keeps its spelling. -/
def absolute (home : Path) (parts : List String) : List String :=
  (parts.reverse.find? isTopPart).getD topPart :: destination home parts

/-- The text of a path. -/
def pathText (parts : List String) : String :=
  match parts with
  | [] => ""
  | part :: rest =>
    if isTopPart part then part ++ "/".intercalate rest else "/".intercalate parts

/-- A path in quoted form. -/
def quotedPath (parts : List String) : String := quotedText (pathText parts)

/-- The number of bytes of the longest name. -/
def nameLimit : Nat := 255

/-- The number of bytes of the longest path. -/
def pathLimit : Nat := 4095

/-- Whether a name can stand in a directory. -/
def fitsName (part : String) : Bool := part.utf8ByteSize ≤ nameLimit

/-- What is wrong with the text of a path, whatever it leads to. -/
def pathFault (parts : List String) : Option Fault :=
  if holdsNull (pathText parts) then some .nullCharacter
  else if pathLimit < (pathText parts).utf8ByteSize then some (.nameTooLong (quotedPath parts))
  else none

/-! ## Refusals -/

/-- What the system can be asked for at a path. -/
inductive Access
  /-- To look up a name in a directory. -/
  | search
  /-- To make a directory. -/
  | make
  /-- To make a file or to add to one. -/
  | write

/-- A reason of the system to deny access that does not show in a tree, such as a want of rights or of space. -/
structure Refusal where
  number : Nat
  reason : String
  /-- This number says that nothing is there, which is no reason of its own. -/
  number_ne : number ≠ 2

/-- What the system denies, and why. -/
abbrev Refusals := Access → Path → Option Refusal

namespace Refusals

/-- Nothing is denied. -/
def none : Refusals := fun _ _ => .none

/-- Checks that access to a place is not denied. `whole` is the path in quoted form, for the fault. -/
def check (refuses : Refusals) (a : Access) (p : Path) (whole : String) : Except Fault Unit :=
  match refuses a p with
  | some r => .error (.denied r.number r.reason whole)
  | .none => .ok ()

/-- Checks that a part can be looked up in a directory. The top is found without a look. -/
def checkPart (refuses : Refusals) (here : Path) (part whole : String) : Except Fault Unit :=
  if isTopPart part then .ok () else refuses.check .search here whole

end Refusals

/-! ## Trees -/

/-- Directories, and files with their contents. -/
structure Tree where
  /-- Where paths start. -/
  home : Path
  directories : List Path
  files : List (Path × String)

namespace Tree

/-- The path of the device that swallows what is written. -/
def nullDevice : Path := ["dev", "null"]

/-- The tree before anything is made: besides the home there is the device that swallows what is written. -/
def initial (home : Path) : Tree := ⟨home, [nullDevice.dropLast], [(nullDevice, "")]⟩

/-- The content of a file. -/
def content? (t : Tree) (p : Path) : Option String := t.files.lookup p

/-- Whether a path leads to a file. -/
def isFile (t : Tree) (p : Path) : Bool := (t.content? p).isSome

/-- Whether a path leads to a directory. The home stands in directories. -/
def isDirectory (t : Tree) (p : Path) : Bool := p.isPrefixOf t.home || t.directories.contains p

/-- The files below the home, by their names from there on. -/
def inside (t : Tree) : List (Path × String) :=
  t.files.filterMap fun f => if t.home.isPrefixOf f.1 then some (f.1.drop t.home.length, f.2) else none

/-! ### Ways -/

variable (refuses : Refusals)

/-- Where parts lead from a place on, if they lead through directories. `whole` is the path in quoted form, for the
fault. -/
def walk (t : Tree) (whole : String) : Path → List String → Except Fault Path
  | here, [] => .ok here
  | here, part :: rest => do
    refuses.checkPart here part whole
    let next := stepInto here part
    if !fitsName part then .error (.nameTooLong whole)
    else if t.isDirectory next then walk t whole next rest
    else if t.isFile next then .error (.throughFile whole)
    else .error (.noSuchPath whole)

/-- Where the last name of a path stands, if the parts before it lead through directories. -/
def place (t : Tree) (whole : String) (here : Path) (parts : List String) (name : String) :
    Except Fault Path := do
  let here ← t.walk refuses whole here parts
  refuses.checkPart here name whole
  if fitsName name then .ok (stepInto here name) else .error (.nameTooLong whole)

/-! ### Directories -/

/-- Makes a directory, unless it is there. -/
def makeDirectory (t : Tree) (parts : List String) (name : String) : Except Fault Tree := do
  let whole := quotedPath (parts ++ [name])
  match pathFault (parts ++ [name]) with
  | some f => .error f
  | none =>
    let p ← t.place refuses whole t.home parts name
    if t.isFile p then .error (.fileInTheWay whole)
    else if t.isDirectory p then .ok t
    else
      refuses.check .make p whole
      .ok { t with directories := t.directories ++ [p] }

/-- Makes a directory, and first the directories above it if they are missing. The parts are those of
the path from its end on. -/
def makeUpwards (t : Tree) : List String → Tree × Except Fault Unit
  | [] => (t, .ok ())
  | name :: above =>
    match t.makeDirectory refuses above.reverse name with
    | .ok t => (t, .ok ())
    | .error (.noSuchPath _) =>
      match makeUpwards t above with
      | (t, .error f) => (t, .error f)
      | (t, .ok ()) =>
        match t.makeDirectory refuses above.reverse name with
        | .ok t => (t, .ok ())
        | .error f => (t, .error f)
    | .error f => (t, .error f)

/-- Makes a directory with all those above it, as far as they are missing. -/
def makeDirectories (t : Tree) (parts : List String) : Tree × Except Fault Unit :=
  t.makeUpwards refuses parts.reverse

/-! ### Files -/

/-- Opens a file, which is made if it is missing, and tells where it stands. Faults name it from the top on. -/
def openFile (t : Tree) (parts : List String) : Except Fault (Tree × Path) := do
  let whole := quotedPath (absolute t.home parts)
  match pathFault (absolute t.home parts) with
  | some f => .error f
  | none =>
    let p := destination t.home parts
    match p.getLast? with
    | none => .error (.directoryInTheWay whole)
    | some name =>
      let _ ← t.place refuses whole [] p.dropLast name
      if t.isDirectory p then .error (.directoryInTheWay whole)
      else
        refuses.check .write p whole
        .ok (if t.isFile p then t else { t with files := t.files ++ [(p, "")] }, p)

/-- What a file keeps of a text that is written to it. -/
def kept (p : Path) (s : String) : String := if p = nullDevice then "" else s

/-- Adds text to the end of a file. -/
def append (t : Tree) (p : Path) (s : String) : Tree :=
  { t with files := t.files.map fun f => if f.1 = p then (f.1, f.2 ++ kept p s) else f }

theorem content_append (t : Tree) (p q : Path) (s : String) :
    (t.append p s).content? q =
      (t.content? q).map fun c => if q = p then c ++ kept p s else c := by
  obtain ⟨home, ds, fs⟩ := t
  simp only [append, content?]
  induction fs with
  | nil => rfl
  | cons f fs ih =>
    obtain ⟨n, c⟩ := f
    simp only [List.map_cons]
    by_cases hq : q = n
    · subst hq
      by_cases hp : q = p <;> simp [hp]
    · have hn : (q == n) = false := by simpa using hq
      by_cases hp : n = p
      · simp only [hp, if_true] at hn ⊢
        simp only [List.lookup_cons, hn, ih]
      · simp only [hp, if_false, List.lookup_cons, hn, ih]

end Tree

end SqlDraft
