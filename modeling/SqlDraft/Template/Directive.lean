import SqlDraft.Number.Digits

/-!
# Directives of templates

A template is a text with directives. A directive starts with `%` and names, one after the other: a key
in parentheses, flags, a width, a precision behind a point, a size letter, and a conversion. All but the
conversion may be missing. `%%` stands for a percent sign.

* `Key`, `Flags`, `Amount`, `Directive`: the parts of a directive. A template can end inside one.
* `Directive.read`: the directive at the start of a text, and what follows it.
* `Piece`, `pieces`: a template as characters and directives.
-/

namespace SqlDraft

/-- The key of a directive. -/
inductive Key
  | absent
  /-- The template ends inside the key. -/
  | unclosed
  | named (name : String)
  deriving DecidableEq

/-- The flags of a directive. -/
structure Flags where
  /-- The text stands on the left of its field. -/
  left : Bool
  /-- A number without a sign gets a plus sign. -/
  plus : Bool
  /-- A number without a sign gets a blank. -/
  blank : Bool
  /-- A number shows its base or its point. -/
  alternate : Bool
  /-- A number is filled up with zeros. -/
  zero : Bool
  deriving DecidableEq

/-- A width or a precision. -/
inductive Amount
  | absent
  | given (n : Nat)
  /-- The next value is the amount. -/
  | taken
  deriving DecidableEq

/-- A directive. Without a conversion the template ends inside it. -/
structure Directive where
  key : Key
  flags : Flags
  width : Amount
  precision : Amount
  conversion : Option Char
  deriving DecidableEq

/-! ## Reading -/

/-- The characters up to the parenthesis that closes `depth` further ones, and what follows it. -/
def readKey : Nat → List Char → Option (List Char × List Char)
  | _, [] => none
  | 0, ')' :: cs => some ([], cs)
  | depth + 1, ')' :: cs => (readKey depth cs).map fun r => (')' :: r.1, r.2)
  | depth, '(' :: cs => (readKey (depth + 1) cs).map fun r => ('(' :: r.1, r.2)
  | depth, c :: cs => (readKey depth cs).map fun r => (c :: r.1, r.2)

/-- The key at the start of a text. -/
def takeKey : List Char → Key × List Char
  | '(' :: cs =>
    match readKey 0 cs with
    | some (name, rest) => (.named (String.ofList name), rest)
    | none => (.unclosed, [])
  | cs => (.absent, cs)

/-- The characters that are flags. -/
def isFlag (c : Char) : Bool := c == '-' || c == '+' || c == ' ' || c == '#' || c == '0'

/-- The flags that some characters stand for. -/
def Flags.ofChars (cs : List Char) : Flags :=
  ⟨cs.contains '-', cs.contains '+', cs.contains ' ', cs.contains '#', cs.contains '0'⟩

/-- The value of common digits. -/
def commonDigitsValue (cs : List Char) : Nat := cs.foldl (fun n c => 10 * n + (c.toNat - 48)) 0

/-- The amount at the start of a text. -/
def takeAmount : List Char → Amount × List Char
  | '*' :: cs => (.taken, cs)
  | cs =>
    match cs.takeWhile Char.isDigit with
    | [] => (.absent, cs)
    | ds => (.given (commonDigitsValue ds), cs.dropWhile Char.isDigit)

/-- The precision at the start of a text; a point alone is a precision of zero. -/
def takePrecision : List Char → Amount × List Char
  | '.' :: cs =>
    match takeAmount cs with
    | (.absent, rest) => (.given 0, rest)
    | r => r
  | cs => (.absent, cs)

/-- What follows a size letter, which says nothing. -/
def dropSize : List Char → List Char
  | c :: cs => if c = 'h' ∨ c = 'l' ∨ c = 'L' then cs else c :: cs
  | [] => []

/-- The directive at the start of a text, behind its percent sign, and what follows it. -/
def Directive.read (cs : List Char) : Directive × List Char :=
  let (key, cs) := takeKey cs
  let flags := Flags.ofChars (cs.takeWhile isFlag)
  let (width, cs) := takeAmount (cs.dropWhile isFlag)
  let (precision, cs) := takePrecision cs
  let cs := dropSize cs
  (⟨key, flags, width, precision, cs.head?⟩, cs.tail)

/-! ## Reading leaves less -/

theorem length_dropWhile_le (p : Char → Bool) (cs : List Char) :
    (cs.dropWhile p).length ≤ cs.length := (List.dropWhile_sublist p).length_le

theorem length_readKey {depth : Nat} {cs : List Char} {r : List Char × List Char}
    (h : readKey depth cs = some r) : r.2.length ≤ cs.length := by
  fun_induction readKey depth cs generalizing r with
  | case1 => simp at h
  | case2 cs => simp only [Option.some.injEq] at h; subst h; simp
  | _ =>
    rename_i ih
    obtain ⟨r', hr', rfl⟩ := Option.map_eq_some_iff.1 h
    have := ih hr'
    simp only [List.length_cons]
    omega

theorem length_takeKey (cs : List Char) : (takeKey cs).2.length ≤ cs.length := by
  unfold takeKey
  split
  · split
    · next h => have := length_readKey h; simp only [List.length_cons] at *; omega
    · simp
  · exact Nat.le_refl _

theorem length_takeAmount (cs : List Char) : (takeAmount cs).2.length ≤ cs.length := by
  unfold takeAmount
  split
  · simp
  · split
    · exact Nat.le_refl _
    · exact length_dropWhile_le ..

theorem length_takePrecision (cs : List Char) : (takePrecision cs).2.length ≤ cs.length := by
  unfold takePrecision
  split
  · next cs =>
    have := length_takeAmount cs
    split <;> simp_all <;> omega
  · exact Nat.le_refl _

theorem length_dropSize (cs : List Char) : (dropSize cs).length ≤ cs.length := by
  unfold dropSize
  split
  · split <;> simp
  · exact Nat.le_refl _

theorem Directive.length_read (cs : List Char) : (Directive.read cs).2.length ≤ cs.length := by
  simp only [Directive.read, List.length_tail]
  have h₁ := length_takeKey cs
  have h₂ := length_dropWhile_le isFlag (takeKey cs).2
  have h₃ := length_takeAmount ((takeKey cs).2.dropWhile isFlag)
  have h₄ := length_takePrecision (takeAmount ((takeKey cs).2.dropWhile isFlag)).2
  have h₅ := length_dropSize (takePrecision (takeAmount ((takeKey cs).2.dropWhile isFlag)).2).2
  omega

/-! ## Templates -/

/-- A piece of a template. -/
inductive Piece
  | char (c : Char)
  /-- A directive, with the position of its conversion. -/
  | directive (d : Directive) (position : Nat)
  deriving DecidableEq

/-- The pieces of a text that ends a template of a given length. -/
def piecesOf (length : Nat) (cs : List Char) : List Piece :=
  match cs with
  | [] => []
  | '%' :: '%' :: cs => .char '%' :: piecesOf length cs
  | '%' :: cs =>
    let r := Directive.read cs
    have := Directive.length_read cs
    .directive r.1 (length - r.2.length - 1) :: piecesOf length r.2
  | c :: cs => .char c :: piecesOf length cs
termination_by cs.length
decreasing_by all_goals simp only [List.length_cons]; omega

/-- The pieces of a template. -/
def pieces (template : String) : List Piece :=
  piecesOf template.toList.length template.toList

end SqlDraft
