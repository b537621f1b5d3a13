import SqlDraft.Settings.Basic
import SqlDraft.Value.Text

/-!
# Database URLs

A URL names a driver and, as far as they are known, user, password, host, port and database.

* `Url`: the parts.
* `Database.url`: the URL of a database. A file database has no other parts than its name.
* `percentEncoded`: a text with the bytes of all but a few characters written as `%XX`.
* `Url.text`, `Url.maskedText`: the URL as text, with the password and without it.
-/

namespace SqlDraft

/-- A database URL. -/
structure Url where
  driver : String
  user : Option String
  password : Option Value
  host : Option String
  port : Option Int
  database : Option String

/-! ## From settings -/

/-- A part that must be text; what counts as absent is left out. -/
def textPart (part : UrlPart) (v : Value) : Except Fault (Option String) :=
  if v.truthy then
    match v with
    | .text s => .ok (some s)
    | _ => .error (.notUrlText part)
  else .ok none

/-- The port; what counts as absent is left out. -/
def portPart (v : Value) : Except Fault (Option Int) :=
  if v.truthy then
    match v.toInteger with
    | .ok n => .ok (some n)
    | .error (.notNumber _) => .error .notPort
    | .error f => .error f
  else .ok none

/-- The name of a driver. -/
def driverName : Value → Except Fault String
  | .text s => .ok s
  | .bytes _ => .error .bytesAgainstText
  | v => .error (.noMember v.kind "startswith")

/-- Whether a driver keeps its databases in files. -/
def isFileDriver (driver : String) : Bool := "sqlite".toList.isPrefixOf driver.toList

/-- The URL of a database. The parts are checked in the order of the URL. -/
def Database.url (d : Database) : Except Fault Url := do
  let driver ← driverName d.driver
  if isFileDriver driver then
    .ok ⟨driver, none, none, none, none, ← textPart .database d.name⟩
  else
    let user ← textPart .username d.user
    let host ← textPart .host d.host
    let port ← portPart d.port
    let database ← textPart .database d.name
    .ok ⟨driver, user, if d.password.truthy then some d.password else none, host, port, database⟩

/-! ## Percent encoding -/

/-- A byte as `%XX`. -/
def percentByte (b : UInt8) : List Char :=
  let digit (n : Nat) := Char.ofNat (if n < 10 then 48 + n else 55 + n)
  ['%', digit (b.toNat / 16), digit (b.toNat % 16)]

/-- Letters, digits and marks that are never encoded. -/
def isUnreserved (c : Char) : Bool := c.isAlphanum || "_.-~".toList.contains c

/-- A text with every byte of all but the kept characters encoded. -/
def percentEncoded (keeps : Char → Bool) (s : String) : String :=
  String.ofList <| s.toList.flatMap fun c =>
    if keeps c then [c] else c.toString.toUTF8.toList.flatMap percentByte

/-- What is kept in a user or a password. -/
def keptInLogin (c : Char) : Bool := isUnreserved c || c == ' ' || c == '+'

/-- What is kept in the name of a database. -/
def keptInDatabase (c : Char) : Bool := keptInLogin c || c == '/'

/-! ## As text -/

namespace Url

/-- A part with what stands before it, if it is there. -/
def optional (before : String) : Option String → String
  | some s => before ++ s
  | none => ""

/-- User and password; a password without a user is not shown. -/
def loginText (u : Url) (password : Option String) : String :=
  match u.user with
  | some user => percentEncoded keptInLogin user ++ optional ":" password ++ "@"
  | none => ""

/-- The host, in brackets if it holds a colon. -/
def hostText (host : String) : String :=
  if host.toList.contains ':' then "[" ++ host ++ "]" else host

/-- The URL with a text in place of the password. -/
def textWith (u : Url) (password : Option String) : Except Fault String := do
  let port ← match u.port with
    | some n => (signedText n).map some
    | none => .ok none
  .ok (u.driver ++ "://" ++ u.loginText password ++ optional "" (u.host.map hostText) ++
    optional ":" port ++ optional "/" (u.database.map (percentEncoded keptInDatabase)))

/-- The URL without its password. -/
def maskedText (u : Url) : Except Fault String := u.textWith (u.password.map fun _ => "***")

/-- The URL with its password. -/
def text (u : Url) : Except Fault String := do
  match u.user, u.password with
  | some _, some p => u.textWith (some (percentEncoded keptInLogin (← p.shown)))
  | _, _ => u.textWith none

end Url

end SqlDraft
