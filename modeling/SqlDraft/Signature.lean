import SqlDraft.Fault

/-!
# Signatures

A signature tells which parameters a function has. Arguments fill the parameters in order; those that a
call must fill come before those that it can leave out.

* `Signature`, `Signature.least`, `most`: a signature, and the fewest and the most arguments it takes.
* `Signature.check`: what is wrong with a number of arguments.
-/

namespace SqlDraft

/-- The parameters of a function. -/
structure Signature where
  /-- The name of the function in messages. -/
  name : String
  /-- The parameters that the arguments of a call must fill. -/
  required : List String
  /-- How many further parameters the arguments of a call can fill. -/
  optional : Nat
  /-- How many parameters are filled before, by what the function is called on. -/
  ahead : Nat
  /-- How many of those could have been left out. -/
  spare : Nat

namespace Signature

/-- The fewest arguments a function takes. -/
def least (s : Signature) : Nat := s.ahead - s.spare + s.required.length

/-- The most arguments a function takes. -/
def most (s : Signature) : Nat := s.ahead + s.required.length + s.optional

/-- Checks the number of arguments of a call. -/
def check (s : Signature) (count : Nat) : Except Fault Unit :=
  if s.most < s.ahead + count then
    .error (.argumentsLeft s.name s.least s.most (s.ahead + count))
  else if count < s.required.length then
    .error (.argumentsMissing s.name (s.required.drop count))
  else .ok ()

end Signature

end SqlDraft
