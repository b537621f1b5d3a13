import SqlDraft.Value.Kind

/-!
# Faults

Everything that can go wrong, as causes, and the wording of each cause.

* `UrlPart`: the parts of a database URL that must be text.
* `ClockPart`: the numbers of a moment with fixed limits.
* `Fault`: the causes.
* `Fault.message`: the wording.
-/

namespace SqlDraft

/-- The parts of a database URL that must be text. -/
inductive UrlPart
  | username | host | database
  deriving DecidableEq

namespace UrlPart

/-- The name of a part in a message. -/
def label : UrlPart → String
  | username => "username"
  | host => "host"
  | database => "database"

end UrlPart

/-- The numbers of a moment with fixed limits. -/
inductive ClockPart
  | month | hour | minute | second | microsecond
  deriving DecidableEq

namespace ClockPart

/-- The name of a number in a message. -/
def label : ClockPart → String
  | month => "month"
  | hour => "hour"
  | minute => "minute"
  | second => "second"
  | microsecond => "microsecond"

/-- The least number. -/
def least : ClockPart → Nat
  | month => 1
  | _ => 0

/-- The greatest number. -/
def greatest : ClockPart → Nat
  | month => 12
  | hour => 23
  | minute | second => 59
  | microsecond => 999999

end ClockPart

/-- What can go wrong. -/
inductive Fault
  /-- A value that has no elements was to be gone through. -/
  | notIterable (k : Kind)
  /-- A value that has no elements was to be joined. -/
  | notJoinable
  /-- An element to be joined is no text. -/
  | notText (position : Nat) (k : Kind)
  /-- A value to be put behind a text is none. -/
  | notAppendable (k : Kind)
  /-- A value lacks an operation. -/
  | noMember (k : Kind) (member : String)
  /-- A dictionary lacks a key, given in quoted form. -/
  | missingKey (shown : String)
  /-- A value that has no entries was asked for one. -/
  | notSubscriptable (k : Kind)
  /-- A sequence was asked for an entry by something that is no position. -/
  | wrongIndex (container key : Kind)
  /-- A list has no such position to assign to. -/
  | positionOutOfRange
  /-- A position too large to be one. -/
  | positionTooLarge
  /-- A row has no value for a column. -/
  | rowTooShort
  /-- A list has no such position to read from. -/
  | noSuchPosition
  /-- More rows were asked for than can be counted. -/
  | countTooLarge
  /-- A value whose entries cannot be assigned. -/
  | notAssignable (k : Kind)
  /-- A value that cannot be a key. -/
  | unhashable (k : Kind)
  /-- A number that cannot be a key. -/
  | unhashableNumber
  /-- A value without a length. -/
  | noLength (k : Kind)
  /-- A value that is no integer. -/
  | notIntegral (k : Kind)
  /-- A value that cannot be compared with an integer. -/
  | incomparable (k : Kind)
  /-- A decimal that has no order. -/
  | undefinedOrder
  /-- An infinite number was to become an integer. -/
  | infiniteInteger (k : Kind)
  /-- A number that is none was to become an integer. -/
  | undefinedInteger (k : Kind)
  /-- A value that is neither a number nor a text was to become an integer. -/
  | notNumber (k : Kind)
  /-- A text, given in quoted form, is no integer. -/
  | notInteger (shown : String)
  /-- A text, given in quoted form, is no binary number. -/
  | notBinary (shown : String)
  /-- A value that cannot become a binary number. -/
  | notReal (k : Kind)
  /-- A text is no decimal number. -/
  | notDecimal
  /-- A value that cannot become a decimal number. -/
  | notDecimalKind (k : Kind)
  /-- A list that is not the three parts of a decimal number. -/
  | notDecimalParts
  /-- A decimal number is too large, or its digits reach too far below the point. -/
  | decimalOutOfRange
  /-- An integer has too many digits to be read (how many) or written. -/
  | tooManyDigits (read : Option Nat)
  /-- An integer has more digits than there is memory for. -/
  | outOfMemory
  /-- An integer is too large for a binary number. -/
  | integerTooLarge
  /-- A signaling decimal was to become a binary number. -/
  | signalingNumber
  /-- A value, given in quoted form, is no kind of statement. -/
  | unknownStatement (shown : String)
  /-- There is no connection to execute a statement on. -/
  | noConnection
  /-- The database refused a statement. -/
  | refused (reason statement : String)
  /-- The connection broke down. -/
  | broken (reason : String)
  /-- An instant has no date in the supported years. -/
  | dateOutOfRange
  /-- A number of a date or a moment beyond 64 bits. -/
  | numberTooWide
  /-- A number of a date or a moment above 32 bits. -/
  | numberTooGreat
  /-- A number of a date or a moment below 32 bits. -/
  | numberTooSmall
  /-- A number of a date is missing, at a position that counts from one. -/
  | dateNumberMissing (number : String) (position : Nat)
  /-- More numbers than a date or a moment has. -/
  | dateNumbersLeft (most given : Nat)
  /-- The clock of a moment was given twice, once at a position. -/
  | clockGivenTwice (position : Nat)
  /-- A value that is no span of seconds. -/
  | notSpan (k : Kind)
  /-- A span of more days than a span can have. -/
  | spanTooLong (days : Int)
  /-- A span whose days do not fit in 32 bits. -/
  | spanTooWide
  /-- A year before 1 or after 9999. -/
  | yearOutOfRange (year : Int)
  /-- A day that its month does not have. -/
  | dayOutOfRange
  /-- A number of a moment beyond its limits. -/
  | partOutOfRange (part : ClockPart)
  /-- A clock that is a day or more away from universal time, with that span in quoted form. -/
  | offsetOutOfRange (shown : String)
  /-- A number that is no byte. -/
  | byteOutOfRange
  /-- A value that cannot become a byte string. -/
  | notBytes (k : Kind)
  /-- A text was to become a byte string. -/
  | textNotBytes
  /-- A byte string of fewer than no bytes. -/
  | negativeLength
  /-- A byte string of more bytes than can be counted. -/
  | lengthTooLarge
  /-- A pair has too few parts. -/
  | tooFewParts (given : Nat)
  /-- A pair, or the name of a driver, has more than two parts. -/
  | tooManyParts
  /-- A pair that has no parts. -/
  | noParts (k : Kind)
  /-- The arguments of a function are to be the elements of a value that has none. -/
  | notArguments (function : String) (k : Kind)
  /-- A byte string was compared with the start of a text. -/
  | bytesAgainstText
  /-- A part of a database URL is no text. -/
  | notUrlText (part : UrlPart)
  /-- The port of a database URL is no number. -/
  | notPort
  /-- No dialect of that name is known. -/
  | unknownDialect (driver : String)
  /-- No level has that name. -/
  | unknownLevelName (name : String)
  /-- A name stands for a text, given in quoted form, that names no level. -/
  | notLevel (shown : String)
  /-- A name stands for something, given in quoted form, that cannot be a level. -/
  | neverLevel (shown : String)
  /-- A value that names no logger. -/
  | notLoggerName
  /-- A value that is no path. -/
  | notPath (k : Kind)
  /-- A value that cannot go on a path. -/
  | notPathPart (k : Kind)
  /-- A file stands where a directory is needed. -/
  | fileInTheWay (path : String)
  /-- A path leads through a file. -/
  | throughFile (path : String)
  /-- A directory stands where a file is needed. -/
  | directoryInTheWay (path : String)
  /-- A path leads through nothing. -/
  | noSuchPath (path : String)
  /-- A path, or a name in it, is too long. -/
  | nameTooLong (path : String)
  /-- The system denies access to a path, for a reason of its own with its number. -/
  | denied (number : Nat) (reason path : String)
  /-- A path or a variable contains a null character. -/
  | nullCharacter
  /-- The value of a variable is no text. -/
  | notVariableText (k : Kind)
  /-- The name of a variable contains an equals sign. -/
  | wrongVariableName
  /-- The name of a variable is empty. -/
  | emptyVariableName
  /-- A value that is no record template. -/
  | notTemplate (k : Kind)
  /-- A record template without a field. -/
  | invalidTemplate (template : String)
  /-- A record has no such field, given in quoted form. -/
  | missingField (shown : String)
  /-- A directive asks for a number. -/
  | needsNumber (conversion : Char) (k : Kind)
  /-- A directive asks for an integer. -/
  | needsInteger (conversion : Char) (k : Kind)
  /-- A directive asks for a number to write in binary floating point. -/
  | needsReal (k : Kind)
  /-- A directive asks for a character. -/
  | needsCharacter
  /-- A number is no code point. -/
  | codePointOutOfRange
  /-- Values were left over. -/
  | valuesLeft
  /-- Values ran out. -/
  | valuesMissing
  /-- A template ends inside a directive. -/
  | incompleteDirective
  /-- A template ends inside the key of a directive. -/
  | incompleteKey
  /-- A directive has a key, and there is no dictionary. -/
  | needsDictionary
  /-- A starred width or precision is no integer. -/
  | starNeedsInteger
  /-- A width that no text can have. -/
  | widthTooLarge
  /-- A precision that no text can have. -/
  | precisionTooLarge
  /-- A starred width that no text can have. -/
  | starredWidthTooLarge
  /-- A starred precision that no text can have. -/
  | starredPrecisionTooLarge
  /-- A precision that no integer can be written with. -/
  | integerPrecisionTooLarge
  /-- A directive ends in an unknown character. -/
  | unknownConversion (conversion : Char) (position : Nat)
  /-- A call leaves out parameters that it must fill. -/
  | argumentsMissing (function : String) (parameters : List String)
  /-- A call has more arguments than the function takes. -/
  | argumentsLeft (function : String) (least most given : Nat)
  /-- A function has no such option. -/
  | unknownOption (function option : String)
  /-- A query has no such method. -/
  | unknownMethod (name : String)
  /-- A query has no older collection of that name. -/
  | unknownCollection (name : String)
  /-- A value that is no name of a member. -/
  | notMemberName (k : Kind)
  deriving DecidableEq

namespace Fault

/-- The names of the sequences that are asked for an entry by position. -/
def sequenceLabel : Kind → String
  | .bytes => "byte"
  | .text => "string"
  | k => k.label

/-- Names in quotes, with a comma or a conjunction between them. -/
def listed : List String → String
  | [] => ""
  | [x] => quoted x
  | [x, y] => quoted x ++ " and " ++ quoted y
  | xs => ", ".intercalate (xs.dropLast.map quoted) ++ ", and " ++ quoted (xs.getLastD "")
where
  /-- A name in quotes. -/
  quoted (s : String) : String := "'" ++ s ++ "'"

/-- A number of things with their noun. -/
def counted (n : Nat) (noun : String) : String :=
  Nat.repr n ++ " " ++ noun ++ if n = 1 then "" else "s"

/-- How many arguments a function takes. -/
def takes (least most : Nat) : String :=
  if least = most then "takes " ++ counted most "positional argument"
  else "takes from " ++ Nat.repr least ++ " to " ++ Nat.repr most ++ " positional arguments"

/-- The wording of a cause. -/
def message : Fault → String
  | notIterable k => "'" ++ k.label ++ "' object is not iterable"
  | notJoinable => "can only join an iterable"
  | notText i k =>
    "sequence item " ++ Nat.repr i ++ ": expected str instance, " ++ k.label ++ " found"
  | notAppendable k => "can only concatenate str (not \"" ++ k.label ++ "\") to str"
  | noMember k m => "'" ++ k.label ++ "' object has no attribute '" ++ m ++ "'"
  | missingKey shown => shown
  | notSubscriptable k => "'" ++ k.label ++ "' object is not subscriptable"
  | wrongIndex .text k => "string indices must be integers, not '" ++ k.label ++ "'"
  | wrongIndex c k =>
    sequenceLabel c ++ " indices must be integers or slices, not " ++ k.label
  | positionOutOfRange => "list assignment index out of range"
  | positionTooLarge => "cannot fit 'int' into an index-sized integer"
  | rowTooShort => "tuple index out of range"
  | noSuchPosition => "list index out of range"
  | countTooLarge =>
    "Stop argument for islice() must be None or an integer: 0 <= x <= sys.maxsize."
  | notAssignable k => "'" ++ k.label ++ "' object does not support item assignment"
  | unhashable k => "unhashable type: '" ++ k.label ++ "'"
  | unhashableNumber => "Cannot hash a signaling NaN value"
  | noLength k => "object of type '" ++ k.label ++ "' has no len()"
  | notIntegral k => "'" ++ k.label ++ "' object cannot be interpreted as an integer"
  | incomparable k => "'>' not supported between instances of '" ++ k.label ++ "' and 'int'"
  | undefinedOrder => "[<class 'decimal.InvalidOperation'>]"
  | infiniteInteger .decimal => "cannot convert Infinity to integer"
  | infiniteInteger k => "cannot convert " ++ k.label ++ " infinity to integer"
  | undefinedInteger .decimal => "cannot convert NaN to integer"
  | undefinedInteger k => "cannot convert " ++ k.label ++ " NaN to integer"
  | notNumber k =>
    "int() argument must be a string, a bytes-like object or a real number, not '" ++ k.label ++ "'"
  | notInteger shown => "invalid literal for int() with base 10: " ++ shown
  | notBinary shown => "could not convert string to float: " ++ shown
  | notReal k => "float() argument must be a string or a real number, not '" ++ k.label ++ "'"
  | notDecimal => "[<class 'decimal.ConversionSyntax'>]"
  | notDecimalKind k => "conversion from " ++ k.label ++ " to Decimal is not supported"
  | notDecimalParts => "argument must be a sequence of length 3"
  | decimalOutOfRange => "[<class 'decimal.InvalidOperation'>]"
  | tooManyDigits (some n) =>
    "Exceeds the limit (4300 digits) for integer string conversion: value has " ++ Nat.repr n ++
      " digits; use sys.set_int_max_str_digits() to increase the limit"
  | tooManyDigits none =>
    "Exceeds the limit (4300 digits) for integer string conversion; " ++
      "use sys.set_int_max_str_digits() to increase the limit"
  | outOfMemory => ""
  | integerTooLarge => "int too large to convert to float"
  | signalingNumber => "cannot convert signaling NaN to float"
  | unknownStatement shown => shown ++ " is not a valid StatementType"
  | noConnection =>
    "No database connection: pass one explicitly or construct the Query with db="
  | refused reason _ => "Query execution failed: " ++ reason
  | broken reason => reason
  | dateOutOfRange => "date value out of range"
  | numberTooWide => "Python int too large to convert to C long"
  | numberTooGreat => "signed integer is greater than maximum"
  | numberTooSmall => "signed integer is less than minimum"
  | dateNumberMissing number position =>
    "function missing required argument '" ++ number ++ "' (pos " ++ Nat.repr position ++ ")"
  | dateNumbersLeft most given =>
    "function takes at most " ++ Nat.repr most ++ " arguments (" ++ Nat.repr given ++ " given)"
  | clockGivenTwice position =>
    "argument for function given by name ('tzinfo') and position (" ++ Nat.repr position ++ ")"
  | notSpan k => "unsupported type for timedelta seconds component: " ++ k.shortLabel
  | spanTooLong days => "days=" ++ days.repr ++ "; must have magnitude <= 999999999"
  | spanTooWide => "Python int too large to convert to C int"
  | yearOutOfRange year => "year " ++ year.repr ++ " is out of range"
  | dayOutOfRange => "day is out of range for month"
  | partOutOfRange part =>
    part.label ++ " must be in " ++ Nat.repr part.least ++ ".." ++ Nat.repr part.greatest
  | offsetOutOfRange shown =>
    "offset must be a timedelta strictly between -timedelta(hours=24) and timedelta(hours=24), not " ++
      shown ++ "."
  | byteOutOfRange => "bytes must be in range(0, 256)"
  | notBytes k => "cannot convert '" ++ k.label ++ "' object to bytes"
  | textNotBytes => "string argument without an encoding"
  | negativeLength => "negative count"
  | lengthTooLarge => "cannot fit 'int' into an index-sized integer"
  | tooFewParts given =>
    "not enough values to unpack (expected 2, got " ++ Nat.repr given ++ ")"
  | tooManyParts => "too many values to unpack (expected 2)"
  | noParts k => "cannot unpack non-iterable " ++ k.label ++ " object"
  | notArguments function k =>
    function ++ "() argument after * must be an iterable, not " ++ k.label
  | bytesAgainstText => "startswith first arg must be bytes or a tuple of bytes, not str"
  | notUrlText part => part.label ++ " must be a string"
  | notPort => "Port argument must be an integer or None"
  | unknownDialect driver => "Can't load plugin: sqlalchemy.dialects:" ++ driver
  | unknownLevelName name => "module 'logging' has no attribute '" ++ name ++ "'"
  | notLevel shown => "Unknown level: " ++ shown
  | neverLevel shown => "Level not an integer or a valid string: " ++ shown
  | notLoggerName => "A logger name must be a string"
  | notPath .bytes =>
    "argument should be a str object or an os.PathLike object returning str, not <class 'bytes'>"
  | notPath k => "expected str, bytes or os.PathLike object, not " ++ k.shortLabel
  | notPathPart k => "unsupported operand type(s) for /: 'PosixPath' and '" ++ k.label ++ "'"
  | fileInTheWay path => "[Errno 17] File exists: " ++ path
  | throughFile path => "[Errno 20] Not a directory: " ++ path
  | directoryInTheWay path => "[Errno 21] Is a directory: " ++ path
  | noSuchPath path => "[Errno 2] No such file or directory: " ++ path
  | nameTooLong path => "[Errno 36] File name too long: " ++ path
  | denied number reason path => "[Errno " ++ Nat.repr number ++ "] " ++ reason ++ ": " ++ path
  | nullCharacter => "embedded null byte"
  | notVariableText k => "str expected, not " ++ k.shortLabel
  | wrongVariableName => "illegal environment variable name"
  | emptyVariableName => "[Errno 22] Invalid argument"
  | notTemplate .bytes => "cannot use a string pattern on a bytes-like object"
  | notTemplate k => "expected string or bytes-like object, got '" ++ k.label ++ "'"
  | invalidTemplate t => "Invalid format '" ++ t ++ "' for '%' style"
  | missingField shown => "Formatting field not found in record: " ++ shown
  | needsNumber c k =>
    "%" ++ c.toString ++ " format: a real number is required, not " ++ k.label
  | needsInteger c k =>
    "%" ++ c.toString ++ " format: an integer is required, not " ++ k.label
  | needsReal k => "must be real number, not " ++ k.label
  | needsCharacter => "%c requires int or char"
  | codePointOutOfRange => "%c arg not in range(0x110000)"
  | valuesLeft => "not all arguments converted during string formatting"
  | valuesMissing => "not enough arguments for format string"
  | incompleteDirective => "incomplete format"
  | incompleteKey => "incomplete format key"
  | needsDictionary => "format requires a mapping"
  | starNeedsInteger => "* wants int"
  | widthTooLarge => "width too big"
  | precisionTooLarge => "precision too big"
  | starredWidthTooLarge => "Python int too large to convert to C ssize_t"
  | starredPrecisionTooLarge => "Python int too large to convert to C int"
  | integerPrecisionTooLarge => "precision too large"
  | unknownConversion c i =>
    "unsupported format character '" ++
      (if 31 ≤ c.toNat ∧ c.toNat ≤ 126 then c.toString else "?") ++ "' (0x" ++
      String.ofList (Nat.toDigits 16 c.toNat) ++ ") at index " ++ Nat.repr i
  | argumentsMissing function parameters =>
    function ++ "() missing " ++ counted parameters.length "required positional argument" ++ ": " ++
      listed parameters
  | argumentsLeft function least most given =>
    function ++ "() " ++ takes least most ++ " but " ++ Nat.repr given ++
      (if given = 1 then " was given" else " were given")
  | unknownOption function option =>
    function ++ "() got an unexpected keyword argument '" ++ option ++ "'"
  | unknownMethod name => "'Query' object has no attribute '" ++ name ++ "'"
  | unknownCollection name => "'LegacyFragments' object has no attribute '" ++ name ++ "'"
  | notMemberName k => "attribute name must be string, not '" ++ k.label ++ "'"

end Fault

end SqlDraft
