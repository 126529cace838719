import Heartbeat.Decimal.Shortest
import Heartbeat.Text.Quoted
import Heartbeat.Text.Utf8
/-!
# What can be wrong with a JSON text

Three things are kept apart here. A `Cause` says what is wrong and has one wording. A `Fault` adds
the bytes that lie behind the place it was found at, which is all a reader knows while it runs. A
`ReadError` is a fault seen from the start of the text, with the line and the column of the place.
-/
namespace Heartbeat.Json

/-- What a reader found where it wanted something else. -/
inductive Found where
  | null
  | boolean (value : Bool)
  | integer (value : Int)
  | float (value : Decimal.Binary64)
  | text (value : String)
  | list
  | object
  deriving DecidableEq, Repr

def Found.describe : Found → String
  | .null => "null"
  | .boolean value => "boolean `" ++ toString value ++ "`"
  | .integer value => "integer `" ++ toString value ++ "`"
  | .float value => "floating point `" ++ value.render .message ++ "`"
  | .text value => "string " ++ Text.quote value
  | .list => "sequence"
  | .object => "map"

/-- What is wrong with a text. The first group is about JSON itself, the second about the kind
of value that was wanted. -/
inductive Cause where
  | expectedValue
  | expectedColon
  | expectedListCommaOrEnd
  | expectedObjectCommaOrEnd
  | expectedIdent
  | keyNotString
  | trailingComma
  | trailingCharacters
  | invalidNumber
  | numberOutOfRange
  | endOfValue
  | endOfList
  | endOfObject
  | endOfString
  | controlCharacter
  | invalidEscape
  | loneSurrogate
  | unpairedSurrogate
  | notUnicode
  | tooDeep
  | wrongType (found : Found) (expected : String)
  | wrongValue (found : Found) (expected : String)
  | missingField (name : String)
  | duplicateField (name : String)
  | unknownVariant (name : String) (known : List String)
  | wrongLength (length : Nat) (expected : String)
  /-- A text that its type cannot read, for the given reason. -/
  | unreadable (reason : String)
  deriving DecidableEq, Repr

def oneOf : List String → String
  | [] => "there are no variants"
  | [one] => "expected `" ++ one ++ "`"
  | [one, other] => "expected `" ++ one ++ "` or `" ++ other ++ "`"
  | names => "expected one of " ++ ", ".intercalate (names.map fun name => "`" ++ name ++ "`")

def Cause.message : Cause → String
  | .expectedValue => "expected value"
  | .expectedColon => "expected `:`"
  | .expectedListCommaOrEnd => "expected `,` or `]`"
  | .expectedObjectCommaOrEnd => "expected `,` or `\x7d`"
  | .expectedIdent => "expected ident"
  | .keyNotString => "key must be a string"
  | .trailingComma => "trailing comma"
  | .trailingCharacters => "trailing characters"
  | .invalidNumber => "invalid number"
  | .numberOutOfRange => "number out of range"
  | .endOfValue => "EOF while parsing a value"
  | .endOfList => "EOF while parsing a list"
  | .endOfObject => "EOF while parsing an object"
  | .endOfString => "EOF while parsing a string"
  | .controlCharacter =>
    "control character (\\u0000-\\u001F) found while parsing a string"
  | .invalidEscape => "invalid escape"
  | .loneSurrogate => "lone leading surrogate in hex escape"
  | .unpairedSurrogate => "unexpected end of hex escape"
  | .notUnicode => "invalid unicode code point"
  | .tooDeep => "recursion limit exceeded"
  | .wrongType found expected => "invalid type: " ++ found.describe ++ ", expected " ++ expected
  | .wrongValue found expected => "invalid value: " ++ found.describe ++ ", expected " ++ expected
  | .missingField name => "missing field `" ++ name ++ "`"
  | .duplicateField name => "duplicate field `" ++ name ++ "`"
  | .unknownVariant name known => "unknown variant `" ++ name ++ "`, " ++ oneOf known
  | .wrongLength length expected => "invalid length " ++ toString length ++ ", expected " ++ expected
  | .unreadable reason => reason

/-- A cause and the bytes behind the place it was found at. -/
structure Fault where
  cause : Cause
  unread : Bytes
  deriving DecidableEq, Repr

/-- The fault lies right before `rest`. -/
def Fault.before (cause : Cause) (rest : Bytes) : Fault := ⟨cause, rest⟩

/-- The fault lies on the first byte of `rest`, or at the end if there is none. -/
def Fault.onNext (cause : Cause) (rest : Bytes) : Fault := ⟨cause, rest.tail⟩

/-- Reads something from the front of a text and gives the bytes after it. -/
abbrev Reader (α : Type) := Bytes → Except Fault (α × Bytes)

structure ReadError where
  cause : Cause
  /-- Counted from one. -/
  line : Nat
  /-- How many bytes of the line lie before the place. -/
  column : Nat
  deriving DecidableEq, Repr

def ReadError.message (e : ReadError) : String :=
  e.cause.message ++ " at line " ++ toString e.line ++ " column " ++ toString e.column

/-- The fault seen from the start of the whole text. -/
def Fault.locate (fault : Fault) (text : Bytes) : ReadError :=
  let passed := text.take (text.length - fault.unread.length)
  { cause := fault.cause
    line := passed.count 0x0A + 1
    column := (passed.reverse.takeWhile (· != 0x0A)).length }

def isBlank (b : UInt8) : Bool := b == 0x20 || b == 0x0A || b == 0x09 || b == 0x0D

def skipBlanks (text : Bytes) : Bytes := text.dropWhile isBlank

/-- Reads a whole text: what `read` takes, and nothing but blanks after it. -/
def readAll (read : Reader α) (text : Bytes) : Except ReadError α :=
  match read text with
  | .error fault => .error (fault.locate text)
  | .ok (value, rest) =>
    match skipBlanks rest with
    | [] => .ok value
    | more => .error ((Fault.onNext .trailingCharacters more).locate text)

/-- Reads the given bytes of a word whose first byte has been read. -/
def word : Bytes → Bytes → Except Fault Bytes
  | [], rest => .ok rest
  | _ :: _, [] => .error (.before .endOfValue [])
  | wanted :: more, next :: rest =>
    if next = wanted then word more rest else .error (.before .expectedIdent rest)

end Heartbeat.Json
