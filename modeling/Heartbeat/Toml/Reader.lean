import Heartbeat.Toml.Moment
import Heartbeat.Toml.Number
import Heartbeat.Toml.Tree
/-!
# Keys and values

A list stands in brackets and may run over several lines; a table in braces is on one line, but for
the lists and blocks in it. Keys have less than 80 names, and lists and tables lie less than 80
deep.
-/
namespace Heartbeat.Toml

/-- How many names a key has, and how deep lists and tables lie, at the most. -/
def maxDepth : Nat := 79

/-- Whether a character may stand in a name without quotes. -/
def isNameChar (c : Char) : Bool := c.isAlphanum || c == '-' || c == '_'

def name? : Reader String := fun chars =>
  match chars with
  | [] => none
  | c :: rest =>
    if c = doubleQuote ∨ c = singleQuote then lineText? c rest
    else
      let name := chars.takeWhile isNameChar
      if name.isEmpty then none else some (.ofList name, chars.dropWhile isNameChar)

/-- Reads names with dots between them and blanks around them. The number bounds them. -/
def names? : Nat → Reader Key
  | 0, _ => none
  | most + 1, chars => do
    let (name, rest) ← name? (skipBlanks chars)
    match skipBlanks rest with
    | '.' :: rest =>
      let (key, rest) ← names? most rest
      return (⟨name :: key.path, key.name⟩, rest)
    | rest => return (⟨[], name⟩, rest)

/-- Reads a key, with the blanks around it. -/
def key? : Reader Key := names? maxDepth

def pair? (value : Reader Value) : Reader (Key × Value) := fun chars => do
  let (key, rest) ← key? chars
  match rest with
  | '=' :: rest =>
    let (value, rest) ← value (skipBlanks rest)
    return ((key, value), rest)
  | _ => none

/-- Reads the rest of a list, whose opening bracket has been read. A comma may stand behind the
last item. The number bounds the items. -/
def items? (value : Reader Value) : Nat → Reader (List Value)
  | 0, _ => none
  | most + 1, chars => do
    match ← skipLines false chars with
    | ']' :: rest => return ([], rest)
    | chars =>
      let (item, rest) ← value chars
      match ← skipLines false rest with
      | ']' :: rest => return ([item], rest)
      | ',' :: rest =>
        let (items, rest) ← items? value most rest
        return (item :: items, rest)
      | _ => none

/-- Reads the pairs of a table in braces up to the closing brace. The number bounds them. -/
def pairs? (value : Reader Value) : Nat → Reader (List (Key × Value))
  | 0, _ => none
  | most + 1, chars => do
    let (pair, rest) ← pair? value chars
    match skipBlanks rest with
    | '}' :: rest => return ([pair], rest)
    | ',' :: rest =>
      let (pairs, rest) ← pairs? value most rest
      return (pair :: pairs, rest)
    | _ => none

/-- Reads the rest of a table, whose opening brace has been read. -/
def braced? (value : Reader Value) : Reader Value := fun chars => do
  match skipBlanks chars with
  | '}' :: rest => return (.table [], rest)
  | chars =>
    let (pairs, rest) ← pairs? value chars.length chars
    return (.table (← Entries.ofPairs? pairs), rest)

def scalar? : Reader Value := fun chars =>
  match chars with
  | 't' :: 'r' :: 'u' :: 'e' :: rest => some (.boolean true, rest)
  | 'f' :: 'a' :: 'l' :: 's' :: 'e' :: rest => some (.boolean false, rest)
  | chars =>
    match text? chars with
    | some (text, rest) => some (.text text, rest)
    | none =>
      match moment? chars with
      | some (moment, rest) => some (.moment moment, rest)
      | none => number? chars

/-- Reads a value. The number says how deep lists and tables may lie in it. -/
def value? : Nat → Reader Value
  | depth + 1, '[' :: rest =>
    (items? (value? depth) (rest.length + 1) rest).map fun (items, rest) => (.list items, rest)
  | depth + 1, '{' :: rest => braced? (value? depth) rest
  | _, chars => scalar? chars

end Heartbeat.Toml
