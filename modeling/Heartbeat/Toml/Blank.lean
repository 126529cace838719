/-!
# Between the parts of a document

Blanks, comments and the ends of lines. A comment runs to the end of its line and holds no control
character but tabs; a line ends with a line feed, alone or after a carriage return.
-/
namespace Heartbeat.Toml

/-- Reads something from the front of a text and gives what follows it; none if the text does not
start so. -/
abbrev Reader (α : Type) := List Char → Option (α × List Char)

/-- Reads as many items as there are, one right after another. The number bounds them. -/
def readMany (item : Reader α) : Nat → List Char → List α × List Char
  | 0, chars => ([], chars)
  | fuel + 1, chars =>
    match item chars with
    | none => ([], chars)
    | some (a, rest) =>
      let (more, rest) := readMany item fuel rest
      (a :: more, rest)

def isBlank (c : Char) : Bool := c == ' ' || c == '\t'

/-- Whether a character may stand in a comment or a text: any but control characters, and tabs. -/
def isPlain (c : Char) : Bool := c == '\t' || (0x20 ≤ c.toNat && c.toNat != 0x7F)

def skipBlanks (chars : List Char) : List Char := chars.dropWhile isBlank

/-- What follows the end of a line, if one is here. -/
def lineEnd? : List Char → Option (List Char)
  | '\n' :: rest => some rest
  | '\r' :: '\n' :: rest => some rest
  | _ => none

/-- The text without the comment that starts here, if one does. -/
def skipComment : List Char → List Char
  | '#' :: rest => rest.dropWhile isPlain
  | chars => chars

/-- What follows the line, if no more than blanks and a comment are left of it. -/
def finishLine? (chars : List Char) : Option (List Char) :=
  match skipComment (skipBlanks chars) with
  | [] => some []
  | chars => lineEnd? chars

/-- The text without the blanks, line ends and comments in front; none if a comment does not
reach the end of its line. The flag says whether a comment has begun. -/
def skipLines (comment : Bool) : List Char → Option (List Char)
  | [] => if comment then none else some []
  | '\n' :: rest => skipLines false rest
  | '\r' :: '\n' :: rest => skipLines false rest
  | c :: rest =>
    if comment then (if isPlain c then skipLines true rest else none)
    else if c == '#' then skipLines true rest
    else if isBlank c then skipLines false rest
    else some (c :: rest)

/-- The text without the blanks and line ends in front. -/
def skipEmptyLines : List Char → List Char
  | [] => []
  | '\n' :: rest => skipEmptyLines rest
  | '\r' :: '\n' :: rest => skipEmptyLines rest
  | c :: rest => if isBlank c then skipEmptyLines rest else c :: rest

end Heartbeat.Toml
