import Heartbeat.Toml.Blank
/-!
# Texts in a document

A text stands in double quotes, with escapes, or in single quotes, without; each quote once for a
text on one line, or three times for a block of lines. A block drops a line end right after its
opening quotes, gives every line end as a line feed, and may hold one or two of its quotes in a row.
-/
namespace Heartbeat.Toml

def doubleQuote : Char := '"'

def singleQuote : Char := '\x27'

def hexDigit? (c : Char) : Option Nat :=
  if '0' ≤ c ∧ c ≤ '9' then some (c.toNat - '0'.toNat)
  else if 'a' ≤ c ∧ c ≤ 'f' then some (c.toNat - 'a'.toNat + 10)
  else if 'A' ≤ c ∧ c ≤ 'F' then some (c.toNat - 'A'.toNat + 10)
  else none

/-- Reads a character that is given by so many hexadecimal digits. -/
def codePoint? (count : Nat) : Reader Char := fun chars => do
  let digits ← (chars.take count).mapM hexDigit?
  let n := digits.foldl (fun n digit => n * 16 + digit) 0
  if digits.length = count ∧ n.isValidChar then some (.ofNat n, chars.drop count) else none

/-- Reads the rest of an escape, whose backslash has been read. -/
def escape? : Reader Char
  | 'b' :: rest => some ('\x08', rest)
  | 't' :: rest => some ('\t', rest)
  | 'n' :: rest => some ('\n', rest)
  | 'f' :: rest => some ('\x0c', rest)
  | 'r' :: rest => some ('\r', rest)
  | '"' :: rest => some ('"', rest)
  | '\\' :: rest => some ('\\', rest)
  | 'u' :: rest => codePoint? 4 rest
  | 'U' :: rest => codePoint? 8 rest
  | _ => none

/-- Reads a character of a text in the given quotes. -/
def textChar? (quote : Char) : Reader Char
  | [] => none
  | c :: rest =>
    if c = quote then none
    else if c = '\\' ∧ quote = doubleQuote then escape? rest
    else if isPlain c then some (c, rest) else none

/-- Reads the rest of a text on one line, whose opening quote has been read. -/
def lineText? (quote : Char) : Reader String := fun chars =>
  match readMany (textChar? quote) chars.length chars with
  | (text, c :: rest) => if c = quote then some (.ofList text, rest) else none
  | (_, []) => none

/-- How many quotes stand in front. -/
def quoteRun (quote : Char) (chars : List Char) : Nat := (chars.takeWhile (· == quote)).length

/-- Reads a piece of a block: a character, a line end, a line end that a backslash takes away with
all blanks and line ends after it, or quotes that do not close the block. -/
def blockPiece? (quote : Char) : Reader (List Char) := fun chars =>
  let run := quoteRun quote chars
  if run = 1 ∨ run = 2 then some (chars.take run, chars.drop run)
  else match lineEnd? chars with
    | some rest => some (['\n'], rest)
    | none =>
      let unbroken := match chars with
        | '\\' :: rest => if quote = doubleQuote then lineEnd? (skipBlanks rest) else none
        | _ => none
      match unbroken with
      | some rest => some ([], skipEmptyLines rest)
      | none => (textChar? quote chars).map fun (c, rest) => ([c], rest)

/-- Reads the rest of a block, whose opening quotes have been read. Up to five quotes close it, of
which all but the last three belong to it. -/
def blockText? (quote : Char) : Reader String := fun chars =>
  let chars := (lineEnd? chars).getD chars
  let (pieces, rest) := readMany (blockPiece? quote) chars.length chars
  let run := min 5 (quoteRun quote rest)
  if run < 3 then none
  else some (.ofList (pieces.flatten ++ List.replicate (run - 3) quote), rest.drop run)

/-- Reads a text, if one starts here. -/
def text? : Reader String
  | [] => none
  | quote :: rest =>
    if quote ≠ doubleQuote ∧ quote ≠ singleQuote then none
    else if [quote, quote].isPrefixOf rest then blockText? quote (rest.drop 2)
    else lineText? quote rest

end Heartbeat.Toml
