import Heartbeat.Toml.Reader
/-!
# TOML documents

A document is a sequence of lines: pairs, headers of tables, and lines with nothing on them. Its
lines are read first, and then put together one after another; a pair belongs to the table of the
header above it. Nothing of a document that is at fault is used.
-/
namespace Heartbeat.Toml

inductive Line where
  | pair (key : Key) (value : Value)
  /-- A header in brackets. -/
  | table (key : Key)
  /-- A header in double brackets. -/
  | item (key : Key)

def line? : Reader Line
  | '[' :: '[' :: rest => do
    match ← key? rest with
    | (key, ']' :: ']' :: rest) => return (.item key, rest)
    | _ => none
  | '[' :: rest => do
    match ← key? rest with
    | (key, ']' :: rest) => return (.table key, rest)
    | _ => none
  | chars => (pair? (value? maxDepth) chars).map fun ((key, value), rest) => (.pair key value, rest)

/-- Reads all lines. The number bounds them. -/
def lines? : Nat → List Char → Option (List Line)
  | _, [] => some []
  | 0, _ => none
  | most + 1, chars =>
    match finishLine? chars with
    | some rest => lines? most rest
    | none => do
      let (line, rest) ← line? (skipBlanks chars)
      return line :: (← lines? most (← finishLine? rest))

/-- Puts the lines together, below the given header and into what is there. -/
def assemble : List Line → List String → Nodes → Option Nodes
  | [], _, nodes => some nodes
  | .pair key value :: lines, header, nodes => do
    assemble lines header (← insertBelow header (key, value) nodes)
  | .table key :: lines, _, nodes => do
    assemble lines (key.path ++ [key.name]) (← openTable key nodes)
  | .item key :: lines, _, nodes => do
    assemble lines (key.path ++ [key.name]) (← addTable key nodes)

/-- What a document denotes, if it is one. A byte order mark in front is passed over. -/
def parse? (text : String) : Option Entries := do
  let chars := match text.toList with
    | '\uFEFF' :: rest => rest
    | chars => chars
  let lines ← lines? chars.length chars
  return toEntries (← assemble lines [] [])

end Heartbeat.Toml
