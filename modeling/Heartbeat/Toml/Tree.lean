import Heartbeat.Toml.Value
/-!
# How tables come about

The pairs and headers of a document put its tables together piece by piece. A table remembers how it
came about, for that decides what may still be put into it: a table with a header of its own gets no
second one, and is not entered by dotted keys; a table that headers of tables below it imply may get
its own later; a table that dotted keys made is only entered by dotted keys and by headers of tables
below it. A value in brackets or braces is complete.
-/
namespace Heartbeat.Toml

/-- How a table came about. -/
inductive Origin where
  /-- By its own header. The document itself counts as one. -/
  | stated
  /-- By the header of a table below it. -/
  | implied
  /-- By a dotted key. -/
  | dotted
  deriving DecidableEq, Repr

/-- What has been put together under a name. -/
inductive Node where
  | value (value : Value)
  | table (origin : Origin) (entries : List (String × Node))
  /-- Tables with a header in double brackets each, in their order. -/
  | tables (items : List (List (String × Node)))

/-- The entries of a table that is put together. -/
abbrev Nodes := List (String × Node)

/-- Changes what stands under a name, which may be nothing; none if the change is refused. -/
def alter (name : String) (change : Option Node → Option Node) : Nodes → Option Nodes
  | [] => (change none).map fun node => [(name, node)]
  | (other, node) :: rest =>
    if other = name then (change (some node)).map fun node => (other, node) :: rest
    else (alter name change rest).map ((other, node) :: ·)

/-- Changes the last of some items. -/
def alterLast (change : α → Option α) : List α → Option (List α)
  | [] => none
  | [a] => (change a).map ([·])
  | a :: b :: rest => (alterLast change (b :: rest)).map (a :: ·)

/-- Changes the entries of the table at a path; the change also learns how that table came about. On
the way, tables arise that are not there yet, and of several tables the last one is entered. The
flag says whether the path belongs to a dotted key. -/
def alterAt (isDotted : Bool) (change : Origin → Nodes → Option Nodes) :
    List String → Origin → Nodes → Option Nodes
  | [], origin, entries => change origin entries
  | name :: path, _, entries => alter name (fun
    | none =>
      let origin := if isDotted then Origin.dotted else Origin.implied
      (alterAt isDotted change path origin []).map (.table origin)
    | some (.value _) => none
    | some (.tables items) =>
      (alterLast (alterAt isDotted change path .stated) items).map .tables
    | some (.table origin below) =>
      if isDotted && origin == .stated then none
      else (alterAt isDotted change path origin below).map (.table origin)) entries

/-- Puts a pair into a table. The last name must be new, and a dotted key must end in a table that
dotted keys made. -/
def insertPair (pair : Key × Value) (entries : Nodes) : Option Nodes :=
  let (key, value) := pair
  alterAt true (fun origin entries =>
    if key.path.isEmpty || origin == .dotted then
      alter key.name (fun held => if held.isNone then some (.value value) else none) entries
    else none) key.path .stated entries

/-- Makes the table of a header. -/
def openTable (key : Key) : Nodes → Option Nodes :=
  alterAt false (fun _ => alter key.name fun
    | none => some (.table .stated [])
    | some (.table .implied entries) => some (.table .stated entries)
    | some _ => none) key.path .stated

/-- Makes one more table of a header in double brackets. -/
def addTable (key : Key) : Nodes → Option Nodes :=
  alterAt false (fun _ => alter key.name fun
    | none => some (.tables [[]])
    | some (.tables items) => some (.tables (items ++ [[]]))
    | some _ => none) key.path .stated

/-- Puts a pair into the table of the given header. -/
def insertBelow (header : List String) (pair : Key × Value) : Nodes → Option Nodes :=
  alterAt false (fun _ => insertPair pair) header .stated

mutual

/-- What was put together under a name. -/
def Node.toValue : Node → Value
  | .value value => value
  | .table _ entries => .table (toEntries entries)
  | .tables items => .list (toTables items)

def toEntries : Nodes → Entries
  | [] => []
  | (name, node) :: rest => (name, node.toValue) :: toEntries rest

def toTables : List Nodes → List Value
  | [] => []
  | entries :: rest => .table (toEntries entries) :: toTables rest

end

/-- The table of the given pairs, if they fit together. -/
def Entries.ofPairs? (pairs : List (Key × Value)) : Option Entries :=
  (pairs.foldlM (fun entries pair => insertPair pair entries) []).map toEntries

end Heartbeat.Toml
