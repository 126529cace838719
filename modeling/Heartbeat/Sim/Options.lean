import Heartbeat.Text.Count
/-!
# The simulator's command line

Four options with a value each, given at most once: `--name value` or `--name=value`. A value that
stands on its own does not start with a dash, unless it is nothing else. It is only looked at when the
next option comes, or at the end; so of two faults, one that shows in the form of the words can come
before one in a value.
-/
namespace Heartbeat.Sim

/-- What the simulator is told. -/
structure Options where
  url : String := "http://localhost:8082/healthcheck"
  hosts : UInt32 := 100
  perTick : UInt64 := 10
  intervalSecs : UInt64 := 15
  deriving DecidableEq, Repr

/-- Why a command line gives no options. -/
inductive OptionFault where
  /-- A word that is no option, and no value of one. -/
  | unknown
  /-- An option without its value. -/
  | missingValue
  /-- A value for an option that has none. -/
  | needlessValue
  | repeated
  | badValue
  /-- The options are asked for. -/
  | help
  deriving DecidableEq, Repr

inductive OptionName where
  | url
  | hosts
  | perTick
  | intervalSecs
  deriving DecidableEq, Repr

/-- How an option is written, without the dashes. -/
def OptionName.word : OptionName → String
  | .url => "url"
  | .hosts => "hosts"
  | .perTick => "per-tick"
  | .intervalSecs => "interval-secs"

/-- The option that is written so. -/
def OptionName.ofWord? (word : String) : Option OptionName :=
  [OptionName.url, .hosts, .perTick, .intervalSecs].find? (·.word == word)

/-- Reads a number of hosts: like a count, but zero may have a minus sign. -/
def readHosts (text : String) : Option UInt32 :=
  let digits := match text.toList with
    | '-' :: c :: rest => if (c :: rest).all (· == '0') then String.ofList (c :: rest) else text
    | _ => text
  match Text.readCount digits with
  | .ok n => if n.toNat < 4294967296 then some (.ofNat n.toNat) else none
  | .error _ => none

/-- The options after one has been given a value; none if it cannot have that value. -/
def Options.set (o : Options) (name : OptionName) (value : String) : Option Options :=
  match name with
  | .url => some { o with url := value }
  | .hosts => (readHosts value).map fun n => { o with hosts := n }
  | .perTick => (Text.readCount value).toOption.map fun n => { o with perTick := n }
  | .intervalSecs => (Text.readCount value).toOption.map fun n => { o with intervalSecs := n }

/-- How far a command line has been read. -/
structure OptionReader where
  options : Options := {}
  seen : List OptionName := []
  /-- An option whose value is not looked at yet, and the value if it has come. -/
  pending : Option (OptionName × Option String) := none

namespace OptionReader

/-- Gives an option its value. -/
def assign (r : OptionReader) (name : OptionName) (value : String) :
    Except OptionFault OptionReader :=
  if name ∈ r.seen then .error .repeated
  else match r.options.set name value with
    | some options => .ok { r with options, seen := name :: r.seen }
    | none => .error .badValue

/-- Looks at the value that waits, if there is one. -/
def settle (r : OptionReader) : Except OptionFault OptionReader :=
  match r.pending with
  | none => .ok r
  | some (_, none) => .error .missingValue
  | some (name, some value) => assign { r with pending := none } name value

/-- Reads what follows the two dashes of a word. -/
def readLong (r : OptionReader) (word : List Char) : Except OptionFault OptionReader := do
  let name := String.ofList (word.takeWhile (· != '='))
  let value := match word.dropWhile (· != '=') with
    | _ :: value => some (String.ofList value)
    | [] => none
  match OptionName.ofWord? name, value with
  | some name, some value => (← r.settle).assign name value
  | some name, none => return { ← r.settle with pending := some (name, none) }
  | none, value =>
    if name != "help" then throw .unknown
    else if value.isSome then throw .needlessValue
    else
      let _ ← r.settle
      throw .help

/-- Reads what follows the one dash of a word: options of one letter, of which there is one, for
help. -/
def readShort (r : OptionReader) (word : List Char) : Except OptionFault OptionReader := do
  if word.head? = some 'h' then
    let _ ← r.settle
    throw .help
  else throw .unknown

/-- Reads a word that is no option. -/
def readValue (r : OptionReader) (word : String) : Except OptionFault OptionReader :=
  match r.pending with
  | some (name, none) => .ok { r with pending := some (name, some word) }
  | _ => .error .unknown

/-- Reads the words of a command line. After two dashes there may be no more words. -/
def readWords : List String → OptionReader → Except OptionFault OptionReader
  | [], r => r.settle
  | word :: rest, r => do
    match word.toList with
    | ['-', '-'] => if rest.isEmpty then r.settle else throw .unknown
    | '-' :: '-' :: long => readWords rest (← r.readLong long)
    | '-' :: c :: short => readWords rest (← r.readShort (c :: short))
    | _ => readWords rest (← r.readValue word)

end OptionReader

def Options.parse (words : List String) : Except OptionFault Options :=
  (OptionReader.readWords words {}).map (·.options)

/-- What is wrong with numbers that no simulator can work with; none if nothing is. -/
def Options.complaint? (o : Options) : Option String :=
  if o.hosts = 0 then some "--hosts must be at least 1"
  else if o.intervalSecs = 0 then some "--interval-secs must be at least 1"
  else none

end Heartbeat.Sim
