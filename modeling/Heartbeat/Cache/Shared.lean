/-!
# The shared cache

The cache of several daemons is a key-value server. A read and a write are one command each; the
life of an entry is given in whole seconds and is at least one. The address of the server can hold
a password, which `redact` takes out before the address is shown.
-/
namespace Heartbeat.Cache

inductive ServerCommand where
  | get (key : String)
  | setex (key : String) (seconds : Nat) (value : String)
  deriving DecidableEq, Repr

def ServerCommand.words : ServerCommand → List String
  | .get key => ["GET", key]
  | .setex key seconds value => ["SETEX", key, toString seconds, value]

/-- The command that writes an entry with a life in milliseconds. -/
def writeCommand (key value : String) (ttlMillis : Nat) : ServerCommand :=
  .setex key (max 1 (ttlMillis / 1000)) value

structure Server where
  entries : List (String × String) := []
  /-- Whether it answers every command with an error. -/
  failing : Bool := false
  deriving DecidableEq, Repr

/-- The server's answer to a command; none if it is an error. -/
def Server.run (s : Server) : ServerCommand → Option (Option String) × Server
  | .get key => if s.failing then (none, s) else (some (s.entries.lookup key), s)
  | .setex key _ value =>
    if s.failing then (none, s)
    else (some none, { s with entries := (key, value) :: s.entries })

/-! ## Redaction -/

/-- How many characters stand before the first `://`, if there is one. -/
def schemeLength : List Char → Option Nat
  | [] => none
  | c :: rest =>
    if ['/', '/'].isPrefixOf rest && c == ':' then some 0 else (schemeLength rest).map (· + 1)

/-- What of an address is left when the password is taken out: everything up to the last colon
before the first `@`, three stars, and everything from that `@` on. A colon of the scheme is not
one that a password follows. -/
def redactChars (chars : List Char) : List Char :=
  let start := match schemeLength chars with
    | some n => n + 3
    | none => 0
  let before := chars.takeWhile (· != '@')
  let after := chars.dropWhile (· != '@')
  if after.isEmpty then chars
  else
    let kept := (before.reverse.dropWhile (· != ':')).reverse
    if kept.isEmpty || kept.length ≤ start then chars
    else kept ++ ['*', '*', '*'] ++ after

def redact (url : String) : String := String.ofList (redactChars url.toList)

end Heartbeat.Cache
