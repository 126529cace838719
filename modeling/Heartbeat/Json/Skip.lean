import Heartbeat.Json.Number
import Heartbeat.Json.Text
/-!
# Skipping a JSON value

A value nobody asked for is checked for syntax only: any depth, any number, any code units. The
open lists and objects around the place are a stack, and two moves alternate: `skipValue` passes
one value or opens a container, `skipAfter` goes on after a value, closing what closes.
-/
namespace Heartbeat.Json

inductive Container where
  | list
  | object
  deriving DecidableEq, Repr

/-- What the bytes of a skipped string so far have begun: the digits still owed to an escape. -/
inductive SkippedString where
  | plain
  | escape
  | unit (digits : Bytes)
  deriving DecidableEq, Repr

/-- Passes a string up to its closing quote. -/
def skipString : SkippedString → Bytes → Except Fault Bytes
  | _, [] => .error (.before .endOfString [])
  | .plain, b :: rest =>
    if b = 0x22 then .ok rest
    else if b = 0x5C then skipString .escape rest
    else if b < 0x20 then .error (.before .controlCharacter (b :: rest))
    else skipString .plain rest
  | .escape, b :: rest =>
    if b = 0x75 then skipString (.unit []) rest
    else match escapeByte? b with
      | some _ => skipString .plain rest
      | none => .error (.before .invalidEscape rest)
  | .unit digits, b :: rest =>
    if digits.length < 3 then skipString (.unit (b :: digits)) rest
    else match hexNumber? (b :: digits) with
      | some _ => skipString .plain rest
      | none => .error (.before .invalidEscape rest)

/-- Passes what follows the letter of an exponent. -/
def skipExponent (text : Bytes) : Except Fault Bytes :=
  let text := match text with
    | 0x2B :: rest | 0x2D :: rest => rest
    | _ => text
  match text with
  | b :: rest =>
    if isDigit b then .ok (rest.dropWhile isDigit) else .error (.before .invalidNumber rest)
  | [] => .error (.before .invalidNumber [])

/-- Passes what follows the digits before a point. -/
def skipAfterDigits (text : Bytes) : Except Fault Bytes :=
  match text with
  | 0x2E :: rest =>
    let more := rest.dropWhile isDigit
    if (rest.head?.map isDigit).getD false then
      match more with
      | 0x65 :: more | 0x45 :: more => skipExponent more
      | _ => .ok more
    else .error (.onNext .invalidNumber rest)
  | 0x65 :: rest | 0x45 :: rest => skipExponent rest
  | _ => .ok text

/-- Passes a number whose sign has been read. -/
def skipNumber (text : Bytes) : Except Fault Bytes :=
  match text with
  | b :: rest =>
    if b = 0x30 then
      if (rest.head?.map isDigit).getD false then .error (.onNext .invalidNumber rest)
      else skipAfterDigits rest
    else if isDigit b then skipAfterDigits (rest.dropWhile isDigit)
    else .error (.before .invalidNumber rest)
  | [] => .error (.before .invalidNumber [])

/-- Passes the key of a member and the colon after it. -/
def skipKey (text : Bytes) : Except Fault Bytes :=
  match skipBlanks text with
  | 0x22 :: rest => do
    match skipBlanks (← skipString .plain rest) with
    | 0x3A :: rest => .ok rest
    | [] => .error (.onNext .endOfObject [])
    | rest => .error (.onNext .expectedColon rest)
  | [] => .error (.onNext .endOfObject [])
  | rest => .error (.onNext .keyNotString rest)

/-- What to do inside a container: its next member or item starts, or it is closed. -/
def skipInto (container : Container) (text : Bytes) : Except Fault Bytes :=
  match container with
  | .list => .ok text
  | .object => skipKey text

/-- What `skipValue` finds at the front of a text. -/
inductive Passed where
  | value (rest : Bytes)
  | opened (container : Container) (rest : Bytes)
  deriving DecidableEq, Repr

/-- Passes one value that holds no other, or the bracket that opens a container. -/
def skipToken (text : Bytes) : Except Fault Passed :=
  match skipBlanks text with
  | [] => .error (.onNext .endOfValue [])
  | b :: rest =>
    if b = 0x22 then .value <$> skipString .plain rest
    else if b = 0x5B then .ok (.opened .list rest)
    else if b = 0x7B then .ok (.opened .object rest)
    else if b = 0x6E then .value <$> word [0x75, 0x6C, 0x6C] rest
    else if b = 0x74 then .value <$> word [0x72, 0x75, 0x65] rest
    else if b = 0x66 then .value <$> word [0x61, 0x6C, 0x73, 0x65] rest
    else if b = 0x2D then .value <$> skipNumber rest
    else if isDigit b then .value <$> skipNumber (b :: rest)
    else .error (.onNext .expectedValue (b :: rest))

def closes (b : UInt8) : Container → Bool
  | .list => b == 0x5D
  | .object => b == 0x7D

mutual

/-- Passes a value inside the open containers, innermost first, and then what is left of them. The
first number bounds the moves. -/
def skipValue : Nat → List Container → Bytes → Except Fault Bytes
  | 0, _, text => .error (.onNext .endOfValue text)
  | fuel + 1, enclosing, text => do
    match ← skipToken text with
    | .value rest => skipAfter fuel true enclosing rest
    | .opened container rest => skipAfter fuel false (container :: enclosing) rest

/-- Goes on inside the open containers after a value (`comma`) or after an opening bracket. -/
def skipAfter : Nat → Bool → List Container → Bytes → Except Fault Bytes
  | _, _, [], text => .ok text
  | 0, _, _, text => .error (.onNext .endOfValue text)
  | fuel + 1, comma, container :: outer, text =>
    match skipBlanks text with
    | [] => .error (.onNext (match container with | .list => .endOfList | .object => .endOfObject) [])
    | b :: rest =>
      if closes b container then skipAfter fuel true outer rest
      else if comma then
        if b = 0x2C then do skipValue fuel (container :: outer) (← skipInto container rest)
        else .error (.onNext (match container with
          | .list => .expectedListCommaOrEnd
          | .object => .expectedObjectCommaOrEnd) (b :: rest))
      else do skipValue fuel (container :: outer) (← skipInto container (b :: rest))

end

def skip (text : Bytes) : Except Fault Bytes := skipValue (2 * text.length + 2) [] text

end Heartbeat.Json
