import Heartbeat.Json.Skip
import Heartbeat.Json.Value
/-!
# Reading JSON as values of a type

A `Shape` says how a type is read, from text and from a value that has been read before. The shapes
here are those of integers, texts, options, lists, mappings, named constants and records; a record
is an object with its fields in any order, or a list of them in the order of their declaration.

Every reader takes the number of containers that may still be opened: a value that is kept must
not nest deeper than `maxDepth` allows.
-/
namespace Heartbeat.Json

/-- How many levels of containers a kept value stays below. -/
def maxDepth : Nat := 128

/-- How values of a type are read. -/
structure Shape (α : Type) where
  /-- From text, with the levels that are left. -/
  read : Nat → Reader α
  /-- From a value. -/
  ofValue : Value → Except Cause α

/-- Reads a whole text as a value of the shape. -/
def Shape.parse (shape : Shape α) (text : Bytes) : Except ReadError α :=
  readAll (shape.read maxDepth) text

/-! ## Containers -/

/-- The levels that are left inside a container that opens at the front of the text. -/
def enter (depth : Nat) (text : Bytes) : Except Fault Nat :=
  if depth ≤ 1 then .error (.onNext .tooDeep text) else .ok (depth - 1)

/-- Where a container goes on: with something at the front of `rest`, or with its end there. -/
inductive Next where
  | more (rest : Bytes)
  | done (rest : Bytes)
  deriving DecidableEq, Repr

/-- Looks for the next item of a list. -/
def nextItem (first : Bool) (text : Bytes) : Except Fault Next :=
  match skipBlanks text with
  | [] => .error (.onNext .endOfList [])
  | b :: rest =>
    if b = 0x5D then .ok (.done (b :: rest))
    else if first then .ok (.more (b :: rest))
    else if b = 0x2C then
      match skipBlanks rest with
      | [] => .error (.onNext .endOfValue [])
      | c :: rest => if c = 0x5D then .error (.onNext .trailingComma (c :: rest)) else .ok (.more (c :: rest))
    else .error (.onNext .expectedListCommaOrEnd (b :: rest))

/-- Looks for the next member of an object; what is found lies behind the opening quote. -/
def nextKey (first : Bool) (text : Bytes) : Except Fault Next :=
  match skipBlanks text with
  | [] => .error (.onNext .endOfObject [])
  | b :: rest =>
    if b = 0x7D then .ok (.done (b :: rest))
    else if first then
      if b = 0x22 then .ok (.more rest) else .error (.onNext .keyNotString (b :: rest))
    else if b = 0x2C then
      match skipBlanks rest with
      | [] => .error (.onNext .endOfValue [])
      | c :: rest =>
        if c = 0x22 then .ok (.more rest)
        else if c = 0x7D then .error (.onNext .trailingComma (c :: rest))
        else .error (.onNext .keyNotString (c :: rest))
    else .error (.onNext .expectedObjectCommaOrEnd (b :: rest))

def colon (text : Bytes) : Except Fault Bytes :=
  match skipBlanks text with
  | [] => .error (.onNext .endOfObject [])
  | b :: rest => if b = 0x3A then .ok rest else .error (.onNext .expectedColon (b :: rest))

/-- Passes the end of a list none of whose further items is wanted. -/
def closeList (text : Bytes) : Except Fault Bytes :=
  match skipBlanks text with
  | [] => .error (.onNext .endOfList [])
  | b :: rest =>
    if b = 0x5D then .ok rest
    else if b = 0x2C then
      match skipBlanks rest with
      | [] => .error (.onNext .trailingCharacters [])
      | c :: rest =>
        .error (.onNext (if c = 0x5D then .trailingComma else .trailingCharacters) (c :: rest))
    else .error (.onNext .trailingCharacters (b :: rest))

/-- What lies behind an object's end, if the end is next. -/
def behindObject (text : Bytes) : Bytes :=
  match skipBlanks text with
  | [] => []
  | b :: rest => if b = 0x7D then rest else b :: rest

/-- Reads the items of a list up to its bracket. The first number bounds the items. -/
def itemsFrom (item : σ → Reader σ) : Nat → Bool → σ → Reader σ
  | 0, _, _, text => .error (.onNext .endOfList text)
  | fuel + 1, first, state, text => do
    match ← nextItem first text with
    | .done rest => return (state, rest)
    | .more rest =>
      let (state, rest) ← item state rest
      itemsFrom item fuel false state rest

/-- Reads the members of an object up to its brace. The first number bounds the members. -/
def membersFrom (member : String → σ → Reader σ) : Nat → Bool → σ → Reader σ
  | 0, _, _, text => .error (.onNext .endOfObject text)
  | fuel + 1, first, state, text => do
    match ← nextKey first text with
    | .done rest => return (state, rest)
    | .more rest =>
      let (name, rest) ← stringBody rest
      let (state, rest) ← member name state rest
      membersFrom member fuel false state rest

/-- Reads all items of a list whose bracket has been passed, and the closing bracket. -/
def items (item : σ → Reader σ) (state : σ) : Reader σ := fun text => do
  let (state, rest) ← itemsFrom item (text.length + 1) true state text
  return (state, rest.tail)

/-- Reads all members of an object whose brace has been passed, up to the closing brace. -/
def members (member : String → σ → Reader σ) (state : σ) : Reader σ := fun text =>
  membersFrom member (text.length + 1) true state text

/-! ## Values of any kind -/

def value : Nat → Reader Value
  | 0, text => .error (.onNext .tooDeep text)
  | depth + 1, text =>
    let text := skipBlanks text
    match text with
    | [] => .error (.onNext .endOfValue [])
    | b :: rest =>
      if b = 0x22 then do
        let (text, rest) ← stringBody rest
        return (.text text, rest)
      else if b = 0x5B then do
        let _ ← enter (depth + 1) text
        let (reversed, rest) ← items
          (fun held text => do
            let (item, rest) ← value depth text
            return (item :: held, rest)) [] rest
        return (.list reversed.reverse, rest)
      else if b = 0x7B then do
        let _ ← enter (depth + 1) text
        let (held, rest) ← members
          (fun name held text => do
            let (item, rest) ← value depth (← colon text)
            return (insertMember name item held, rest)) [] rest
        return (.object held, rest.tail)
      else if b = 0x6E then do return (.null, ← word [0x75, 0x6C, 0x6C] rest)
      else if b = 0x74 then do return (.boolean true, ← word [0x72, 0x75, 0x65] rest)
      else if b = 0x66 then do return (.boolean false, ← word [0x61, 0x6C, 0x73, 0x65] rest)
      else match number? text with
        | some result => do
          let (number, rest) ← result
          return (.number number, rest)
        | none => .error (.onNext .expectedValue text)

def Shape.any : Shape Value := ⟨value, .ok⟩

def Value.parse (text : Bytes) : Except ReadError Value := Shape.any.parse text

/-! ## Plain types -/

/-- What is wrong with a text that starts something other than what was expected. A fault of its
syntax comes first. -/
def mismatch (expected : String) (text : Bytes) : Fault :=
  match text with
  | [] => .onNext .endOfValue []
  | b :: rest =>
    let after (found : Found) : Except Fault Bytes → Fault
      | .ok rest => .before (.wrongType found expected) rest
      | .error fault => fault
    if b = 0x6E then after .null (word [0x75, 0x6C, 0x6C] rest)
    else if b = 0x74 then after (.boolean true) (word [0x72, 0x75, 0x65] rest)
    else if b = 0x66 then after (.boolean false) (word [0x61, 0x6C, 0x73, 0x65] rest)
    else if b = 0x22 then
      match stringBody rest with
      | .ok (value, rest) => after (.text value) (.ok rest)
      | .error fault => fault
    else if b = 0x5B then .before (.wrongType .list expected) text
    else if b = 0x7B then .before (.wrongType .object expected) text
    else match number? text with
      | some (.ok (number, rest)) => after number.found (.ok rest)
      | some (.error fault) => fault
      | none => .onNext .expectedValue text

/-- Integers of a type into which only some numbers fit. -/
def Shape.integer (expected : String) (fit? : Int → Option α) : Shape α :=
  let ofNumber (number : Number) : Except Cause α :=
    match number with
    | .integer n => match fit? n with
      | some a => .ok a
      | none => .error (.wrongValue (.integer n) expected)
    | .double x => .error (.wrongType (.float x) expected)
  { read := fun _ text =>
      let text := skipBlanks text
      match number? text with
      | some result => do
        let (number, rest) ← result
        match ofNumber number with
        | .ok a => return (a, rest)
        | .error cause => .error (.before cause rest)
      | none => .error (mismatch expected text)
    ofValue := fun value =>
      match value with
      | .number number => ofNumber number
      | other => .error (.wrongType other.found expected) }

/-- Texts that a type reads further, with the reason if it cannot. -/
def Shape.textual (expected : String) (interpret : String → Except String α) : Shape α :=
  let ofText (text : String) : Except Cause α := (interpret text).mapError .unreadable
  { read := fun _ text =>
      let text := skipBlanks text
      match text with
      | 0x22 :: rest => do
        let (value, rest) ← stringBody rest
        match ofText value with
        | .ok a => return (a, rest)
        | .error cause => .error (.before cause rest)
      | _ => .error (mismatch expected text)
    ofValue := fun value =>
      match value with
      | .text value => ofText value
      | other => .error (.wrongType other.found expected) }

def Shape.text : Shape String := .textual "a string" .ok

/-- A value that may be null. -/
def Shape.optional (shape : Shape α) : Shape (Option α) :=
  { read := fun depth text =>
      match skipBlanks text with
      | 0x6E :: rest => do return (none, ← word [0x75, 0x6C, 0x6C] rest)
      | text => do
        let (a, rest) ← shape.read depth text
        return (some a, rest)
    ofValue := fun value =>
      match value with
      | .null => .ok none
      | other => some <$> shape.ofValue other }

def Shape.unit : Shape Unit :=
  { read := fun _ text =>
      match skipBlanks text with
      | 0x6E :: rest => do return ((), ← word [0x75, 0x6C, 0x6C] rest)
      | text => .error (mismatch "unit" text)
    ofValue := fun value =>
      match value with
      | .null => .ok ()
      | other => .error (.wrongType other.found "unit") }

def Shape.list (shape : Shape α) : Shape (List α) :=
  { read := fun depth text =>
      let text := skipBlanks text
      match text with
      | 0x5B :: rest => do
        let inner ← enter depth text
        let (reversed, rest) ← items
          (fun held text => do
            let (a, rest) ← shape.read inner text
            return (a :: held, rest)) [] rest
        return (reversed.reverse, rest)
      | _ => .error (mismatch "a sequence" text)
    ofValue := fun value =>
      match value with
      | .list items => items.mapM shape.ofValue
      | other => .error (.wrongType other.found "a sequence") }

/-- Objects with any names: one entry per name, the last one written, in the order of names. -/
def Shape.mapping (shape : Shape α) : Shape (List (String × α)) :=
  { read := fun depth text =>
      let text := skipBlanks text
      match text with
      | 0x7B :: rest => do
        let inner ← enter depth text
        let (held, rest) ← members
          (fun name held text => do
            let (a, rest) ← shape.read inner (← colon text)
            return (insertMember name a held, rest)) [] rest
        return (held, rest.tail)
      | _ => .error (mismatch "a map" text)
    ofValue := fun value =>
      match value with
      | .object members => members.mapM fun (name, value) => do return (name, ← shape.ofValue value)
      | other => .error (.wrongType other.found "a map") }

/-! ## Named constants -/

/-- One of several names: the text of the name, or an object with the name and null. -/
def Shape.variant (known : List (String × α)) : Shape α :=
  let find (name : String) : Except Cause α :=
    match known.lookup name with
    | some a => .ok a
    | none => .error (.unknownVariant name (known.map (·.1)))
  let named : Reader α := fun text => do
    let (name, rest) ← stringBody text
    match find name with
    | .ok a => return (a, rest)
    | .error cause => .error (.before cause rest)
  let key : Reader α := fun text =>
    let text := skipBlanks text
    match text with
    | [] => .error (.onNext .endOfValue [])
    | b :: rest =>
      if b = 0x22 then named rest
      else .error (.onNext (if b = 0x7D then .expectedValue else .keyNotString) text)
  { read := fun depth text =>
      let text := skipBlanks text
      match text with
      | [] => .error (.onNext .endOfValue [])
      | b :: rest =>
        if b = 0x22 then named rest
        else if b = 0x7B then do
          let inner ← enter depth text
          let (a, rest) ← key rest
          let ((), rest) ← Shape.unit.read inner (← colon rest)
          match skipBlanks rest with
          | [] => .error (.before .endOfObject [])
          | c :: rest =>
            if c = 0x7D then return (a, rest) else .error (.before .expectedValue (c :: rest))
        else .error (.onNext .expectedValue text)
    ofValue := fun value =>
      match value with
      | .text name => find name
      | .object [(name, content)] => do
        let a ← find name
        Shape.unit.ofValue content
        return a
      | .object _ => .error (.wrongValue .object "map with a single key")
      | other => .error (.wrongType other.found "string or map") }

/-! ## Records -/

/-- One field of a record that is gathered in a draft `σ`. -/
structure Field (σ : Type) where
  name : String
  /-- Whether the draft has it. -/
  isSet : σ → Bool
  /-- Reads it into the draft. -/
  read : Nat → σ → Reader σ
  ofValue : σ → Value → Except Cause σ
  /-- Whether a list of the fields may end before it. -/
  mayEnd : Bool

/-- A field of the given shape. -/
def Field.ofShape (name : String) (shape : Shape β) (get : σ → Option β) (set : σ → β → σ) :
    Field σ :=
  { name
    isSet := fun draft => (get draft).isSome
    read := fun depth draft text => do
      let (b, rest) ← shape.read depth text
      return (set draft b, rest)
    ofValue := fun draft value => set draft <$> shape.ofValue value
    mayEnd := false }

def Field.defaulted (field : Field σ) : Field σ := { field with mayEnd := true }

/-- A record: its fields in the order of their declaration, and how it is made of a draft. -/
structure Layout (σ α : Type) where
  name : String
  fields : List (Field σ)
  empty : σ
  /-- The record, or the first field that is missing. -/
  build : σ → Except String α

namespace Layout

def field? (layout : Layout σ α) (name : String) : Option (Field σ) :=
  layout.fields.find? (·.name == name)

/-- What was expected of a list of fields. -/
def listing (layout : Layout σ α) : String :=
  "struct " ++ layout.name ++ " with " ++ toString layout.fields.length ++
    (if layout.fields.length = 1 then " element" else " elements")

/-- Reads what follows a name in an object: a field that is not set yet, or anything else. -/
def member (layout : Layout σ α) (depth : Nat) (name : String) (draft : σ) : Reader σ :=
  fun text =>
    match layout.field? name with
    | none => do return (draft, ← skip (← colon text))
    | some field =>
      if field.isSet draft then .error (.before (.duplicateField name) (behindObject text))
      else do field.read depth draft (← colon text)

/-- Reads fields from a list in their order, as far as it goes. -/
def positional (layout : Layout σ α) (depth : Nat) : List (Field σ) → Nat → Bool → σ → Reader σ
  | [], _, _, draft, text => .ok (draft, text)
  | field :: fields, index, first, draft, text => do
    match ← nextItem first text with
    | .done rest =>
      if field.mayEnd then layout.positional depth fields (index + 1) first draft rest
      else .error (.before (.wrongLength index layout.listing) rest.tail)
    | .more rest =>
      let (draft, rest) ← field.read depth draft rest
      layout.positional depth fields (index + 1) false draft rest

/-- The record of a draft, with the place behind the record at hand. -/
def finish (layout : Layout σ α) (draft : σ) : Reader α := fun rest =>
  match layout.build draft with
  | .ok record => .ok (record, rest)
  | .error name => .error (.before (.missingField name) rest)

def read (layout : Layout σ α) (depth : Nat) : Reader α := fun text =>
  let text := skipBlanks text
  match text with
  | [] => .error (.onNext .endOfValue [])
  | b :: rest =>
    if b = 0x7B then do
      let inner ← enter depth text
      let (draft, rest) ← members (layout.member inner) layout.empty rest
      layout.finish draft rest.tail
    else if b = 0x5B then do
      let inner ← enter depth text
      let (draft, rest) ← layout.positional inner layout.fields 0 true layout.empty rest
      layout.finish draft (← closeList rest)
    else .error (mismatch ("struct " ++ layout.name) text)

/-- Fills the draft from the values of a list, in the order of the fields. -/
def positionalValues (layout : Layout σ α) : List (Field σ) → List Value → Nat → σ → Except Cause σ
  | [], _, _, draft => .ok draft
  | field :: fields, [], index, draft =>
    if field.mayEnd then layout.positionalValues fields [] (index + 1) draft
    else .error (.wrongLength index layout.listing)
  | field :: fields, value :: values, index, draft => do
    layout.positionalValues fields values (index + 1) (← field.ofValue draft value)

def ofValue (layout : Layout σ α) (value : Value) : Except Cause α := do
  let build (draft : σ) : Except Cause α := (layout.build draft).mapError .missingField
  match value with
  | .object members =>
    let draft ← members.foldlM
      (fun draft (name, value) => match layout.field? name with
        | some field => field.ofValue draft value
        | none => .ok draft) layout.empty
    build draft
  | .list values =>
    let draft ← layout.positionalValues layout.fields values 0 layout.empty
    if layout.fields.length < values.length then
      .error (.wrongLength values.length "fewer elements in array")
    else build draft
  | other => .error (.wrongType other.found ("struct " ++ layout.name))

def shape (layout : Layout σ α) : Shape α := ⟨layout.read, layout.ofValue⟩

end Layout
end Heartbeat.Json
