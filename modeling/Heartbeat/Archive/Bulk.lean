import Heartbeat.Record
/-!
# Bulk calls to the index

A bulk call sends a batch of items as pairs of lines, an action that creates a document and the
document. The response lists results in the order of the items; `outcomes` pairs them up, so that
every item has one outcome whatever the response holds.
-/
namespace Heartbeat.Archive

open Json (Value Shape Field Layout)

/-- A document queued for the index under an id of its own. -/
structure Item where
  id : String
  document : Document
  deriving DecidableEq, Repr

/-- What became of an item. -/
inductive Outcome where
  | created (id : String)
  | failed (id : String) (reason : String)
  deriving DecidableEq, Repr

def actionLine (index id : String) : String :=
  (Value.object [("create", .object [("_id", .text id), ("_index", .text index)])]).render

/-- The body of a bulk call: every line ends with a newline. -/
def bulkBody (index : String) (items : List Item) : String :=
  String.join (items.map fun item =>
    actionLine index item.id ++ "\n" ++ item.document.render ++ "\n")

structure ItemResult where
  id : Option String
  status : UInt16
  error : Option Value

structure ItemResult.Draft where
  id : Option (Option String) := none
  status : Option UInt16 := none
  error : Option (Option Value) := none

def ItemResult.layout : Layout ItemResult.Draft ItemResult :=
  { name := "BulkItemResult"
    fields := [
      .ofShape "_id" (.optional .text) Draft.id fun d id => { d with id := some id },
      .ofShape "status" .uint16 Draft.status fun d status => { d with status := some status },
      .defaulted <|
        .ofShape "error" (.optional .any) Draft.error fun d error => { d with error := some error }]
    empty := {}
    build := fun d => do
      return {
        id := d.id.getD none
        status := ← required "status" d.status
        error := d.error.getD none } }

/-- An entry of a response: results by the names of their actions. -/
abbrev Entry := List (String × ItemResult)

structure Response where
  entries : List Entry

structure Response.Draft where
  entries : Option (List Entry) := none

def Response.layout : Layout Response.Draft Response :=
  { name := "BulkResponse"
    fields := [
      .defaulted <|
        .ofShape "items" (.list (.mapping ItemResult.layout.shape)) Draft.entries
          fun d entries => { d with entries := some entries }]
    empty := {}
    build := fun d => .ok ⟨d.entries.getD []⟩ }

def Response.parse (body : Bytes) : Except Json.ReadError Response :=
  Response.layout.shape.parse body

/-- Why an item failed, from the status and the error of its result. -/
def failureReason (status : UInt16) (error : Option Value) : String :=
  let part (name : String) : Option String := ((error.bind (·.member? name))).bind Value.text?
  let code := toString status.toNat
  match part "type", part "reason" with
  | some kind, some reason => kind ++ " (" ++ code ++ "): " ++ reason
  | some kind, none => kind ++ " (" ++ code ++ ")"
  | none, _ => "status " ++ code

def outcome (id : String) (entry : Option Entry) : Outcome :=
  match entry.bind (·.lookup "create") with
  | none => .failed id "missing from bulk response"
  | some result =>
    if 200 ≤ result.status.toNat ∧ result.status.toNat < 300 ∧ result.error.isNone then
      .created (result.id.getD id)
    else .failed id (failureReason result.status result.error)

/-- One outcome for each id, in order. -/
def outcomesOf : List String → List Entry → List Outcome
  | [], _ => []
  | id :: ids, [] => outcome id none :: outcomesOf ids []
  | id :: ids, entry :: entries => outcome id (some entry) :: outcomesOf ids entries

/-- One outcome for each item, in order. -/
def outcomes (items : List Item) (response : Response) : List Outcome :=
  outcomesOf (items.map (·.id)) response.entries

end Heartbeat.Archive
