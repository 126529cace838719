import Heartbeat.Archive.Bulk
import Heartbeat.Http.Exchange
/-!
# The index

A search index that takes documents over HTTP. This module says which requests are sent to it and
what their outcomes mean: a batch has one outcome per item, or is lost as a whole.
-/
namespace Heartbeat.Archive

/-- Where the index is and how it is addressed. -/
structure Index where
  url : String
  name : String
  apiKey : Option String := none
  deriving DecidableEq, Repr

/-- Why a batch was lost, or the index did not answer a ping. -/
inductive IndexFault where
  | request (fault : Http.RequestFault)
  | rejected (code : Nat) (body : String)
  deriving DecidableEq, Repr

def IndexFault.message : IndexFault → String
  | .request _ => "index request failed"
  | .rejected code body =>
    "index rejected request with status " ++ toString code ++ ": " ++ body

namespace Index

def base (index : Index) : String :=
  String.ofList (index.url.toList.reverse.dropWhile (· == '/')).reverse

def authorization (index : Index) : Option String := index.apiKey.map ("ApiKey " ++ ·)

/-- A request, if its headers can be built. -/
def request (index : Index) (method path : String) (contentType : Option String) (body : String) :
    Except IndexFault Http.Outgoing :=
  let authorization := index.authorization
  if (authorization.map Http.isHeaderText).getD true then
    .ok { method, path := index.base ++ path, authorization, contentType, body }
  else .error (.request .builder)

def pingRequest (index : Index) : Except IndexFault Http.Outgoing := index.request "GET" "/" none ""

def bulkRequest (index : Index) (items : List Item) : Except IndexFault Http.Outgoing :=
  index.request "POST" "/_bulk" (some "application/x-ndjson") (bulkBody index.name items)

/-- The body of a reply that says success. -/
def accepted (outcome : Http.Outcome) : Except IndexFault Bytes := do
  let (code, body) ← outcome.reply.mapError .request
  if Http.isSuccess code then return body
  else throw (.rejected code (Text.decodeLossy body))

/-- Asks whether the index is there; `send` carries the request. -/
def ping (index : Index) (send : Http.Outgoing → Http.Outcome) : Except IndexFault Unit := do
  let _ ← accepted (send (← index.pingRequest))

/-- Inserts a batch; `send` carries the request. An empty batch needs none. -/
def insert (index : Index) (send : Http.Outgoing → Http.Outcome) (items : List Item) :
    Except IndexFault (List Outcome) := do
  if items.isEmpty then return []
  let body ← accepted (send (← index.bulkRequest items))
  match Response.parse body with
  | .ok response => return outcomes items response
  | .error _ => throw (.request .decode)

end Index
end Heartbeat.Archive
