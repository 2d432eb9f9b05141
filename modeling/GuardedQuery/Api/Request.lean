import GuardedQuery.Api.MediaType
import GuardedQuery.Payload.Basic

/-!
# Requests

A request for rows carries a payload in a JSON body, `{"payload": ...}`.
-/

namespace GuardedQuery

open Decode

/-- The methods that any route answers. -/
inductive Method where
  | get
  | head
  | post
  | other
  deriving DecidableEq, Repr

def Method.ofName : String → Method
  | "GET" => .get
  | "HEAD" => .head
  | "POST" => .post
  | _ => .other

/-- A request as it comes in. -/
structure Request where
  method : Method
  target : String
  contentType : Option String
  body : String
  deriving DecidableEq, Repr

/-- Why a body holds no payload. -/
inductive BodyError where
  | contentType
  | notJson
  | shape (e : DecodeError)
  deriving DecidableEq, Repr

def BodyError.message : BodyError → String
  | .contentType => "Expected request with `Content-Type: application/json`"
  | .notJson => "Failed to parse the request body as JSON"
  | .shape e =>
    "Failed to deserialize the JSON body into the target type: " ++ e.messageWithPath

namespace Request

def bodyShape : Shape (Payload String × Unit) (Option (Payload String) × Unit) :=
  .field (required "payload" Payload.freeDecoder) .done

def bodyDecoder : Decoder (Payload String) :=
  convert (fun (payload, ()) => payload) (record "QueryRequest" bodyShape)

/-- The payload in the body. -/
def payload (r : Request) : Except BodyError (Payload String) :=
  if !r.contentType.any MediaType.isJson then .error .contentType
  else match Decode.ofText bodyDecoder r.body with
    | .ok p => .ok p
    | .error e => .error (if e.cause = .notJson then .notJson else .shape e)

end Request

end GuardedQuery
