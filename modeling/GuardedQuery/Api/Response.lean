import GuardedQuery.Api.Request
import GuardedQuery.Batch.Load

/-!
# Responses

Every answer with a body is a JSON envelope, apart from the one to a path that is not valid UTF-8. An
error envelope says no more than the public error does.
-/

namespace GuardedQuery

/-- Why a request was refused or failed. -/
inductive ApiError where
  | failed (e : PublicError)
  | body (e : BodyError)
  deriving DecidableEq, Repr

/-- The codes of error envelopes. -/
inductive ErrorCode where
  | badRequest
  | validation
  | notFound
  | internal
  | conflict
  deriving DecidableEq, Repr

def ErrorCode.name : ErrorCode → String
  | .badRequest => "BAD_REQUEST"
  | .validation => "VALIDATION_ERROR"
  | .notFound => "NOT_FOUND"
  | .internal => "INTERNAL_SERVER_ERROR"
  | .conflict => "CONFLICT"

namespace ApiError

def message : ApiError → String
  | .failed e => e.message
  | .body e => "invalid request body: " ++ e.message

def status : ApiError → Nat
  | .body _ => 400
  | .failed (.malformed _) => 400
  | .failed .denied => 400
  | .failed .notFound => 404
  | .failed .conflict => 409
  | .failed .unavailable => 503
  | .failed .internal => 500

def code : ApiError → ErrorCode
  | .body _ => .validation
  | .failed (.malformed _) => .validation
  | .failed .denied => .badRequest
  | .failed .notFound => .notFound
  | .failed .conflict => .conflict
  | .failed .unavailable => .internal
  | .failed .internal => .internal

/-- What else the envelope says: where the payload is wrong, or that the request may be repeated. -/
def details : ApiError → Option Json
  | .body e => some (payloadDetail e.message)
  | .failed (.malformed m) => some (payloadDetail m.message)
  | .failed e => if e.isRetryable then some (.ofMembers [("retryable", .bool true)]) else none
where
  payloadDetail (detail : String) : Json :=
    .array [.ofMembers [("field", .string "payload"), ("detail", .string detail)]]

end ApiError

/-! ## Envelopes -/

namespace Envelope

/-- A number that fits 64 bits. -/
def natural (n : Nat) : Json := .int (.ofUInt64 (UInt64.ofNat n))

/-- The part of an envelope that says when it was written. -/
def written (now : String) : String × Json := ("meta", .ofMembers [("timestamp", .string now)])

def success (now message : String) (data : Json) : Json :=
  .ofMembers
    [("success", .bool true), ("message", .string message), ("data", data), written now]

def failure (now : String) (e : ApiError) : Json :=
  .ofMembers <|
    [("success", .bool false), ("message", .string e.message), ("status_code", natural e.status),
     ("error_code", .string e.code.name), written now] ++
      (e.details.map fun d => ("errors", d)).toList

end Envelope

/-- The rows of a request and the statement that found them. -/
structure Outcome where
  rows : List Row
  statement : Statement
  select : List String

/-- The rows and how they were found. -/
def Outcome.toJson (now : String) (exposesSql : Bool) (o : Outcome) : Json :=
  let outline := o.statement.outline
  let sql := if exposesSql then [("sql_generated", Json.string o.statement.sql)] else []
  .ofMembers
    [("results", .array (o.rows.map .ofKeyed)),
     ("meta", .ofMembers <|
       [("retrieved_at", .string now), ("result_count", Envelope.natural o.rows.length),
        ("columns_selected", .ofStrings o.select), ("has_joins", .bool outline.hasJoins),
        ("has_where", .bool outline.hasWhere),
        ("parameter_count", Envelope.natural o.statement.parameterCount),
        ("table_fixed", .string outline.table)] ++ sql)]

/-! ## Responses -/

/-- The body of a response. -/
inductive Content where
  | none
  | json (j : Json)
  | plain (s : String)

/-- A response; its content type is that of the body, even if the body itself is left out. -/
structure Response where
  status : Nat
  content : Content
  /-- The answer to a HEAD request has no body. -/
  withBody : Bool

namespace Response

def contentType (r : Response) : Option String :=
  match r.content with
  | .none => Option.none
  | .json _ => some "application/json"
  | .plain _ => some "text/plain; charset=utf-8"

/-- A response without content. -/
def bare (status : Nat) : Response := ⟨status, .none, true⟩

def success (now message : String) (data : Json) : Response :=
  ⟨200, .json (Envelope.success now message data), true⟩

def failure (now : String) (e : ApiError) : Response :=
  ⟨e.status, .json (Envelope.failure now e), true⟩

/-- The answer to a path in which a name is not valid UTF-8. -/
def badName (parameter : String) : Response :=
  ⟨400, .plain ("Invalid URL: Invalid UTF-8 in " ++ Decode.tick parameter), true⟩

/-- The response without its body. -/
def headOnly (r : Response) : Response := { r with withBody := false }

end Response

end GuardedQuery
