import GuardedQuery.Document.Basic
import GuardedQuery.Text.Quoted

/-!
# Decoding errors

A decoding error is a cause and the place in the document where it arose. There are two wordings:
one for JSON that clients send (`Cause.wireText`) and one for settings (`Cause.settingsText`).
-/

namespace GuardedQuery.Decode

/-- One step into a document. -/
inductive Segment where
  | key (name : String)
  | index (i : Nat)
  deriving DecidableEq, Repr

/-- What stood where something else was expected. -/
inductive Found where
  | unit
  | bool (b : Bool)
  | int (i : Int)
  | float (x : Binary64)
  | string (s : String)
  | sequence
  | map
  deriving DecidableEq, Repr

/-- Why a document was not decoded. -/
inductive Cause where
  /-- The text is not JSON, or has a part without a value. -/
  | notJson
  | invalidType (found : Found) (expected : String)
  | invalidValue (found : Found) (expected : String)
  | invalidLength (length : Nat) (expected : String)
  | unknownVariant (name : String) (expected : List String)
  | unknownField (name : String) (expected : List String)
  | missingField (name : String)
  | duplicateField (name : String)
  /-- No alternative of a type without tags fits. -/
  | unmatched (type : String)
  /-- The document has the right shape and was refused for another reason. -/
  | refused (reason : String)
  deriving DecidableEq, Repr

end GuardedQuery.Decode

namespace GuardedQuery

/-- A cause and the path to where it arose. -/
structure DecodeError where
  path : List Decode.Segment
  cause : Decode.Cause
  deriving DecidableEq, Repr

end GuardedQuery

namespace GuardedQuery.Decode

/-- What a document is, unless it has no value. -/
def found? : Document → Option Found
  | .null => some .unit
  | .bool b => some (.bool b)
  | .int i => some (.int i.val)
  | .float x => some (.float x)
  | .string s => some (.string s)
  | .array _ => some .sequence
  | .object _ => some .map
  | .unreadable => none
  | .broken => none
  | .misplaced _ => none

/-! ## Wording -/

/-- A name between backticks. -/
def tick (s : String) : String := "`" ++ s ++ "`"

/-- Some names of which one is expected. -/
def oneOf : List String → String
  | [] => "none"
  | [a] => tick a
  | [a, b] => tick a ++ " or " ++ tick b
  | names => "one of " ++ String.intercalate ", " (names.map tick)

/-- What was found, in messages to clients. -/
def Found.wireText : Found → String
  | .unit => "null"
  | .bool b => "boolean " ++ tick (toString b)
  | .int i => "integer " ++ tick (toString i)
  | .float x => "floating point " ++ tick (x.render .json)
  | .string s => "string " ++ Text.quoted s
  | .sequence => "sequence"
  | .map => "map"

/-- What was found, in messages about settings. -/
def Found.settingsText : Found → String
  | .unit => "unit"
  | .bool b => "bool " ++ toString b
  | .int i => (if i < 0 then "signed int " else "unsigned int ") ++ tick (toString i)
  | .float x => "float " ++ tick (x.render .plain)
  | .string s => "string " ++ Text.quoted s
  | .sequence => "sequence"
  | .map => "map"

/-- The message to a client. -/
def Cause.wireText : Cause → String
  | .notJson => "not JSON"
  | .invalidType found expected => "invalid type: " ++ found.wireText ++ ", expected " ++ expected
  | .invalidValue found expected => "invalid value: " ++ found.wireText ++ ", expected " ++ expected
  | .invalidLength n expected => "invalid length " ++ toString n ++ ", expected " ++ expected
  | .unknownVariant name expected =>
    "unknown variant " ++ tick name ++ ", expected " ++ oneOf expected
  | .unknownField name expected => "unknown field " ++ tick name ++ ", expected " ++ oneOf expected
  | .missingField name => "missing field " ++ tick name
  | .duplicateField name => "duplicate field " ++ tick name
  | .unmatched type => "data did not match any variant of untagged enum " ++ type
  | .refused reason => reason

/-- The message about settings. -/
def Cause.settingsText : Cause → String
  | .invalidType found expected =>
    "invalid type: found " ++ found.settingsText ++ ", expected " ++ expected
  | .invalidValue found expected =>
    "invalid value " ++ found.settingsText ++ ", expected " ++ expected
  | .unknownVariant name expected =>
    "unknown variant: found " ++ tick name ++ ", expected " ++ tick (oneOf expected)
  | .unknownField name expected =>
    "unknown field: found " ++ tick name ++ ", expected " ++ tick (oneOf expected)
  | cause => cause.wireText

/-- A path as clients see it: `payload.orderBy[1].key`. -/
def pathText : List Segment → String
  | [] => ""
  | .key name :: rest => name ++ following rest
  | .index i :: rest => "[" ++ toString i ++ "]" ++ following rest
where
  /-- The segments after the first. -/
  following : List Segment → String
    | [] => ""
    | .key name :: rest => "." ++ name ++ following rest
    | .index i :: rest => "[" ++ toString i ++ "]" ++ following rest

/-- A path as settings are named: segments with dots between. -/
def settingsPath (path : List Segment) : String :=
  String.intercalate "." (path.map fun
    | .key name => name
    | .index i => toString i)

end GuardedQuery.Decode

namespace GuardedQuery.DecodeError

/-- The message to a client, without the place. -/
def message (e : DecodeError) : String := e.cause.wireText

/-- The message to a client with the place in front, where it is not the whole document. -/
def messageWithPath (e : DecodeError) : String :=
  if e.path.isEmpty then e.message else Decode.pathText e.path ++ ": " ++ e.message

end GuardedQuery.DecodeError
