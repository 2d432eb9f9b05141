import GuardedQuery.Json.Text
import GuardedQuery.Uuid

/-!
# Literals

A literal is a scalar that a statement binds as a parameter; it never becomes part of the SQL text.
There is no null: null checks are tests of their own. Clients send booleans, numbers and text; UUIDs
come from keys read back from the database and are bound as such.
-/

namespace GuardedQuery

/-- A scalar bound as a parameter. -/
inductive Literal where
  | bool (b : Bool)
  | int (i : Int64)
  | float (x : Binary64)
  | text (s : String)
  | uuid (u : Uuid)
  deriving DecidableEq

/-- Why a JSON value is no literal. -/
inductive LiteralError where
  | null
  | array
  | object
  deriving DecidableEq, Repr

def LiteralError.message : LiteralError → String
  | .null => "null is not a valid value"
  | .array => "expected a scalar, found an array"
  | .object => "expected a scalar, found an object"

namespace Literal

/-- The literal of a JSON integer: an integer of 64 bits, or beyond these the nearest floating point
number. -/
def ofJsonInt (i : JsonInt) : Literal :=
  if i.val < 9223372036854775808 then .int (Int64.ofInt i.val) else .float (Binary64.ofInt i.val)

/-- The literal of a JSON scalar. -/
def ofJson : Json → Except LiteralError Literal
  | .bool b => .ok (.bool b)
  | .int i => .ok (ofJsonInt i)
  | .float x => .ok (.float x.val)
  | .string s => .ok (.text s)
  | .null => .error .null
  | .array _ => .error .array
  | .object _ => .error .object

/-- The JSON form. A UUID is text, and a number that JSON lacks is `null`. -/
def toJson : Literal → Json
  | .bool b => .bool b
  | .int i => .int (.ofInt64 i)
  | .float x => .ofBinary64 x
  | .text s => .string s
  | .uuid u => .string u.text

/-- The text of the JSON form; rows are matched by it. -/
def token (l : Literal) : String := l.toJson.text

/-- The literal in a message. -/
def display : Literal → String
  | .bool b => toString b
  | .int i => toString i.toInt
  | .float x => x.render .plain
  | .text s => s
  | .uuid u => u.text

/-- The text of a text literal. -/
def text? : Literal → Option String
  | .text s => some s
  | _ => none

/-- Equality as values: numbers of one kind compare as numbers, so NaN differs from itself. -/
def same : Literal → Literal → Bool
  | .float x, .float y => x.numericallyEqual y
  | a, b => decide (a = b)

end Literal

end GuardedQuery
