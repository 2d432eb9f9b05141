import GuardedQuery.Document.Reader

/-!
# Routes

Which operation a request is for follows from its path. A name in a path may have percent escapes,
which stand for bytes of its UTF-8 form.
-/

namespace GuardedQuery

/-- What a request is for. -/
inductive Route where
  /-- Rows of a view; the name is as it stands in the path. -/
  | query (view : String)
  /-- A batch recipe; the name is as it stands in the path. -/
  | batch (recipe : String)
  | health
  deriving DecidableEq, Repr

namespace Route

/-- The path of a request target, which ends at a query string or a fragment. -/
def pathOf (target : List Char) : List Char := target.takeWhile fun c => c != '?' && c != '#'

/-- The characters after some leading ones. -/
def dropLeading? : List Char → List Char → Option (List Char)
  | [], cs => some cs
  | _ :: _, [] => none
  | p :: ps, c :: cs => if p = c then dropLeading? ps cs else none

/-- The name that makes up the rest of a path, one segment. -/
def segment? (leading : String) (path : List Char) : Option String :=
  match dropLeading? leading.toList path with
  | some (c :: cs) => if (c :: cs).contains '/' then none else some (String.ofList (c :: cs))
  | _ => none

/-- The route of a request target. -/
def ofTarget? (target : String) : Option Route :=
  let path := pathOf target.toList
  if path = "/healthz".toList then some .health
  else match segment? "/api/v1/query/" path with
    | some name => some (.query name)
    | none => (segment? "/api/v1/batch/" path).map .batch

/-- Replaces percent escapes by the bytes that they stand for; what is no escape stays. -/
def unescape : List UInt8 → List UInt8
  | 0x25 :: a :: b :: rest =>
    match Document.hexValue? (Char.ofUInt8 a), Document.hexValue? (Char.ofUInt8 b) with
    | some x, some y => UInt8.ofNat (16 * x + y) :: unescape rest
    | _, _ => 0x25 :: unescape (a :: b :: rest)
  | byte :: rest => byte :: unescape rest
  | [] => []

/-- The name that a path segment stands for, if it is valid UTF-8. -/
def decode? (segment : String) : Option String :=
  String.fromUTF8? ⟨(unescape segment.toUTF8.toList).toArray⟩

end Route

end GuardedQuery
