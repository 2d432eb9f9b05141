import GuardedQuery.Json.Basic

/-!
# Documents

A document is what a decoder walks over: JSON in the order in which it was written, repeated keys
included. Where text stops being JSON the document holds `broken`, so that a decoder which stops
earlier reports its own error and one which gets there reports that the text is not JSON.
-/

namespace GuardedQuery

/-- JSON as it was written, as far as it could be read. A member whose key could not be read has
key `none`. -/
inductive Document where
  | null
  | bool (b : Bool)
  | int (i : JsonInt)
  | float (x : Binary64)
  | string (s : String)
  | array (items : List Document)
  | object (members : List (Option String × Document))
  /-- Complete text that has no value: a number too large, half of a surrogate pair, too deep
  nesting. -/
  | unreadable
  /-- From here on the text is not JSON. -/
  | broken
  /-- From here on the text is not JSON, because this stands in the place of a key. -/
  | misplaced (d : Document)

namespace Document

instance : Inhabited Document := ⟨.null⟩

mutual

/-- The document of a value: its members in order of their keys. -/
def ofJson : Json → Document
  | .null => .null
  | .bool b => .bool b
  | .int i => .int i
  | .float x => .float x.val
  | .string s => .string s
  | .array items => .array (ofItems items)
  | .object members => .object (ofMembers members)

/-- The documents of some values. -/
def ofItems : List Json → List Document
  | [] => []
  | j :: rest => ofJson j :: ofItems rest

/-- The documents of some members. -/
def ofMembers : List (String × Json) → List (Option String × Document)
  | [] => []
  | (k, j) :: rest => (some k, ofJson j) :: ofMembers rest

end

mutual

/-- The value of a document; of repeated keys the last counts. `none` when something in it could not
be read. -/
def toJson? : Document → Option Json
  | .null => some .null
  | .bool b => some (.bool b)
  | .int i => some (.int i)
  | .float x => some (Json.ofBinary64 x)
  | .string s => some (.string s)
  | .array items => (toItems? items).map .array
  | .object members => (toMembers? members).map Json.ofMembers
  | .unreadable => none
  | .broken => none
  | .misplaced _ => none

/-- The values of some documents. -/
def toItems? : List Document → Option (List Json)
  | [] => some []
  | d :: rest => do
    let j ← toJson? d
    let js ← toItems? rest
    return j :: js

/-- The values of some members. -/
def toMembers? : List (Option String × Document) → Option (List (String × Json))
  | [] => some []
  | (k, d) :: rest => do
    let k ← k
    let j ← toJson? d
    let js ← toMembers? rest
    return (k, j) :: js

end

mutual

/-- The text of the document is complete, though parts of it may have no value. -/
def isComplete : Document → Bool
  | .array items => areComplete items
  | .object members => membersComplete members
  | .broken => false
  | .misplaced _ => false
  | _ => true

/-- All of some documents are complete. -/
def areComplete : List Document → Bool
  | [] => true
  | d :: rest => d.isComplete && areComplete rest

/-- The values of all of some members are complete. -/
def membersComplete : List (Option String × Document) → Bool
  | [] => true
  | (_, d) :: rest => d.isComplete && membersComplete rest

end

end Document

end GuardedQuery
