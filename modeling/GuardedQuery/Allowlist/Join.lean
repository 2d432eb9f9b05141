import GuardedQuery.Decode.Shape
import GuardedQuery.Text.Blank
import GuardedQuery.Text.Identifier
import GuardedQuery.Text.Keyword

/-!
# Joins and views

A view is a table with joins. Only joins that the server wrote are ever rendered; their ON text is a
conjunction of equalities between columns.
-/

namespace GuardedQuery

open Decode

/-- How a table is joined. -/
inductive JoinKind where
  | inner
  | left
  | right
  | full
  deriving DecidableEq, Repr

namespace JoinKind

def name : JoinKind → String
  | .inner => "INNER"
  | .left => "LEFT"
  | .right => "RIGHT"
  | .full => "FULL"

def sql : JoinKind → String
  | .inner => "INNER JOIN"
  | .left => "LEFT JOIN"
  | .right => "RIGHT JOIN"
  | .full => "FULL JOIN"

/-- All kinds, in the order in which messages list them. -/
def all : List JoinKind := [.inner, .left, .right, .full]

def decoder : Decoder JoinKind := choice "JoinType" (all.map fun k => (k.name, k))

end JoinKind

/-- A table, optionally under another name. -/
structure TableRef where
  table : String
  aliasName : Option String
  deriving DecidableEq, Repr

/-- A table joined to the ones before it. -/
structure Join where
  kind : JoinKind
  table : String
  aliasName : Option String
  /-- The text of the ON clause. -/
  on : String
  deriving DecidableEq, Repr

/-- The base table and the joins of a view. -/
structure View where
  source : TableRef
  joins : List Join
  deriving DecidableEq, Repr

/-! ## ON clauses -/

namespace Join

/-- Reads `column = column`. -/
def equality? (cs : List Char) : Option (List Char) := do
  let (_, cs) ← Text.qualifiedName? cs
  let cs ← match Text.skipBlanks cs with
    | '=' :: cs => some cs
    | _ => none
  let (_, cs) ← Text.qualifiedName? (Text.skipBlanks cs)
  return cs

/-- Only equalities follow, each after AND with blanks on both sides, and then blanks. At most
`fuel` equalities are read. -/
def isConjunctionTail : Nat → List Char → Bool
  | 0, _ => false
  | fuel + 1, cs =>
    (Text.skipBlanks cs).isEmpty ||
      match (do
        let cs ← Text.blanks? cs
        let cs ← Text.keyword? ['a', 'n', 'd'] cs
        let cs ← Text.blanks? cs
        equality? cs) with
      | some rest => isConjunctionTail fuel rest
      | none => false

/-- The text is a conjunction of one or more equalities between columns. -/
def isConjunction (on : String) : Bool :=
  match equality? (Text.skipBlanks on.toList) with
  | some rest => isConjunctionTail (rest.length + 1) rest
  | none => false

end Join

/-! ## JSON form -/

/-- The members for a name that may be missing. -/
def aliasMember (name : Option String) : List (String × Json) :=
  (name.map fun a => ("alias", Json.string a)).toList

namespace TableRef

def shape : Shape (String × Option String × Unit) (Option String × Option (Option String) × Unit) :=
  .field (required "table" string) <| .field (defaulted "alias" (optional string) none) .done

def decoder : Decoder TableRef :=
  convert (fun (table, name, ()) => ⟨table, name⟩) (record "TableRef" shape)

def toJson (t : TableRef) : Json := .ofMembers <| ("table", .string t.table) :: aliasMember t.aliasName

end TableRef

namespace Join

def shape : Shape (JoinKind × String × Option String × String × Unit)
    (Option JoinKind × Option String × Option (Option String) × Option String × Unit) :=
  .field (required "type" JoinKind.decoder) <| .field (required "table" string) <|
    .field (defaulted "alias" (optional string) none) <| .field (required "on" string) .done

def decoder : Decoder Join :=
  convert (fun (kind, table, name, on, ()) => ⟨kind, table, name, on⟩) (record "JoinClause" shape)

def toJson (j : Join) : Json :=
  .ofMembers <| [("type", .string j.kind.name), ("table", .string j.table), ("on", .string j.on)] ++
    aliasMember j.aliasName

end Join

namespace View

def shape : Shape (TableRef × List Join × Unit) (Option TableRef × Option (List Join) × Unit) :=
  .field (required "from" TableRef.decoder) <|
    .field (defaulted "joins" (list Join.decoder) []) .done

def decoder : Decoder View :=
  convert (fun (source, joins, ()) => ⟨source, joins⟩) (record "JoinConfiguration" shape)

def toJson (v : View) : Json :=
  .ofMembers [("from", v.source.toJson), ("joins", .array (v.joins.map Join.toJson))]

end View

end GuardedQuery
