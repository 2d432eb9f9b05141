import GuardedQuery.Statement.Select

/-!
# Child aggregates

The children of some parents are fetched by one statement: a derived table holds the child rows of
all parents in order, and the database folds them into one JSON array for each parent.
-/

namespace GuardedQuery

open Decode

/-- A table whose rows belong to the rows of another. -/
structure Relation where
  /-- The child table; no view. -/
  table : String
  /-- The child column that holds the key of the parent. -/
  foreignKey : String
  /-- The child columns in each JSON object. -/
  columns : List String
  order : List (SortTerm String)
  deriving DecidableEq, Repr

namespace Relation

/-! ## JSON form -/

def shape : Shape (String × String × List String × List (SortTerm String) × Unit)
    (Option String × Option String × Option (List String) × Option (List (SortTerm String)) × Unit) :=
  .field (required "table" string) <| .field (required "foreign_key" string) <|
    .field (required "columns" (list string)) <|
      .field (defaulted "order_by" (list (SortTerm.decoder string)) []) .done

def decoder : Decoder Relation :=
  convert (fun (table, foreignKey, columns, order, ()) => ⟨table, foreignKey, columns, order⟩)
    (record "ChildRelation" shape)

def toJson (r : Relation) : Json :=
  .ofMembers
    [("table", .string r.table), ("foreign_key", .string r.foreignKey),
     ("columns", .ofStrings r.columns), ("order_by", .array (r.order.map (SortTerm.toJson .string)))]

end Relation

/-- The result column with the key of the parent. -/
def parentKeyColumn : String := "parent_key"

/-- The result column with the array of children. -/
def childrenColumn : String := "children"

/-- An aggregate over permitted column names. -/
structure Aggregate where
  table : String
  foreignKey : String
  /-- The columns of each JSON object, each once. -/
  members : List String
  order : List (String × Direction)
  keys : List Literal

/-- How a dialect folds rows into a JSON array, as text. -/
structure Folding where
  /-- Opens the array. -/
  array : String
  /-- Opens an object. -/
  object : String
  /-- Closes the array. -/
  close : String
  /-- The order of the rows is given inside the array, not by the derived table. -/
  ordersInside : Bool
  deriving DecidableEq, Repr

/-- How each dialect folds rows; SQL Server cannot. -/
def Dialect.folding? : Dialect → Option Folding
  | .postgres => some ⟨"COALESCE(json_agg(", "json_build_object(", "), '[]'::json)::text", true⟩
  | .sqlite => some ⟨"json_group_array(", "json_object(", ")", false⟩
  | .mysql => some ⟨"CAST(JSON_ARRAYAGG(", "JSON_OBJECT(", ") AS CHAR)", false⟩
  | .mssql => none

namespace Aggregate

/-! ## Checking -/

/-- The name of a column that is permitted and plain. -/
def plainColumn (columns : List Column) (position : Position) (key : String) :
    Except CompileError String :=
  match Target.column columns position key with
  | .error e => .error e
  | .ok c => if c.isPlain then .ok c.expression else .error (.malformed .childColumnNotPlain)

/-- Appends a name unless it is present. -/
def appendNew (names : List String) (name : String) : List String :=
  if names.contains name then names else names ++ [name]

/-- The names of some columns, each once. -/
def memberNames (columns : List Column) : List String → List String → Except CompileError (List String)
  | names, [] => .ok names
  | names, key :: rest =>
    match plainColumn columns .select key with
    | .error e => .error e
    | .ok name => memberNames columns (appendNew names name) rest

/-- The names of the columns of some sort terms. -/
def orderTerms (columns : List Column) :
    List (SortTerm String) → Except CompileError (List (String × Direction))
  | [] => .ok []
  | t :: rest =>
    match plainColumn columns .sort t.key with
    | .error e => .error e
    | .ok name => (orderTerms columns rest).map ((name, t.direction) :: ·)

/-- Checks every name of a relation. -/
def check (a : Allowlist) (r : Relation) (keys : List Literal) : Except CompileError Aggregate := do
  if keys.isEmpty then throw (.malformed .noParentKeys)
  if r.columns.isEmpty then throw (.malformed .noChildColumns)
  match a.columns? r.table with
  | none => throw (.denied .table r.table)
  | some columns =>
    if (a.view? r.table).isSome then throw (.malformed .childOfView)
    let foreignKey ← plainColumn columns .filter r.foreignKey
    let names ← memberNames columns [] r.columns
    let order ← orderTerms columns r.order
    return ⟨r.table, foreignKey, names, order, keys⟩

/-! ## Rendering -/

/-- The name of the derived table. -/
def derivedName : String := "agg_src"

/-- A column of the derived table. -/
def derived (column : String) : String := derivedName ++ "." ++ column

/-- The columns of the derived table: the foreign key, the members and then columns used only to
sort, each once. -/
def derivedColumns (g : Aggregate) : List String :=
  (g.members ++ g.order.map Prod.fst).foldl appendNew [g.foreignKey]

/-- The members of a JSON object: each name in quotes and its column. -/
def objectText (g : Aggregate) : String :=
  String.intercalate ", " (g.members.map fun c => "'" ++ c ++ "', " ++ derived c)

/-- The expression that folds the rows of the derived table. -/
def foldText (f : Folding) (g : Aggregate) : String :=
  let order := if f.ordersInside then Select.orderText (g.order.map fun (c, d) => (derived c, d)) else ""
  f.array ++ f.object ++ g.objectText ++ ")" ++ order ++ f.close

def template (f : Folding) (g : Aggregate) : Template :=
  .text ("SELECT " ++ derived g.foreignKey ++ " AS " ++ parentKeyColumn ++ ", " ++ g.foldText f ++
      " AS " ++ childrenColumn ++ " FROM (SELECT " ++ String.intercalate ", " g.derivedColumns ++
      " FROM " ++ g.table ++ " WHERE " ++ g.foreignKey ++ " IN ") ::
    (Template.bindAll g.keys ++
      [.text ((if f.ordersInside then "" else Select.orderText g.order) ++ ") AS " ++ derivedName ++
        " GROUP BY " ++ derived g.foreignKey)])

end Aggregate

namespace Relation

/-- The statement that fetches the children of the parents with some keys. -/
def compile (a : Allowlist) (d : Dialect) (r : Relation) (keys : List Literal) :
    Except CompileError Statement :=
  match Aggregate.check a r keys, d.folding? with
  | .error e, _ => .error e
  | .ok _, none => .error (.noAggregation d)
  | .ok g, some f => .ok <| .ofTemplate d (g.template f)
      { requested := r.columns
        columns := [parentKeyColumn, childrenColumn]
        hasJoins := false
        hasWhere := true
        table := r.table }

end Relation

end GuardedQuery
