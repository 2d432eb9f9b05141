import GuardedQuery.Batch.Plan
import GuardedQuery.Database.Connection

/-!
# Batch loads

A load reads the keys of the page, then the parents with these keys, then the children of all of
them, and puts parents and children together in the order of the keys (`Merge.rows`). Keys are
compared by the text of their JSON form. All three reads are one unit of work.
-/

namespace GuardedQuery

namespace Merge

/-- Literals with different tokens: of those with one token the first. -/
def distinct : List Literal → List Literal
  | [] => []
  | key :: rest => key :: (distinct rest).filter fun k => k.token != key.token

/-- The token of the key that a row holds in a column. -/
def rowToken (column : String) (row : Row) : Except ExecutionError String :=
  match row.find? column with
  | none => .error (.rowShape column)
  | some .null => .error (.rowShape column)
  | some j => .ok j.text

/-- The parents by token; of two with one token the last counts. -/
def parents (keyColumn : String) : List Row → Except ExecutionError (Keyed Row) :=
  fun rows => (rows.mapM fun row => (rowToken keyColumn row).map (·, row)).map Keyed.ofList

/-- The array of children in a row: an array, the text of one, or nothing for none. -/
def array : Option Json → Except ExecutionError (List Json)
  | none => .ok []
  | some .null => .ok []
  | some (.array items) => .ok items
  | some (.string s) =>
    match Json.ofText? s with
    | none => .error (.malformedRow .notJson)
    | some (.array items) => .ok items
    | some _ => .error (.malformedRow .notAnArray)
  | some _ => .error (.malformedRow .notAnArray)

/-- The token of a parent and its children. -/
def family (row : Row) : Except ExecutionError (String × List Json) :=
  match rowToken parentKeyColumn row with
  | .error e => .error e
  | .ok token => (array (row.find? childrenColumn)).map (token, ·)

/-- The children by token of the parent; of two arrays for one token the last counts. -/
def children (rows : List Row) : Except ExecutionError (Keyed (List Json)) :=
  (rows.mapM family).map Keyed.ofList

/-- The parent of a key with its children; none for a key without a parent. -/
def row? (field : String) (parents : Keyed Row) (children : Keyed (List Json)) (key : Literal) :
    Option Row :=
  (parents.find? key.token).map fun row =>
    row.insert field (.array ((children.find? key.token).getD []))

/-- The parents with their children, in the order of the keys. -/
def rows (field : String) (parents : Keyed Row) (children : Keyed (List Json))
    (keys : List Literal) : List Row :=
  keys.filterMap (row? field parents children)

end Merge

namespace Loader

/-- Reads parents and children of some keys. -/
def loadKeys (l : Loader) (p : Plan) (keyColumn : String) (keys : List Literal) :
    Work ExecutionError (List Row) :=
  match l.detailQuery p.recipe p.select p.override keys with
  | .error e => .done (.error (.compile e))
  | .ok detail =>
    match l.childrenQuery p.recipe keys with
    | .error e => .done (.error (.compile e))
    | .ok children => do
      let parents ← Work.fetchAll detail fun answer => .done (answer.bind (Merge.parents keyColumn))
      let children ← Work.fetchAll children fun answer => .done (answer.bind Merge.children)
      return Merge.rows p.recipe.childrenField parents children keys

/-- Runs a plan. -/
def load (l : Loader) (p : Plan) : Work ExecutionError (List Row) :=
  match p.keysQuery.keyColumn with
  | .error e => .done (.error e)
  | .ok keyColumn => do
    match Merge.distinct (← Work.keys p.keysQuery) with
    | [] => return []
    | keys => l.loadKeys p keyColumn keys

/-- Runs a plan in a transaction of its own. -/
def serve {σ : Type} (l : Loader) (db : Database σ) (p : Plan) (s : σ) :
    Except PublicError (List Row) × σ :=
  db.serve (l.load p) s

end Loader

end GuardedQuery
