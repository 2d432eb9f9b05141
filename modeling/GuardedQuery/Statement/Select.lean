import GuardedQuery.Payload.Entity
import GuardedQuery.Sql.Window
import GuardedQuery.Statement.Basic
import GuardedQuery.Statement.Restriction

/-!
# Select statements

A payload is compiled in two steps: every name in it is checked against the allowlist, which gives a
`Select` of permitted columns only, and the select is rendered. A key lookup is a select with one
more filter, that the key column has one of some values.
-/

namespace GuardedQuery

/-- The columns that a request selects. -/
structure Selection where
  /-- The requested keys, each once. -/
  keys : List String
  /-- Their columns, each entry once. -/
  columns : List Column
  deriving DecidableEq, Repr

namespace Selection

/-- Appends a column unless its entry is present. -/
def append (columns : List Column) (c : Column) : List Column :=
  if columns.any fun d => d.entry == c.entry then columns else columns ++ [c]

/-- Adds a requested key. -/
def add (permitted : List Column) (s : Selection) (key : String) : Except CompileError Selection :=
  if s.keys.contains key then .ok s
  else (Target.column permitted .select key).map fun c => ⟨s.keys ++ [key], append s.columns c⟩

/-- The selection of some keys, in first-seen order. -/
def ofKeys (permitted : List Column) (keys : List String) : Except CompileError Selection :=
  keys.foldlM (add permitted) ⟨[], []⟩

end Selection

/-- A select over permitted columns. -/
structure Select where
  columns : List Column
  source : TableRef
  joins : List Join
  restrictions : List Restriction
  /-- Column references with their directions. -/
  order : List (String × Direction)
  window : Window

namespace Select

/-! ## Rendering -/

/-- A table with the name it goes by. -/
def tableText (table : String) (name : Option String) : String :=
  table ++ (name.map (" AS " ++ ·)).getD ""

def joinText (j : Join) : String :=
  " " ++ j.kind.sql ++ " " ++ tableText j.table j.aliasName ++ " ON " ++ j.on

/-- The ORDER BY clause over column references, if there is any term. -/
def orderText (terms : List (String × Direction)) : String :=
  if terms.isEmpty then ""
  else " ORDER BY " ++ String.intercalate ", " (terms.map fun (c, d) => c ++ " " ++ d.sql)

/-- The statement without its window. -/
def body (s : Select) : Template :=
  .text "SELECT " :: (Template.listed ", " (s.columns.map Column.entry) ++
    .text " FROM " :: .text (tableText s.source.table s.source.aliasName) ::
      (s.joins.map fun j => Piece.text (joinText j)) ++
    Restriction.clause s.restrictions ++ [.text (orderText s.order)])

def template (d : Dialect) (s : Select) : Template :=
  s.body ++ [.text (s.window.clause d !s.order.isEmpty)]

end Select

namespace Payload

/-! ## Compiling payloads -/

/-- The largest number of rows that every database accepts in a window. -/
def maxWindowBound : Nat := Nat.pow 2 63 - 1

/-- The limit is positive, and both bounds of the window are small enough. -/
def checkWindow (p : Payload String) : Except CompileError Window :=
  let window : Window := ⟨p.limit.map UInt64.toNat, p.offset.map UInt64.toNat⟩
  if window.limit = some 0 then .error (.malformed .zeroLimit)
  else if (window.limit.toList ++ window.offset.toList).any fun n => decide (maxWindowBound < n) then
    .error (.malformed .windowTooLarge)
  else .ok window

/-- The column references of some sort terms. -/
def orderTerms (columns : List Column) :
    List (SortTerm String) → Except CompileError (List (String × Direction))
  | [] => .ok []
  | t :: rest =>
    match Target.column columns .sort t.key with
    | .error e => .error e
    | .ok c => (orderTerms columns rest).map ((c.expression, t.direction) :: ·)

/-- A checked request: the select, the requested keys and the name of the target. -/
structure Checked where
  select : Select
  requested : List String
  table : String

/-- Checks every name of a payload. `fallback` is the table when neither the server nor the client
names one. -/
def check (a : Allowlist) (o : Override) (fallback : Option String) (p : Payload String) :
    Except CompileError Checked := do
  if p.select.isEmpty then throw (.malformed .emptySelect)
  let window ← p.checkWindow
  let target ← Target.find a (o.table <|> p.source <|> fallback) p.joins o
  let selection ← Selection.ofKeys target.columns p.select
  let restrictions ← Restriction.ofFilters target.columns a.maxDepth.toNat o.scope p.filter
  let order ← orderTerms target.columns p.order
  return {
    select := {
      columns := selection.columns
      source := target.source
      joins := target.joins
      restrictions
      order
      window }
    requested := selection.keys
    table := target.name }

/-- The statement of a checked request. -/
def Checked.statement (d : Dialect) (c : Checked) : Statement :=
  .ofTemplate d (c.select.template d)
    { requested := c.requested
      columns := c.select.columns.map Column.outputName
      hasJoins := !c.select.joins.isEmpty
      hasWhere := !c.select.restrictions.isEmpty
      table := c.table }

/-- The statement of a payload. -/
def compile (a : Allowlist) (d : Dialect) (o : Override) (p : Payload String) :
    Except CompileError Statement :=
  (check a o none p).map (Checked.statement d)

/-- The statement of a strict payload. The table of the entity is the fallback. -/
def compileStrict (a : Allowlist) (d : Dialect) (o : Override) {e : Entity} (p : Payload e.Field) :
    Except CompileError Statement :=
  (check a o (some e.table) p.toFree).map (Checked.statement d)

end Payload

/-- The statement of a strict or free payload. -/
def AnyPayload.compile (a : Allowlist) (d : Dialect) (o : Override) {e : Entity} :
    AnyPayload e → Except CompileError Statement
  | .strict p => p.compileStrict a d o
  | .flexible p => p.compile a d o

/-! ## Key lookups -/

/-- The rows of a table in which a key column has one of some values. -/
structure KeyLookup where
  table : String
  keyColumn : String
  select : List String
  keys : List Literal

namespace KeyLookup

/-- Checks every name of a lookup. The key column is selected last unless it is requested. -/
def check (a : Allowlist) (o : Override) (l : KeyLookup) : Except CompileError Payload.Checked := do
  if l.keys.isEmpty then throw (.malformed .noKeys)
  if l.select.isEmpty then throw (.malformed .emptySelect)
  let target ← Target.find a (o.table <|> some l.table) [] o
  let key ← Target.column target.columns .filter l.keyColumn
  let selection ← Selection.ofKeys target.columns l.select
  let filter : Group String := ⟨.and, [.condition key.expression (.member false l.keys)]⟩
  let restrictions ← Restriction.ofFilters target.columns a.maxDepth.toNat o.scope (some filter)
  return {
    select := {
      columns := Selection.append selection.columns key
      source := target.source
      joins := target.joins
      restrictions
      order := []
      window := ⟨none, none⟩ }
    requested := selection.keys
    table := target.name }

/-- The statement of a lookup. -/
def compile (a : Allowlist) (d : Dialect) (o : Override) (l : KeyLookup) :
    Except CompileError Statement :=
  (l.check a o).map (Payload.Checked.statement d)

end KeyLookup

end GuardedQuery
