import GuardedQuery.Sql.Template

/-!
# Statements

A statement is SQL text for one dialect, the parameters it binds and a description of its result.
-/

namespace GuardedQuery

/-- A value and the name of its placeholder. -/
structure Parameter where
  name : String
  value : Literal
  deriving DecidableEq

/-- What a statement selects. -/
structure Outline where
  /-- The columns as requested, each once. -/
  requested : List String
  /-- The names of the columns of a result row. -/
  columns : List String
  hasJoins : Bool
  hasWhere : Bool
  /-- The table or view. -/
  table : String
  deriving DecidableEq, Repr

/-- SQL text, its parameters and a description. -/
structure Statement where
  dialect : Dialect
  sql : String
  parameters : List Parameter
  outline : Outline
  deriving DecidableEq

/-- The placeholder names `p1`, `p2`, … with their values. -/
def Parameter.number (values : List Literal) : List Parameter :=
  values.mapIdx fun i v => ⟨"p" ++ toString (i + 1), v⟩

namespace Statement

/-- The statement of a template. -/
def ofTemplate (d : Dialect) (t : Template) (outline : Outline) : Statement :=
  { dialect := d, sql := t.render d, parameters := Parameter.number t.literals, outline }

/-- The values in the order of their places. -/
def values (s : Statement) : List Literal := s.parameters.map Parameter.value

def parameterCount (s : Statement) : Nat := s.parameters.length

end Statement

end GuardedQuery
