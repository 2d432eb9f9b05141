import GuardedQuery.Sql.Template
import GuardedQuery.Statement.Target

/-!
# Restrictions

A restriction is a filter whose keys are resolved to permitted columns and whose empty groups are
gone. It renders as one boolean expression; every group stands in parentheses of its own.
-/

namespace GuardedQuery

/-- A filter over column references. A group has at least one part. -/
inductive Restriction where
  | test (column : String) (predicate : Predicate)
  | group (connective : Connective) (parts : List Restriction)

namespace Restriction

/-! ## From filters -/

/-- The test of a condition. -/
def ofCondition (columns : List Column) (key : String) (p : Predicate) :
    Except CompileError Restriction :=
  match Target.column columns .filter key, p with
  | .error e, _ => .error e
  | .ok _, .member negated [] => .error (.malformed (.emptyList (.member negated)))
  | .ok c, p => .ok (.test c.expression p)

mutual

/-- The restriction of a node, `none` for a group in which no condition is left. The node stands at
`depth`; groups deeper than `max` are refused. -/
def ofNode (columns : List Column) (max depth : Nat) :
    Node String → Except CompileError (Option Restriction)
  | .condition key p => (ofCondition columns key p).map some
  | .group c nodes =>
    if max < depth then .error (.malformed (.tooDeep max))
    else match ofNodes columns max (depth + 1) nodes with
      | .error e => .error e
      | .ok [] => .ok none
      | .ok parts => .ok (some (.group c parts))

/-- The restrictions of some nodes, without those in which nothing is left. -/
def ofNodes (columns : List Column) (max depth : Nat) :
    List (Node String) → Except CompileError (List Restriction)
  | [] => .ok []
  | n :: rest =>
    match ofNode columns max depth n with
    | .error e => .error e
    | .ok part => (ofNodes columns max depth rest).map (part.toList ++ ·)

end

/-- The restrictions of the server's scope and the client's filter, in this order. Rows must meet
all. -/
def ofFilters (columns : List Column) (max : Nat) (scope filter : Option (Group String)) :
    Except CompileError (List Restriction) :=
  ofNodes columns max 1 ((scope.toList ++ filter.toList).map Group.toNode)

/-! ## Rendering -/

/-- The comparison of a column with its parameters. -/
def testTemplate (column : String) (p : Predicate) : Template :=
  .text (column ++ " " ++ p.operator.sql) ::
    match p with
    | .compare _ v => [.text " ", .bind v]
    | .member _ vs => .text " " :: Template.bindAll vs
    | .like pattern => [.text " ", .bind (.text pattern)]
    | .null _ => []

/-- What stands between the parts of a group. -/
def separator : Connective → String
  | .or => " OR "
  | _ => " AND "

/-- What stands in front of the parts of a group. -/
def opening : Connective → String
  | .not => "NOT ("
  | _ => "("

mutual

/-- The boolean expression. -/
def template : Restriction → Template
  | .test column p => testTemplate column p
  | .group c parts => .text (opening c) :: (templates (separator c) parts ++ [.text ")"])

/-- Expressions with a text between each two. -/
def templates (separator : String) : List Restriction → Template
  | [] => []
  | [r] => r.template
  | r :: rest => r.template ++ .text separator :: templates separator rest

end

/-- The WHERE clause, if there is any restriction. -/
def clause (rs : List Restriction) : Template :=
  if rs.isEmpty then [] else .text " WHERE " :: templates " AND " rs

end Restriction

end GuardedQuery
