import GuardedQuery.Dialect
import GuardedQuery.Literal

/-!
# SQL templates

A template is SQL text with places for parameters. Rendering numbers the places from left to right
and writes the placeholder of the dialect in each, so that the parameters of a template are its
literals in order and never part of the text.
-/

namespace GuardedQuery

/-- A part of a template. -/
inductive Piece where
  | text (s : String)
  /-- The place of a parameter. -/
  | bind (l : Literal)
  deriving DecidableEq

/-- SQL text with places for parameters. -/
abbrev Template := List Piece

namespace Template

/-- The parameters in order. -/
def literals : Template → List Literal
  | [] => []
  | .text _ :: rest => literals rest
  | .bind l :: rest => l :: literals rest

/-- The characters of a template in which `bound` parameters stand before the first. -/
def renderFrom (d : Dialect) (bound : Nat) : Template → List Char
  | [] => []
  | .text s :: rest => s.toList ++ renderFrom d bound rest
  | .bind _ :: rest => d.placeholder (bound + 1) ++ renderFrom d (bound + 1) rest

/-- The SQL text. -/
def render (d : Dialect) (t : Template) : String := String.ofList (renderFrom d 0 t)

/-- Templates with a text between each two. -/
def separated (separator : String) : List Template → Template
  | [] => []
  | [t] => t
  | t :: rest => t ++ .text separator :: separated separator rest

/-- Texts with a text between each two. -/
def listed (separator : String) (ss : List String) : Template :=
  separated separator (ss.map fun s => [.text s])

/-- Places for some parameters, in parentheses. -/
def bindAll (ls : List Literal) : Template :=
  .text "(" :: (separated ", " (ls.map fun l => [.bind l]) ++ [.text ")"])

end Template

end GuardedQuery
