import GuardedQuery.Text.Blank
import GuardedQuery.Text.Identifier
import GuardedQuery.Text.Keyword

/-!
# Column entries

An entry of an allowlist is a column reference, optionally with the name under which the column
appears in result rows: `col`, `t.col`, `t.col AS name`. Entries are written with any blanks around
and between their parts and with `AS` in any casing; `Column.entry` is the normal form.
-/

namespace GuardedQuery

/-- A column of an allowlist. -/
structure Column where
  /-- The column reference, qualified or not. -/
  expression : String
  /-- The name in result rows, where the entry gives one. -/
  aliasName : Option String
  deriving DecidableEq, Repr

namespace Column

/-- The name after `AS`, if the text goes on with one; `some none` if only blanks follow. -/
def aliasOfChars? (cs : List Char) : Option (Option (List Char)) :=
  match Text.skipBlanks cs with
  | [] => some none
  | _ => do
    let cs ← Text.blanks? cs
    let cs ← Text.keyword? ['a', 's'] cs
    let cs ← Text.blanks? cs
    let (name, cs) ← Text.identifier? cs
    if Text.skipBlanks cs = [] then some (some name) else none

/-- The column of an entry, blanks and casing aside. -/
def ofEntry? (entry : String) : Option Column := do
  let (expression, cs) ← Text.qualifiedName? (Text.skipBlanks entry.toList)
  let name ← aliasOfChars? cs
  return ⟨String.ofList expression, name.map String.ofList⟩

/-- The entry in normal form. -/
def entry (c : Column) : String :=
  match c.aliasName with
  | none => c.expression
  | some a => c.expression ++ " AS " ++ a

/-- The part of a column reference after its last dot. -/
def baseName (expression : String) : String :=
  String.ofList (expression.toList.reverse.takeWhile (· != '.')).reverse

/-- The name under which the column appears in result rows. -/
def outputName (c : Column) : String := c.aliasName.getD (baseName c.expression)

/-- The entry is a column name alone. -/
def isPlain (c : Column) : Bool := c.aliasName.isNone && !c.expression.toList.contains '.'

/-- The key is the entry, its column reference or its alias. -/
def answersTo (c : Column) (key : String) : Bool :=
  key == c.entry || key == c.expression || c.aliasName == some key

/-- The first of some columns that a key names: as it stands, or else as an entry in other spelling. -/
def resolve? (columns : List Column) (key : String) : Option Column :=
  match columns.find? (·.answersTo key) with
  | some c => some c
  | none => do
    let normal ← ofEntry? key
    columns.find? fun c => c.entry == normal.entry

end Column

end GuardedQuery
