/-!
# Identifiers

An identifier is an ASCII letter or underscore followed by ASCII letters, digits and underscores. A
qualified name is an identifier, or two of them with a dot between.
-/

namespace GuardedQuery.Text

/-- May start an identifier. -/
def isIdentifierStart (c : Char) : Bool := c.isAlpha || c == '_'

/-- May follow the first character of an identifier. -/
def isIdentifierRest (c : Char) : Bool := c.isAlphanum || c == '_'

/-- The longest identifier at the start of the text, and the rest. -/
def identifier? : List Char → Option (List Char × List Char)
  | [] => none
  | c :: cs =>
    if isIdentifierStart c then
      some (c :: cs.takeWhile isIdentifierRest, cs.dropWhile isIdentifierRest)
    else none

/-- The longest qualified name at the start of the text, and the rest. A dot must be followed by a
second identifier. -/
def qualifiedName? (cs : List Char) : Option (List Char × List Char) :=
  match identifier? cs with
  | none => none
  | some (first, '.' :: rest) =>
    (identifier? rest).map fun (second, rest) => (first ++ '.' :: second, rest)
  | some (first, rest) => some (first, rest)

/-- The text is one identifier. -/
def isIdentifier (s : String) : Bool :=
  match identifier? s.toList with
  | some (_, []) => true
  | _ => false

/-- The text is one qualified name. -/
def isQualifiedName (s : String) : Bool :=
  match qualifiedName? s.toList with
  | some (_, []) => true
  | _ => false

end GuardedQuery.Text
