/-!
# Media types

The value of a content type header: a type, a subtype, optionally with a suffix after `+`, and
parameters. `MediaType.isJson` recognizes JSON and the types built on it.
-/

namespace GuardedQuery

namespace MediaType

/-- A character of a type or parameter. -/
def isTokenChar (c : Char) : Bool :=
  c.isAlphanum || ['!', '#', '$', '%', '&', '\'', '*', '+', '-', '.', '^', '_', '`', '|', '~'].contains c

/-- A character between quotes. -/
def isQuotable (c : Char) : Bool := decide (31 < c.toNat ∧ c.toNat < 127)

/-- How far the parameters have been read. -/
inductive Progress where
  /-- After a semicolon and perhaps spaces. -/
  | semicolon
  | name
  /-- In front of a value. -/
  | equals
  | value
  /-- After the opening quote. -/
  | quote
  | quoted
  /-- After the closing quote. -/
  | closed
  deriving DecidableEq, Repr

/-- Reads one character of the parameters. -/
def Progress.step : Progress → Char → Option Progress
  | .semicolon, ' ' => some .semicolon
  | .semicolon, c => if isTokenChar c then some .name else none
  | .name, '=' => some .equals
  | .name, c => if isTokenChar c then some .name else none
  | .equals, '"' => some .quote
  | .equals, c => if isTokenChar c then some .value else none
  | .value, ';' => some .semicolon
  | .value, c => if isTokenChar c then some .value else none
  | .quote, c => if isQuotable c then some .quoted else none
  | .quoted, '"' => some .closed
  | .quoted, c => if isQuotable c then some .quoted else none
  | .closed, ';' => some .semicolon
  | .closed, ' ' => some .closed
  | .closed, _ => none

/-- The parameters may end here. -/
def Progress.isEnd : Progress → Bool
  | .semicolon => true
  | .equals => true
  | .value => true
  | .closed => true
  | _ => false

/-- The characters after the first semicolon are parameters, or nothing. -/
def areParameters (cs : List Char) : Bool := (cs.foldlM Progress.step .semicolon).any Progress.isEnd

/-- The part of a subtype in front of its last `+` and the suffix after it. A `+` at the start belongs
to the subtype. -/
def splitSuffix (subtype : List Char) : List Char × Option (List Char) :=
  let suffix := (subtype.reverse.takeWhile (· != '+')).reverse
  let rest := subtype.take (subtype.length - suffix.length - 1)
  if suffix.length < subtype.length ∧ rest ≠ [] then (rest, some suffix) else (subtype, none)

/-- The text is a JSON media type: `application/json`, or a type with suffix `json`, in any casing. -/
def isJson (s : String) : Bool :=
  let cs := s.toList.map Char.toLower
  let type := cs.takeWhile (· != '/')
  let rest := (cs.dropWhile (· != '/')).drop 1
  let subtype := rest.takeWhile (· != ';')
  let parameters := (rest.dropWhile (· != ';')).drop 1
  let (name, suffix) := splitSuffix subtype
  let json := ['j', 's', 'o', 'n']
  type = "application".toList && subtype.all isTokenChar && areParameters parameters &&
    (name = json || suffix = some json)

end MediaType

end GuardedQuery
