import GuardedQuery.Json.Basic

/-!
# JSON text

The compact text of a JSON value: no blanks, members in order, strings with the escapes that JSON
demands and no others.
-/

namespace GuardedQuery.Json

/-- A character inside a string literal. -/
def escape (c : Char) : List Char :=
  match c with
  | '"' => ['\\', '"']
  | '\\' => ['\\', '\\']
  | '\x08' => ['\\', 'b']
  | '\x0c' => ['\\', 'f']
  | '\n' => ['\\', 'n']
  | '\r' => ['\\', 'r']
  | '\t' => ['\\', 't']
  | c => if c.toNat < 0x20 then '\\' :: 'u' :: Binary64.hexDigits 4 c.toNat else [c]

/-- A string literal. -/
def quote (s : String) : List Char := '"' :: (s.toList.flatMap escape ++ ['"'])

mutual

/-- The characters of the compact text. -/
def chars : Json → List Char
  | .null => "null".toList
  | .bool b => (if b then "true" else "false").toList
  | .int i => (toString i.val).toList
  | .float x => (x.val.render .json).toList
  | .string s => quote s
  | .array items => '[' :: (charsOfItems items ++ [']'])
  | .object members => '\x7b' :: (charsOfMembers members ++ ['\x7d'])

/-- Items with commas between. -/
def charsOfItems : List Json → List Char
  | [] => []
  | [j] => j.chars
  | j :: rest => j.chars ++ ',' :: charsOfItems rest

/-- Members with commas between. -/
def charsOfMembers : List (String × Json) → List Char
  | [] => []
  | [(k, j)] => quote k ++ ':' :: j.chars
  | (k, j) :: rest => quote k ++ ':' :: (j.chars ++ ',' :: charsOfMembers rest)

end

/-- The compact text. -/
def text (j : Json) : String := String.ofList j.chars

end GuardedQuery.Json
