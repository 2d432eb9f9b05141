import GuardedQuery.Decode.Basic
import GuardedQuery.Text.Blank

/-!
# Environment variables

A variable gives one setting. Its name is the path of the setting, its text a value: a boolean, a
number, quoted text, a list `[a, b]` or a table `{k=v}`; any other text stands for itself.
-/

namespace GuardedQuery

namespace Variable

/-! ## Values -/

def isBlank (c : Char) : Bool :=
  c = ' ' || c = '\t' || c = '\n' || c = '\r' || c = Char.ofNat 0x0C

def skipBlanks (cs : List Char) : List Char := cs.dropWhile isBlank

/-- A character of text without quotes. -/
def isBare (c : Char) : Bool := !([',', '\x7b', '\x7d', '[', ']'].contains c)

/-- A character of a name in a table. -/
def isNameChar (c : Char) : Bool := c.isAlphanum || c = '_' || c = '-'

/-- The digits of a number, at least one. -/
def natural? (cs : List Char) : Option Nat :=
  if cs.isEmpty || !cs.all Char.isDigit then none
  else some (cs.foldl (fun n c => 10 * n + (c.toNat - '0'.toNat)) 0)

/-- The sign in front of a number: whether it is negative, and what follows. -/
def sign : List Char → Bool × List Char
  | '-' :: cs => (true, cs)
  | '+' :: cs => (false, cs)
  | cs => (false, cs)

/-- An integer of 64 bits, signed or unsigned. -/
def integer? (cs : List Char) : Option JsonInt := do
  let (negative, digits) := sign cs
  let n ← natural? digits
  JsonInt.ofInt? (if negative then -(n : Int) else n)

/-- An exponent so large or small that the number with `digits` digits is infinite or zero is as good
as any other. -/
def boundExponent (digits : Nat) (e : Int) : Int := max (-(digits + 400 : Int)) (min 400 e)

/-- A number with a decimal point and perhaps an exponent. -/
def float? (cs : List Char) : Option Binary64 := do
  let (negative, cs) := sign cs
  let whole := cs.takeWhile Char.isDigit
  let fraction ← match cs.dropWhile Char.isDigit with
    | '.' :: rest => some (rest.takeWhile Char.isDigit)
    | _ => none
  if whole.isEmpty && fraction.isEmpty then none
  let exponent ← match cs.drop (whole.length + 1 + fraction.length) with
    | [] => some 0
    | c :: rest =>
      if c = 'e' ∨ c = 'E' then
        let (negative, digits) := sign rest
        (natural? digits).map fun n => if negative then -(n : Int) else n
      else none
  let digits := whole ++ fraction
  let n ← natural? digits
  return .ofDecimalNearest negative n (boundExponent digits.length (exponent - fraction.length))

/-- Text without quotes. -/
def ofBare (cs : List Char) : Document :=
  let cs := (Text.skipBlanks (Text.skipBlanks cs).reverse).reverse
  match if cs.contains '.' then float? cs else none with
  | some x => .float x
  | none =>
    match integer? cs with
    | some i => .int i
    | none => .string (String.ofList cs)

/-- The character with a code in some hexadecimal digits. -/
def unicode? (digits : List Char) : Option Char := do
  let n ← digits.foldlM (fun n c => (Document.hexValue? c).map (16 * n + ·)) 0
  if n.isValidChar then some (Char.ofNat n) else none

/-- Reads text up to the closing quote, after the opening one. -/
def quoted? : List Char → Option (List Char × List Char)
  | [] => none
  | '"' :: rest => some ([], rest)
  | '\\' :: '"' :: rest => (quoted? rest).map fun (cs, rest) => ('"' :: cs, rest)
  | '\\' :: '\\' :: rest => (quoted? rest).map fun (cs, rest) => ('\\' :: cs, rest)
  | '\\' :: 'b' :: rest => (quoted? rest).map fun (cs, rest) => (Char.ofNat 0x08 :: cs, rest)
  | '\\' :: 'f' :: rest => (quoted? rest).map fun (cs, rest) => (Char.ofNat 0x0C :: cs, rest)
  | '\\' :: 'n' :: rest => (quoted? rest).map fun (cs, rest) => ('\n' :: cs, rest)
  | '\\' :: 'r' :: rest => (quoted? rest).map fun (cs, rest) => ('\r' :: cs, rest)
  | '\\' :: 't' :: rest => (quoted? rest).map fun (cs, rest) => ('\t' :: cs, rest)
  | '\\' :: 'u' :: a :: b :: c :: d :: rest =>
    match unicode? [a, b, c, d], quoted? rest with
    | some x, some (cs, rest) => some (x :: cs, rest)
    | _, _ => none
  | '\\' :: 'U' :: a :: b :: c :: d :: e :: f :: g :: h :: rest =>
    match unicode? [a, b, c, d, e, f, g, h], quoted? rest with
    | some x, some (cs, rest) => some (x :: cs, rest)
    | _, _ => none
  | '\\' :: _ => none
  | c :: rest =>
    if (c.toNat < 0x20 ∧ c ≠ '\t') ∨ c.toNat = 0x7F then none
    else (quoted? rest).map fun (cs, rest) => (c :: cs, rest)

/-- Reads a name in a table. -/
def name? : List Char → Option (String × List Char)
  | '"' :: rest => (quoted? rest).map fun (cs, rest) => (String.ofList cs, rest)
  | cs =>
    let name := cs.takeWhile isNameChar
    if name.isEmpty then none else some (String.ofList name, cs.dropWhile isNameChar)

/-- The items of a list or table up to the closing character. The last item may be followed by a
comma. At most `fuel` items are read. -/
def items? {α : Type} (item : List Char → Option (α × List Char)) (close : Char) :
    Nat → List Char → Option (List α × List Char)
  | 0, _ => none
  | fuel + 1, cs =>
    match cs with
    | [] => none
    | c :: rest =>
      if c = close then some ([], rest)
      else
        match item (c :: rest) with
        | none => none
        | some (a, ',' :: rest) =>
          (items? item close fuel rest).map fun (items, rest) => (a :: items, rest)
        | some (a, d :: rest) => if d = close then some ([a], rest) else none
        | some (_, []) => none

/-- The table of some pairs. -/
def table (pairs : List (String × Document)) : Document :=
  .object ((Keyed.ofList pairs).pairs.map fun (k, d) => (some k, d))

/-- Reads a value nested in at most `fuel` lists and tables, and the blanks around it. -/
def value? : Nat → List Char → Option (Document × List Char)
  | 0, _ => none
  | fuel + 1, cs =>
    let pair (cs : List Char) : Option ((String × Document) × List Char) := do
      let (name, cs) ← name? (skipBlanks cs)
      match skipBlanks cs with
      | '=' :: cs => (value? fuel cs).map fun (d, cs) => ((name, d), cs)
      | _ => none
    let cs := skipBlanks cs
    let result : Option (Document × List Char) := match cs with
      | 't' :: 'r' :: 'u' :: 'e' :: rest => some (.bool true, rest)
      | 'f' :: 'a' :: 'l' :: 's' :: 'e' :: rest => some (.bool false, rest)
      | '[' :: rest =>
        (items? (value? fuel) ']' (rest.length + 1) rest).map fun (ds, rest) => (.array ds, rest)
      | '\x7b' :: rest =>
        (items? pair '\x7d' (rest.length + 1) rest).map fun (ps, rest) => (table ps, rest)
      | '"' :: rest => (quoted? rest).map fun (cs, rest) => (.string (String.ofList cs), rest)
      | '\'' :: c :: '\'' :: rest => some (.string (String.ofList [c]), rest)
      | '\'' :: _ => none
      | cs => some (ofBare (cs.takeWhile isBare), cs.dropWhile isBare)
    result.map fun (d, rest) => (d, skipBlanks rest)

/-- The value of a text. -/
def ofText (s : String) : Document :=
  let cs := s.toList
  match value? (cs.length + 1) cs with
  | some (d, []) => d
  | _ => .string s

/-! ## Names -/

/-- Splits at dots, and at two underscores in a row. -/
def components : List Char → List (List Char)
  | [] => [[]]
  | '.' :: rest => [] :: components rest
  | '_' :: '_' :: rest => [] :: components rest
  | c :: rest =>
    match components rest with
    | [] => [[c]]
    | first :: others => (c :: first) :: others

/-- The characters after some leading ones in any casing. -/
def dropLeading? : List Char → List Char → Option (List Char)
  | [], cs => some cs
  | _ :: _, [] => none
  | p :: ps, c :: cs => if p.toLower = c.toLower then dropLeading? ps cs else none

/-- Every setting may be given by a variable whose name starts like this. -/
def leading : String := "SQLGATE_"

/-- The path of the setting that a variable gives, in lower case. -/
def path? (name : String) : Option (List String) :=
  match dropLeading? leading.toList name.toList with
  | none => none
  | some rest =>
    let parts := components rest
    if parts.any List.isEmpty then none
    else some (parts.map fun cs => String.ofList (cs.map Char.toLower))

end Variable

end GuardedQuery
