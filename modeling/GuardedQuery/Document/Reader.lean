import GuardedQuery.Document.Basic

/-!
# Reading JSON text

`Document.ofText` reads JSON text as far as it is JSON. Nesting of more than 127 arrays and objects
has no value. Numbers without fraction and exponent are integers where 64 bits hold them, but `-0`
is a floating point number; all others are read as a decimal significand of at most 64 bits and a
power of ten.
-/

namespace GuardedQuery.Document

/-! ## Blanks, strings -/

/-- The text without the JSON blanks at its start. -/
def skipBlanks (cs : List Char) : List Char :=
  cs.dropWhile fun c => c == ' ' || c == '\n' || c == '\t' || c == '\r'

/-- A part of a string literal. -/
inductive StringPart where
  | char (c : Char)
  /-- Half of a pair that stands for one character. -/
  | surrogate (code : Nat)

/-- The value of a hexadecimal digit. -/
def hexValue? (c : Char) : Option Nat :=
  if '0' ≤ c ∧ c ≤ '9' then some (c.toNat - '0'.toNat)
  else if 'a' ≤ c ∧ c ≤ 'f' then some (c.toNat - 'a'.toNat + 10)
  else if 'A' ≤ c ∧ c ≤ 'F' then some (c.toNat - 'A'.toNat + 10)
  else none

/-- The part written with four hexadecimal digits. -/
def hexPart? (a b c d : Char) : Option StringPart := do
  let a ← hexValue? a
  let b ← hexValue? b
  let c ← hexValue? c
  let d ← hexValue? d
  let code := ((a * 16 + b) * 16 + c) * 16 + d
  return if 0xD800 ≤ code ∧ code < 0xE000 then .surrogate code else .char (Char.ofNat code)

/-- The character written with a backslash and one letter. -/
def escaped? (c : Char) : Option Char :=
  match c with
  | '"' => some '"'
  | '\\' => some '\\'
  | '/' => some '/'
  | 'b' => some '\x08'
  | 'f' => some '\x0c'
  | 'n' => some '\n'
  | 'r' => some '\r'
  | 't' => some '\t'
  | _ => none

/-- The parts of a string literal after its opening quote, and the text after its closing quote. -/
def readString? : List Char → Option (List StringPart × List Char)
  | [] => none
  | '"' :: rest => some ([], rest)
  | '\\' :: 'u' :: a :: b :: c :: d :: rest => do
    let part ← hexPart? a b c d
    let (parts, rest) ← readString? rest
    return (part :: parts, rest)
  | '\\' :: e :: rest => do
    let c ← escaped? e
    let (parts, rest) ← readString? rest
    return (.char c :: parts, rest)
  | c :: rest =>
    if c.toNat < 0x20 || c == '\\' then none
    else do
      let (parts, rest) ← readString? rest
      return (.char c :: parts, rest)

/-- The characters of a string literal; `none` when a surrogate stands alone. -/
def joinParts? : List StringPart → Option (List Char)
  | [] => some []
  | .char c :: rest => (joinParts? rest).map (c :: ·)
  | .surrogate hi :: .surrogate lo :: rest =>
    if hi < 0xDC00 ∧ 0xDC00 ≤ lo then
      (joinParts? rest).map (Char.ofNat (0x10000 + (hi - 0xD800) * 0x400 + (lo - 0xDC00)) :: ·)
    else none
  | .surrogate _ :: _ => none

/-- The text of a string literal. -/
def stringOf? (parts : List StringPart) : Option String := (joinParts? parts).map String.ofList

/-! ## Numbers -/

/-- A number as written, in digits. -/
structure Numeral where
  negative : Bool
  whole : List Nat
  fraction : List Nat
  /-- The exponent; a number with fraction or exponent is no integer. -/
  power : Option Int

/-- The digits at the start of the text, and the rest. -/
def readDigits (cs : List Char) : List Nat × List Char :=
  ((cs.takeWhile Char.isDigit).map (·.toNat - '0'.toNat), cs.dropWhile Char.isDigit)

/-- The natural number with some decimal digits. -/
def ofDigits (digits : List Nat) : Nat := digits.foldl (10 * · + ·) 0

/-- The exponent after `e` or `E`. -/
def readPower? (cs : List Char) : Option (Int × List Char) :=
  let (sign, cs) := match cs with
    | '+' :: cs => ((1 : Int), cs)
    | '-' :: cs => (-1, cs)
    | cs => (1, cs)
  match readDigits cs with
  | ([], _) => none
  | (digits, rest) => some (sign * ofDigits digits, rest)

/-- The exponent, if the text goes on with one. -/
def readOptionalPower? (cs : List Char) : Option (Option Int × List Char) :=
  match cs with
  | 'e' :: cs | 'E' :: cs => (readPower? cs).map fun (e, rest) => (some e, rest)
  | cs => some (none, cs)

/-- A number, and the rest. No zero stands in front of other digits. -/
def readNumeral? (cs : List Char) : Option (Numeral × List Char) := do
  let (negative, cs) := match cs with
    | '-' :: cs => (true, cs)
    | cs => (false, cs)
  let (whole, cs) := readDigits cs
  guard (whole.length = 1 ∨ (whole.head?.getD 0 ≠ 0))
  let (fraction, cs) ← match cs with
    | '.' :: cs =>
      match readDigits cs with
      | ([], _) => none
      | (digits, rest) => some (digits, rest)
    | cs => some ([], cs)
  let (power, cs) ← readOptionalPower? cs
  return (⟨negative, whole, fraction, power⟩, cs)

/-- Appends digits to a significand while it fits 64 bits; gives the significand and the number of
digits that were left over. -/
def appendDigits (significand : Nat) : List Nat → Nat × Nat
  | [] => (significand, 0)
  | d :: ds =>
    let next := significand * 10 + d
    if next < Nat.pow 2 64 then appendDigits next ds else (significand, ds.length + 1)

/-- The value of a number as written; `none` when it is too large. -/
def Numeral.value? (n : Numeral) : Option Document :=
  let (whole, left) := appendDigits 0 n.whole
  if left = 0 ∧ n.fraction = [] ∧ n.power = none ∧ ¬ (n.negative ∧ (whole = 0 ∨ Nat.pow 2 63 < whole)) then
    (JsonInt.ofInt? (if n.negative then -whole else whole)).map .int
  else
    let (significand, dropped) := appendDigits whole n.fraction
    let e := (left : Int) - ((n.fraction.length - dropped : Nat) : Int) + n.power.getD 0
    (Binary64.ofDecimal? n.negative significand e).map .float

/-! ## Values -/

/-- Most arrays and objects inside each other. -/
def maxDepth : Nat := 127

/-- An array or object at some depth; it has no value when it lies too deep. -/
def nested (depth : Nat) (d : Document) (rest : Option (List Char)) :
    Document × Option (List Char) :=
  if depth ≤ maxDepth then (d, rest)
  else (if rest.isSome then .unreadable else .broken, rest)

mutual

/-- A value at the start of the text, and the text after it unless it is broken. `depth` counts the
arrays and objects around it; `fuel` bounds the number of steps. -/
def readValue (fuel depth : Nat) (cs : List Char) : Document × Option (List Char) :=
  match fuel with
  | 0 => (.broken, none)
  | fuel + 1 =>
    match skipBlanks cs with
    | 'n' :: 'u' :: 'l' :: 'l' :: rest => (.null, some rest)
    | 't' :: 'r' :: 'u' :: 'e' :: rest => (.bool true, some rest)
    | 'f' :: 'a' :: 'l' :: 's' :: 'e' :: rest => (.bool false, some rest)
    | '"' :: rest =>
      match readString? rest with
      | none => (.broken, none)
      | some (parts, rest) => (((stringOf? parts).map .string).getD .unreadable, some rest)
    | '[' :: rest =>
      let (items, rest) := readItems fuel (depth + 1) true rest
      nested (depth + 1) (.array items) rest
    | '\x7b' :: rest =>
      let (members, rest) := readMembers fuel (depth + 1) true rest
      nested (depth + 1) (.object members) rest
    | cs =>
      match readNumeral? cs with
      | none => (.broken, none)
      | some (n, rest) => (n.value?.getD .unreadable, some rest)

/-- The items of an array up to its closing bracket. -/
def readItems (fuel depth : Nat) (first : Bool) (cs : List Char) :
    List Document × Option (List Char) :=
  match fuel with
  | 0 => ([.broken], none)
  | fuel + 1 =>
    match skipBlanks cs, first with
    | ']' :: rest, _ => ([], some rest)
    | ',' :: rest, false => readItem fuel depth rest
    | _, false => ([.broken], none)
    | cs, true => readItem fuel depth cs

/-- An item and those after it. -/
def readItem (fuel depth : Nat) (cs : List Char) : List Document × Option (List Char) :=
  match fuel with
  | 0 => ([.broken], none)
  | fuel + 1 =>
    match readValue fuel depth cs with
    | (d, none) => ([d], none)
    | (d, some rest) =>
      let (items, rest) := readItems fuel depth false rest
      (d :: items, rest)

/-- The members of an object up to its closing brace. -/
def readMembers (fuel depth : Nat) (first : Bool) (cs : List Char) :
    List (Option String × Document) × Option (List Char) :=
  match fuel with
  | 0 => ([(none, .broken)], none)
  | fuel + 1 =>
    match skipBlanks cs, first with
    | '\x7d' :: rest, _ => ([], some rest)
    | ',' :: rest, false => readMember fuel depth (skipBlanks rest)
    | _, false => ([(none, .broken)], none)
    | cs, true => readMember fuel depth cs

/-- A member and those after it. -/
def readMember (fuel depth : Nat) (cs : List Char) :
    List (Option String × Document) × Option (List Char) :=
  match fuel with
  | 0 => ([(none, .broken)], none)
  | fuel + 1 =>
    match cs with
    | '"' :: rest =>
      match readString? rest with
      | none => ([(none, .broken)], none)
      | some (parts, rest) =>
        let key := stringOf? parts
        match skipBlanks rest with
        | ':' :: rest =>
          match readValue fuel depth rest with
          | (d, none) => ([(key, d)], none)
          | (d, some rest) =>
            let (members, rest) := readMembers fuel depth false rest
            ((key, d) :: members, rest)
        | _ => ([(key, .broken)], none)
    | cs => ([(none, .misplaced (readValue fuel depth cs).1)], none)

end

/-- A document and whether nothing but blanks follows it. -/
structure Reading where
  document : Document
  ended : Bool

/-- Reads JSON text. Between two characters of the text the reader takes at most three
steps. -/
def ofText (s : String) : Reading :=
  let cs := s.toList
  match readValue (3 * cs.length + 3) 0 cs with
  | (d, none) => ⟨d, false⟩
  | (d, some rest) => ⟨d, (skipBlanks rest).isEmpty⟩

end GuardedQuery.Document

namespace GuardedQuery.Json

/-- The value of JSON text. -/
def ofText? (s : String) : Option Json :=
  let r := Document.ofText s
  if r.ended then r.document.toJson? else none

end GuardedQuery.Json
