/-!
# Blank characters

The Unicode property White_Space. It has 25 characters; six of them are ASCII.
-/

namespace GuardedQuery.Text

/-- Code point ranges of White_Space, both ends included. -/
def blankRanges : List (Nat × Nat) :=
  [(0x09, 0x0D), (0x20, 0x20), (0x85, 0x85), (0xA0, 0xA0), (0x1680, 0x1680), (0x2000, 0x200A),
   (0x2028, 0x2029), (0x202F, 0x202F), (0x205F, 0x205F), (0x3000, 0x3000)]

/-- The character has the property White_Space. -/
def isBlank (c : Char) : Bool := blankRanges.any fun (lo, hi) => lo ≤ c.toNat && c.toNat ≤ hi

/-- The text without the blank characters at its start. -/
def skipBlanks (cs : List Char) : List Char := cs.dropWhile isBlank

/-- At least one blank character, and what follows the last of them. -/
def blanks? : List Char → Option (List Char)
  | [] => none
  | c :: cs => if isBlank c then some (skipBlanks cs) else none

end GuardedQuery.Text
