/-!
# Keywords without regard to case

Two characters are the same letter when simple case folding maps them to one character. Of the
ASCII letters `s` and `k` have a third form, the long s and the Kelvin sign.
-/

namespace GuardedQuery.Text

/-- The characters that fold to a lower case ASCII letter. -/
def caseForms (c : Char) : List Char :=
  match c with
  | 's' => ['s', 'S', '\u017f']
  | 'k' => ['k', 'K', '\u212a']
  | c => [c, c.toUpper]

/-- Reads a keyword, given in lower case, in any casing, and gives the rest. -/
def keyword? : List Char → List Char → Option (List Char)
  | [], cs => some cs
  | _ :: _, [] => none
  | k :: ks, c :: cs => if (caseForms k).contains c then keyword? ks cs else none

end GuardedQuery.Text
