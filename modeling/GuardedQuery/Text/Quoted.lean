import GuardedQuery.Text.Unseen

/-!
# Quoted text in messages

A text is shown between double quotes. Quotes and backslashes inside it get a backslash; a few
control characters have a letter; every other unseen character is shown by its number.
-/

namespace GuardedQuery.Text

/-- A character inside quoted text. -/
def showChar (c : Char) : List Char :=
  match c with
  | '"' => ['\\', '"']
  | '\\' => ['\\', '\\']
  | '\n' => ['\\', 'n']
  | '\r' => ['\\', 'r']
  | '\t' => ['\\', 't']
  | '\x00' => ['\\', '0']
  | c =>
    if isUnseen c then '\\' :: 'u' :: '\x7b' :: (Nat.toDigits 16 c.toNat ++ ['\x7d']) else [c]

/-- A text between double quotes. -/
def quoted (s : String) : String := String.ofList ('"' :: (s.toList.flatMap showChar ++ ['"']))

end GuardedQuery.Text
