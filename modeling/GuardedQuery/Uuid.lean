import GuardedQuery.Document.Reader

/-!
# UUIDs

A UUID is a number of 128 bits. It is written as 32 lower case hexadecimal digits in groups of 8, 4,
4, 4 and 12 with hyphens between; it is also read in upper case, without hyphens, between braces and
after `urn:uuid:`.
-/

namespace GuardedQuery

/-- A number of 128 bits. -/
structure Uuid where
  bits : BitVec 128
  deriving DecidableEq, Repr

namespace Uuid

/-- The characters of the written form. -/
def chars (u : Uuid) : List Char :=
  let hex := Binary64.hexDigits 32 u.bits.toNat
  let group (start length : Nat) := (hex.drop start).take length
  group 0 8 ++ '-' :: group 8 4 ++ '-' :: group 12 4 ++ '-' :: group 16 4 ++ '-' :: group 20 12

/-- The written form. -/
def text (u : Uuid) : String := String.ofList u.chars

/-- The number with some hexadecimal digits. -/
def ofHex? (cs : List Char) : Option Uuid :=
  if cs.length = 32 then
    (cs.foldlM (fun n c => (Document.hexValue? c).map (16 * n + ·)) 0).map fun n => ⟨BitVec.ofNat 128 n⟩
  else none

/-- Reads digits with hyphens after the groups, or without any. -/
def ofDigits? (cs : List Char) : Option Uuid :=
  if cs.length = 36 then
    if [8, 13, 18, 23].all fun i => cs[i]? == some '-' then ofHex? (cs.filter (· != '-')) else none
  else ofHex? cs

/-- Reads any of the written forms. -/
def ofText? (s : String) : Option Uuid :=
  match s.toList with
  | 'u' :: 'r' :: 'n' :: ':' :: 'u' :: 'u' :: 'i' :: 'd' :: ':' :: cs =>
    if cs.length = 36 then ofDigits? cs else none
  | '\x7b' :: cs =>
    if cs.getLast? = some '\x7d' then ofDigits? cs.dropLast else none
  | cs => ofDigits? cs

end Uuid

end GuardedQuery
