import GuardedQuery.Keyed
import GuardedQuery.Number.Layout

/-!
# JSON values

Numbers are integers of 64 bits, signed or unsigned, or finite binary64 numbers; the two kinds are
never equal. The members of an object are in order of their keys, each key once.
-/

namespace GuardedQuery

/-- An integer that fits 64 bits, signed or unsigned: from `-2 ^ 63` on and below `2 ^ 64`. -/
structure JsonInt where
  val : Int
  lower : -9223372036854775808 ≤ val
  upper : val < 18446744073709551616
  deriving DecidableEq

namespace JsonInt

/-- The integer, if it fits. -/
def ofInt? (i : Int) : Option JsonInt :=
  if h : -9223372036854775808 ≤ i ∧ i < 18446744073709551616 then some ⟨i, h.1, h.2⟩ else none

def ofInt64 (i : Int64) : JsonInt :=
  ⟨i.toInt, Int64.le_toInt i, by have := Int64.toInt_lt i; omega⟩

def ofUInt64 (n : UInt64) : JsonInt :=
  ⟨n.toNat, by omega, by have := UInt64.toNat_lt n; omega⟩

def ofUInt32 (n : UInt32) : JsonInt :=
  ⟨n.toNat, by omega, by have := UInt32.toNat_lt n; omega⟩

end JsonInt

/-- A JSON value. -/
inductive Json where
  | null
  | bool (b : Bool)
  | int (i : JsonInt)
  | float (x : FiniteBinary64)
  | string (s : String)
  | array (items : List Json)
  | object (members : List (String × Json))

namespace Json

instance : Inhabited Json := ⟨.null⟩

/-- The number, or `null` where JSON has none. -/
def ofBinary64 (x : Binary64) : Json :=
  if h : x.isFinite = true then .float ⟨x, h⟩ else .null

/-- The object of some members; of two members with one key the last counts. -/
def ofMembers (members : List (String × Json)) : Json := .object (Keyed.ofList members).pairs

def isNull : Json → Bool
  | .null => true
  | _ => false

/-- The member of an object. -/
def member? (j : Json) (key : String) : Option Json :=
  match j with
  | .object members => members.lookup key
  | _ => none

/-- The object of a map. -/
def ofKeyed (m : Keyed Json) : Json := .object m.pairs

/-- Strings as an array. -/
def ofStrings (ss : List String) : Json := .array (ss.map .string)

mutual

/-- How deep arrays and objects are nested; 0 for a scalar. -/
def depth : Json → Nat
  | .array items => depthItems items + 1
  | .object members => depthMembers members + 1
  | _ => 0

/-- Greatest depth among some values. -/
def depthItems : List Json → Nat
  | [] => 0
  | j :: rest => max j.depth (depthItems rest)

/-- Greatest depth among the values of some members. -/
def depthMembers : List (String × Json) → Nat
  | [] => 0
  | (_, j) :: rest => max j.depth (depthMembers rest)

end

end Json

end GuardedQuery
