import GuardedQuery.Decode.Basic
import GuardedQuery.Literal

/-!
# JSON form of literals

A literal on its own is read from any JSON scalar but null.
-/

namespace GuardedQuery

open Decode

/-- A literal has no tag: the first kind that fits counts. -/
def Literal.decoder : Decoder Literal :=
  refine (fun j =>
      match Literal.ofJson j with
      | .ok l => .ok l
      | .error _ => .error (.unmatched "QueryValue"))
    json

end GuardedQuery
