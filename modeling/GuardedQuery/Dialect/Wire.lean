import GuardedQuery.Decode.Basic
import GuardedQuery.Dialect

/-!
# JSON form of dialects

A dialect is read and written by its name.
-/

namespace GuardedQuery

open Decode

def Dialect.decoder : Decoder Dialect := choice "Dialect" (Dialect.all.map fun d => (d.name, d))

end GuardedQuery
