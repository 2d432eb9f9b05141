import GuardedQuery.Decode.Shape

/-!
# Pool options

Bounds of a pool of database connections. Whatever is left out is up to the pool.
-/

namespace GuardedQuery

open Decode

/-- Options of a pool of connections. -/
structure PoolOptions where
  mostConnections : Option UInt32
  leastConnections : Option UInt32
  /-- How many seconds to wait for a connection. -/
  patience : Option UInt64
  /-- Every statement is logged. -/
  logsStatements : Bool
  deriving DecidableEq, Repr

namespace PoolOptions

/-- Everything is up to the pool. -/
def none : PoolOptions := ⟨.none, .none, .none, false⟩

def shape : Shape (Option UInt32 × Option UInt32 × Option UInt64 × Bool × Unit)
    (Option (Option UInt32) × Option (Option UInt32) × Option (Option UInt64) × Option Bool × Unit) :=
  .field (defaulted "max_conns" (optional uint32) .none) <|
    .field (defaulted "min_conns" (optional uint32) .none) <|
      .field (defaulted "acquire_timeout_secs" (optional uint64) .none) <|
        .field (defaulted "sqlx_logging" bool false) .done

def decoder : Decoder PoolOptions :=
  convert (fun (most, least, patience, logs, ()) => ⟨most, least, patience, logs⟩)
    (record "ConnectOpts" shape)

def toJson (o : PoolOptions) : Json :=
  let number {α : Type} (encode : α → JsonInt) (value : Option α) : Json :=
    match value with
    | some n => .int (encode n)
    | .none => .null
  .ofMembers
    [("max_conns", number .ofUInt32 o.mostConnections),
     ("min_conns", number .ofUInt32 o.leastConnections),
     ("acquire_timeout_secs", number .ofUInt64 o.patience), ("sqlx_logging", .bool o.logsStatements)]

end PoolOptions

end GuardedQuery
