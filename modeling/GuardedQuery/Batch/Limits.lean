import GuardedQuery.Decode.Shape

/-!
# Page limits

A page of a batch load has the number of rows that the client asks for, or a usual number, and never
more than a greatest number (`PageLimits.clamp`).
-/

namespace GuardedQuery

open Decode

/-- How many rows a page has. -/
structure PageLimits where
  /-- The rows of a page when the client asks for no number. -/
  usual : UInt64
  /-- The most rows of a page. -/
  greatest : UInt64
  deriving DecidableEq, Repr

namespace PageLimits

/-- 25 rows, or up to 200 on request. -/
def standard : PageLimits := ⟨25, 200⟩

/-- The limit of a page. -/
def clamp (l : PageLimits) (requested : Option UInt64) : UInt64 :=
  min (requested.getD l.usual) l.greatest

/-! ## JSON form -/

def shape : Shape (UInt64 × UInt64 × Unit) (Option UInt64 × Option UInt64 × Unit) :=
  .field (defaulted "default" uint64 standard.usual) <|
    .field (defaulted "max" uint64 standard.greatest) .done

def decoder : Decoder PageLimits :=
  convert (fun (usual, greatest, ()) => ⟨usual, greatest⟩) (record "LimitCfg" shape)

def toJson (l : PageLimits) : Json :=
  .ofMembers [("default", .int (.ofUInt64 l.usual)), ("max", .int (.ofUInt64 l.greatest))]

end PageLimits

end GuardedQuery
