import GuardedQuery.Statement.Aggregate

/-!
# Batch recipes

A recipe names a list of parents and the children that each parent is served with.
-/

namespace GuardedQuery

open Decode

/-- Parents with their children. -/
structure Recipe where
  /-- The table or view of the parents. -/
  view : String
  /-- The key of the parents' primary key in that view. -/
  primaryKey : String
  children : Relation
  /-- The field of a row that holds the children. -/
  childrenField : String
  deriving DecidableEq, Repr

namespace Recipe

def shape : Shape (String × String × Relation × String × Unit)
    (Option String × Option String × Option Relation × Option String × Unit) :=
  .field (required "view" string) <| .field (required "primary_key" string) <|
    .field (required "children" Relation.decoder) <|
      .field (defaulted "children_field" string "children") .done

def decoder : Decoder Recipe :=
  convert (fun (view, primaryKey, children, childrenField, ()) =>
      ⟨view, primaryKey, children, childrenField⟩)
    (record "BatchRecipe" shape)

def toJson (r : Recipe) : Json :=
  .ofMembers
    [("view", .string r.view), ("primary_key", .string r.primaryKey),
     ("children", r.children.toJson), ("children_field", .string r.childrenField)]

end Recipe

end GuardedQuery
