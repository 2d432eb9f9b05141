import GuardedQuery.Allowlist.Column
import GuardedQuery.Allowlist.Join

/-!
# Allowlists

An allowlist names every table and view that a client may address, the columns permitted on each,
the joins of each view and how deep filters may nest. It is checked once, when it is made from a
draft (`Draft.check`); the empty allowlist permits nothing.
-/

namespace GuardedQuery

open Decode

/-- What a name that is no identifier was to name. -/
inductive NameRole where
  | table
  | aliasName
  | column
  deriving DecidableEq, Repr

def NameRole.text : NameRole → String
  | .table => "table"
  | .aliasName => "alias"
  | .column => "column"

/-- Why a draft is refused. -/
inductive AllowlistError where
  | invalidName (role : NameRole) (name : String)
  | noColumns (table : String)
  | viewNotListed (view : String)
  | unsafeJoin (view on : String)
  | zeroDepth
  deriving DecidableEq, Repr

def AllowlistError.message : AllowlistError → String
  | .invalidName role name => "invalid " ++ role.text ++ " identifier " ++ tick name
  | .noColumns table => "table " ++ tick table ++ " has an empty column allowlist"
  | .viewNotListed view => "join configuration " ++ tick view ++ " has no allowlist entry"
  | .unsafeJoin view on =>
    "join configuration " ++ tick view ++ " has an unsupported ON clause " ++ tick on
  | .zeroDepth => "max_condition_depth must be at least 1"

/-- The depth of filters that is permitted unless an allowlist says otherwise. -/
def defaultMaxDepth : UInt64 := 16

/-- An allowlist as it is written. -/
structure Draft where
  tables : Keyed (List String)
  views : Keyed View
  maxDepth : UInt64
  deriving DecidableEq

/-- A checked allowlist. -/
structure Allowlist where
  /-- The columns of every table and view. -/
  tables : Keyed (List Column)
  /-- The joins of every view. -/
  views : Keyed View
  maxDepth : UInt64
  deriving DecidableEq

namespace Draft

/-- Nothing is permitted. -/
def empty : Draft := ⟨.empty, .empty, defaultMaxDepth⟩

/-! ## Checks -/

/-- The column of an entry. -/
def column (entry : String) : Except AllowlistError Column :=
  match Column.ofEntry? entry with
  | some c => .ok c
  | none => .error (.invalidName .column entry)

/-- The columns of some entries. -/
def columns : List String → Except AllowlistError (List Column)
  | [] => .ok []
  | entry :: rest =>
    match column entry, columns rest with
    | .error e, _ => .error e
    | .ok _, .error e => .error e
    | .ok c, .ok cs => .ok (c :: cs)

/-- A table or view has a name and at least one column. -/
def checkTable (name : String) (entries : List String) : Except AllowlistError (List Column) :=
  if !Text.isQualifiedName name then .error (.invalidName .table name)
  else if entries.isEmpty then .error (.noColumns name)
  else columns entries

/-- A table reference consists of names. -/
def checkTableRef (table : String) (name : Option String) : Except AllowlistError Unit :=
  if !Text.isQualifiedName table then .error (.invalidName .table table)
  else match name with
    | some a => if Text.isIdentifier a then .ok () else .error (.invalidName .aliasName a)
    | none => .ok ()

/-- The joins of a view consist of names and equalities. -/
def checkJoins (view : String) : List Join → Except AllowlistError Unit
  | [] => .ok ()
  | j :: rest =>
    match checkTableRef j.table j.aliasName with
    | .error e => .error e
    | .ok () =>
      if Join.isConjunction j.on then checkJoins view rest else .error (.unsafeJoin view j.on)

/-- A view has columns, and its tables and joins are sound. -/
def checkView (tables : Keyed (List Column)) (name : String) (v : View) :
    Except AllowlistError View :=
  if !tables.contains name then .error (.viewNotListed name)
  else match checkTableRef v.source.table v.source.aliasName with
    | .error e => .error e
    | .ok () => (checkJoins name v.joins).map fun () => v

/-- The allowlist of a draft: depth, then tables, then views, each in order of names. -/
def check (d : Draft) : Except AllowlistError Allowlist :=
  if d.maxDepth = 0 then .error .zeroDepth
  else match d.tables.mapExcept checkTable with
    | .error e => .error e
    | .ok tables => (d.views.mapExcept (checkView tables)).map fun views => ⟨tables, views, d.maxDepth⟩

/-! ## JSON form -/

/-- A field with two spellings. -/
def field {α : Type} (name camel : String) (decoder : Decoder α) (absent : α) : Decode.Field α :=
  ⟨name, [camel, name], decoder, some absent⟩

def shape : Shape (Keyed (List String) × Keyed View × UInt64 × Unit)
    (Option (Keyed (List String)) × Option (Keyed View) × Option UInt64 × Unit) :=
  .field (field "allowed_tables" "allowedTables" (keyed (list string)) .empty) <|
    .field (field "join_configurations" "joinConfigurations" (keyed View.decoder) .empty) <|
      .field (field "max_condition_depth" "maxConditionDepth" size defaultMaxDepth) .done

def decoder : Decoder Draft :=
  convert (fun (tables, views, maxDepth, ()) => ⟨tables, views, maxDepth⟩)
    (record "RawQueryConfig" shape)

def toJson (d : Draft) : Json :=
  .ofMembers
    [("allowed_tables", .ofKeyed (d.tables.map fun _ entries => .ofStrings entries)),
     ("join_configurations", .ofKeyed (d.views.map fun _ v => v.toJson)),
     ("max_condition_depth", .int (.ofUInt64 d.maxDepth))]

end Draft

namespace Allowlist

/-- The columns of a table or view. -/
def columns? (a : Allowlist) (name : String) : Option (List Column) := a.tables.find? name

/-- The joins of a view. -/
def view? (a : Allowlist) (name : String) : Option View := a.views.find? name

/-- The draft with entries in normal form. -/
def toDraft (a : Allowlist) : Draft :=
  ⟨a.tables.map fun _ columns => columns.map Column.entry, a.views, a.maxDepth⟩

/-- Decodes and checks an allowlist. -/
def decoder : Decoder Allowlist :=
  refine (fun d =>
      match d.check with
      | .ok a => .ok a
      | .error e => .error (.refused e.message))
    Draft.decoder

def toJson (a : Allowlist) : Json := a.toDraft.toJson

end Allowlist

end GuardedQuery
