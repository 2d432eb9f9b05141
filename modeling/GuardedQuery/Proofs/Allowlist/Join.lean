import GuardedQuery.Allowlist.Join
import GuardedQuery.Proofs.Decode.Record

/-!
# Joins and views as JSON

Joins, table references and views are read back from their JSON form, with or without an alias.
-/

namespace GuardedQuery

open Decode

theorem JoinKind.ofJson_name (k : JoinKind) : ofJson decoder (.string k.name) = .ok k :=
  ofJson_choice <| by cases k <;> rfl

theorem find?_aliasMember (name : Option String) (key : String) :
    (Keyed.ofList (aliasMember name)).find? key =
      if key = "alias" then name.map Json.string else none :=
  Keyed.find?_ofList_toList "alias" Json.string name key

/-- A name that may be missing is read back. -/
theorem reads_alias (name : Option String) :
    Field.Reads (defaulted "alias" (optional string) none) (name.map Json.string) name :=
  Field.reads_option fun _ _ => ⟨rfl, rfl⟩

theorem TableRef.member?_toJson (t : TableRef) (key : String) :
    t.toJson.member? key =
      if key = "alias" then t.aliasName.map Json.string
      else if key = "table" then some (.string t.table) else none := by
  show (Keyed.ofList _).find? key = _
  rw [Keyed.find?_ofList_cons, find?_aliasMember]
  split <;> split <;> simp_all

theorem TableRef.ofJson_toJson (t : TableRef) : ofJson decoder t.toJson = .ok t := by
  have hreads : shape.Reads t.toJson.member? (t.table, t.aliasName, ()) := by
    refine ⟨?_, ?_, trivial⟩
    · show Field.Reads _ (t.toJson.member? "table") t.table
      rw [member?_toJson]
      rfl
    · show Field.Reads _ (t.toJson.member? "alias") t.aliasName
      rw [member?_toJson, if_pos rfl]
      exact reads_alias t.aliasName
  have hrecord : ofJson (record "TableRef" shape) t.toJson = .ok (t.table, t.aliasName, ()) := by
    refine ofJson_record "TableRef" rfl ?_ hreads
    simp [Shape.fieldNames, shape, required, defaulted, aliasMember]
  exact ofJson_convert hrecord

theorem Join.member?_toJson (j : Join) (key : String) :
    j.toJson.member? key =
      if key = "alias" then j.aliasName.map Json.string
      else if key = "on" then some (.string j.on)
      else if key = "table" then some (.string j.table)
      else if key = "type" then some (.string j.kind.name) else none := by
  show (Keyed.ofList _).find? key = _
  rw [Keyed.find?_ofList_append, find?_aliasMember]
  simp only [Keyed.find?_ofList_cons, Keyed.find?_ofList_nil]
  by_cases halias : key = "alias"
  · subst halias
    simp
  · rw [if_neg halias, if_neg halias, Option.none_or]
    split <;> split <;> simp_all

theorem Join.ofJson_toJson (j : Join) : ofJson decoder j.toJson = .ok j := by
  have hreads : shape.Reads j.toJson.member? (j.kind, j.table, j.aliasName, j.on, ()) := by
    refine ⟨?_, ?_, ?_, ?_, trivial⟩
    · show Field.Reads _ (j.toJson.member? "type") j.kind
      rw [member?_toJson]
      exact j.kind.ofJson_name
    · show Field.Reads _ (j.toJson.member? "table") j.table
      rw [member?_toJson]
      rfl
    · show Field.Reads _ (j.toJson.member? "alias") j.aliasName
      rw [member?_toJson, if_pos rfl]
      exact reads_alias j.aliasName
    · show Field.Reads _ (j.toJson.member? "on") j.on
      rw [member?_toJson]
      rfl
  have hrecord : ofJson (record "JoinClause" shape) j.toJson =
      .ok (j.kind, j.table, j.aliasName, j.on, ()) := by
    refine ofJson_record "JoinClause" rfl ?_ hreads
    simp [Shape.fieldNames, shape, required, defaulted, aliasMember]
  exact ofJson_convert hrecord

theorem View.member?_toJson (v : View) (key : String) :
    v.toJson.member? key =
      if key = "joins" then some (.array (v.joins.map Join.toJson))
      else if key = "from" then some v.source.toJson else none := by
  show (Keyed.ofList _).find? key = _
  simp only [Keyed.find?_ofList_cons, Keyed.find?_ofList_nil]
  split <;> split <;> simp_all

theorem View.ofJson_toJson (v : View) : ofJson decoder v.toJson = .ok v := by
  have hreads : shape.Reads v.toJson.member? (v.source, v.joins, ()) := by
    refine ⟨?_, ?_, trivial⟩
    · show Field.Reads _ (v.toJson.member? "from") v.source
      rw [member?_toJson]
      exact v.source.ofJson_toJson
    · show Field.Reads _ (v.toJson.member? "joins") v.joins
      rw [member?_toJson, if_pos rfl]
      exact ofJson_list fun j _ => j.ofJson_toJson
  have hrecord : ofJson (record "JoinConfiguration" shape) v.toJson =
      .ok (v.source, v.joins, ()) := by
    refine ofJson_record "JoinConfiguration" rfl ?_ hreads
    simp [Shape.fieldNames, shape, required, defaulted]
  exact ofJson_convert hrecord

end GuardedQuery
