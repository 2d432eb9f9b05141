import GuardedQuery.Payload.Basic
import GuardedQuery.Proofs.Allowlist.Join
import GuardedQuery.Proofs.Condition.Wire
import GuardedQuery.Proofs.Statement.Acceptance

/-!
# Payloads as JSON

A payload is read back from its JSON form exactly if its filter is expressible in JSON, and what was
read from any document is (`Payload.reads_back_iff`).
-/

namespace GuardedQuery

open Decode

variable {κ : Type} {key : Decoder κ} {encode : κ → Json}

/-! ## Sort terms -/

theorem Direction.ofJson_name (d : Direction) : ofJson decoder (.string d.name) = .ok d :=
  ofJson_choice <| by cases d <;> rfl

theorem SortTerm.member?_toJson (t : SortTerm κ) (name : String) :
    (t.toJson encode).member? name =
      if name = "direction" then some (.string t.direction.name)
      else if name = "key" then some (encode t.key) else none := by
  show (Keyed.ofList _).find? name = _
  simp only [Keyed.find?_ofList_cons, Keyed.find?_ofList_nil]
  split <;> split <;> simp_all

theorem SortTerm.ofJson_toJson {t : SortTerm κ} (hkey : ofJson key (encode t.key) = .ok t.key) :
    ofJson (decoder key) (t.toJson encode) = .ok t := by
  have hreads : (shape key).Reads (t.toJson encode).member? (t.key, t.direction, ()) := by
    refine ⟨?_, ?_, trivial⟩
    · show Field.Reads _ ((t.toJson encode).member? "key") t.key
      rw [member?_toJson]
      exact hkey
    · show Field.Reads _ ((t.toJson encode).member? "direction") t.direction
      rw [member?_toJson]
      exact t.direction.ofJson_name
  have hrecord : ofJson (record "SortDescriptor" (shape key)) (t.toJson encode) =
      .ok (t.key, t.direction, ()) := by
    refine ofJson_record "SortDescriptor" rfl ?_ hreads
    simp [Shape.fieldNames, shape, required, defaulted]
  exact ofJson_convert hrecord

/-! ## Payloads -/

/-- A member that is left out when its list is empty. -/
theorem find?_listMember {α : Type} (name : String) (encode : α → Json) (items : List α)
    (key : String) :
    (Keyed.ofList (if items.isEmpty then [] else [(name, Json.array (items.map encode))])).find? key =
      if key = name then if items.isEmpty then none else some (.array (items.map encode))
      else none := by
  split
  · simp [Keyed.find?_ofList_nil]
  · simp [Keyed.find?_ofList_cons, Keyed.find?_ofList_nil]

namespace Payload

theorem member?_toJson (p : Payload κ) (name : String) :
    (p.toJson encode).member? name =
      (if name = "offset" then p.offset.map fun n => .int (.ofUInt64 n) else none).or
        ((if name = "limit" then p.limit.map fun n => .int (.ofUInt64 n) else none).or
          ((if name = "orderBy" then if p.order.isEmpty then none
              else some (.array (p.order.map (SortTerm.toJson encode))) else none).or
            ((if name = "where" then p.filter.map (Group.toJson encode) else none).or
              ((if name = "joins" then if p.joins.isEmpty then none
                  else some (.array (p.joins.map Join.toJson)) else none).or
                ((if name = "from" then p.source.map .string else none).or
                  (if name = "select" then some (.array (p.select.map encode)) else none)))))) := by
  rw [toJson, Json.member?_ofMembers]
  simp only [Keyed.find?_ofList_append, Keyed.find?_ofList_toList, find?_listMember,
    Keyed.find?_ofList_cons, Keyed.find?_ofList_nil, Option.none_or]

/-- The conditions of the filter are expressible in JSON: they hold no UUID, no number that is infinite
or NaN, and no empty list to look into. -/
def Expressible (p : Payload κ) : Prop := ∀ g ∈ p.filter, g.Expressible

theorem reads_toJson (hkey : ∀ k, ofJson key (encode k) = .ok k) (hencode : ∀ k, (encode k).Sorted)
    {p : Payload κ} (h : p.Expressible) :
    (shape key).Reads (p.toJson encode).member?
      (p.select, p.source, p.joins, p.filter, p.order, p.limit, p.offset, ()) := by
  refine ⟨?_, ?_, ?_, ?_, ?_, ?_, ?_, trivial⟩
  · show Field.Reads _ ((p.toJson encode).member? "select") p.select
    have hget : (p.toJson encode).member? "select" = some (.array (p.select.map encode)) := by
      simp [member?_toJson]
    rw [hget]
    exact ofJson_list fun k _ => hkey k
  · show Field.Reads _ ((p.toJson encode).member? "from") p.source
    have hget : (p.toJson encode).member? "from" = p.source.map .string := by
      simp [member?_toJson]
    rw [hget]
    exact Field.reads_option fun _ _ => ⟨rfl, rfl⟩
  · show Field.Reads _ ((p.toJson encode).member? "joins") p.joins
    have hget : (p.toJson encode).member? "joins" =
        if p.joins.isEmpty then none else some (.array (p.joins.map Join.toJson)) := by
      simp [member?_toJson]
    rw [hget]
    exact Field.reads_list fun j _ => j.ofJson_toJson
  · show Field.Reads _ ((p.toJson encode).member? "where") p.filter
    have hget : (p.toJson encode).member? "where" = p.filter.map (Group.toJson encode) := by
      simp [member?_toJson]
    rw [hget]
    exact Field.reads_option fun g hg => ⟨rfl, Group.ofJson_toJson hkey hencode (h g hg)⟩
  · show Field.Reads _ ((p.toJson encode).member? "orderBy") p.order
    have hget : (p.toJson encode).member? "orderBy" =
        if p.order.isEmpty then none else some (.array (p.order.map (SortTerm.toJson encode))) := by
      simp [member?_toJson]
    rw [hget]
    exact Field.reads_list fun t _ => SortTerm.ofJson_toJson (hkey t.key)
  · show Field.Reads _ ((p.toJson encode).member? "limit") p.limit
    have hget : (p.toJson encode).member? "limit" = p.limit.map fun n => .int (.ofUInt64 n) := by
      simp [member?_toJson]
    rw [hget]
    exact Field.reads_option fun n _ => ⟨rfl, ofJson_uint64 n⟩
  · show Field.Reads _ ((p.toJson encode).member? "offset") p.offset
    have hget : (p.toJson encode).member? "offset" = p.offset.map fun n => .int (.ofUInt64 n) := by
      simp [member?_toJson]
    rw [hget]
    exact Field.reads_option fun n _ => ⟨rfl, ofJson_uint64 n⟩

theorem ofJson_toJson (hkey : ∀ k, ofJson key (encode k) = .ok k)
    (hencode : ∀ k, (encode k).Sorted) {p : Payload κ} (h : p.Expressible) :
    ofJson (decoder key) (p.toJson encode) = .ok p := by
  have hrecord : ofJson (record "QueryPayload" (shape key)) (p.toJson encode) =
      .ok (p.select, p.source, p.joins, p.filter, p.order, p.limit, p.offset, ()) := by
    refine ofJson_record "QueryPayload" rfl ?_ (reads_toJson hkey hencode h)
    simp only [List.forall_mem_append]
    refine ⟨⟨⟨⟨⟨⟨?_, ?_⟩, ?_⟩, ?_⟩, ?_⟩, ?_⟩, ?_⟩ <;>
      simp [Shape.fieldNames, shape, required, defaulted]
  exact ofJson_convert hrecord

/-- Whatever a payload was read from, its filter is expressible. -/
theorem expressible_of_decoder {source : Source} {d : Document} {p : Payload κ}
    (h : decoder key source d = .ok p) : p.Expressible := by
  obtain ⟨⟨select, from', joins, filter, order, limit, offset, ⟨⟩⟩, hrecord, rfl⟩ :=
    convert_eq_ok.1 h
  obtain ⟨-, -, -, hfilter, -⟩ := came_of_record hrecord
  intro g hg
  rw [show filter = some g from hg] at hfilter
  obtain ⟨d, hd⟩ := Field.came_option hfilter
  exact Group.expressible_of_decoder hd

/-- What was read holds no empty list, so an empty list that the compiler refuses is the server's. -/
theorem emptyList_of_scope {source : Source} {d : Document} {p : Payload String}
    (h : freeDecoder source d = .ok p) {a : Allowlist} {dialect : Dialect} {o : Override}
    {op : Operator} (herror : p.compile a dialect o = .error (.malformed (.emptyList op))) :
    ∃ scope ∈ o.scope, ∃ x ∈ scope.conditions, ∃ negated,
      x.2 = .member negated [] ∧ op = .member negated := by
  obtain ⟨g, hg, x, hx, negated, hlist, hop⟩ := check_breaks (map_eq_error.1 herror)
  rcases List.mem_append.1 hg with hg | hg
  · exact ⟨g, Option.mem_toList.1 hg, x, hx, negated, hlist, hop⟩
  · have hexpressible := expressible_of_decoder h g (Option.mem_toList.1 hg) x hx
    exact absurd hlist (hexpressible.2 negated)

/-- **A payload is read back from its JSON form exactly if its filter is expressible.** Every payload
that was read is, whatever it was read from; so writing and reading it again changes nothing, and the
compiler finds an empty list only in a scope of the server. -/
theorem reads_back_iff :
    (∀ p : Payload String, ofJson freeDecoder p.freeToJson = .ok p ↔ p.Expressible) ∧
      ∀ (source : Source) (d : Document) (p : Payload String), freeDecoder source d = .ok p →
        p.Expressible ∧ ofJson freeDecoder p.freeToJson = .ok p ∧
          ∀ (a : Allowlist) (dialect : Dialect) (o : Override) (op : Operator),
            p.compile a dialect o = .error (.malformed (.emptyList op)) →
              ∃ scope ∈ o.scope, ∃ x ∈ scope.conditions, ∃ negated,
                x.2 = .member negated [] ∧ op = .member negated := by
  have hback : ∀ p : Payload String, p.Expressible → ofJson freeDecoder p.freeToJson = .ok p :=
    fun _ => ofJson_toJson ofJson_string fun _ => trivial
  refine ⟨fun p => ⟨expressible_of_decoder, hback p⟩, fun source d p h => ?_⟩
  have hexpressible : p.Expressible := expressible_of_decoder h
  exact ⟨hexpressible, hback p hexpressible, fun _ _ _ _ => emptyList_of_scope h⟩

end Payload

end GuardedQuery
