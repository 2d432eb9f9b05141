import GuardedQuery.Condition.Wire
import GuardedQuery.Proofs.Condition.Tree
import GuardedQuery.Proofs.Decode.Record
import GuardedQuery.Proofs.Json.Sorted
import GuardedQuery.Proofs.Number.Range

/-!
# Conditions as JSON

JSON has no UUIDs and no infinite numbers, and a membership test is refused without a list to look
into. Conditions without these are `Expressible`: they are read back from their JSON form
(`Node.ofJson_toJson`), and what was read from JSON is expressible (`Group.expressible_of_decoder`).
-/

namespace GuardedQuery

open Decode

/-! ## Literals -/

namespace Literal

/-- The literal has a JSON form of its own. -/
def Expressible : Literal → Prop
  | .uuid _ => False
  | .float x => x.isFinite = true
  | _ => True

theorem ofJson_toJson {l : Literal} (h : l.Expressible) : ofJson l.toJson = .ok l := by
  cases l with
  | bool b => rfl
  | int i =>
    have hsmall : (JsonInt.ofInt64 i).val < 9223372036854775808 := Int64.toInt_lt i
    rw [toJson, ofJson, ofJsonInt, if_pos hsmall]
    show Except.ok (Literal.int (Int64.ofInt i.toInt)) = _
    rw [Int64.ofInt_toInt]
  | float x =>
    have hfinite : x.isFinite = true := h
    rw [toJson, Json.ofBinary64, dif_pos hfinite, ofJson]
  | text s => rfl
  | uuid u => exact h.elim

theorem expressible_ofJson {j : Json} {l : Literal} (h : ofJson j = .ok l) : l.Expressible := by
  cases j with
  | null => cases h
  | bool b => cases h; trivial
  | int i =>
    cases h
    rw [ofJsonInt]
    split
    case isTrue => trivial
    case isFalse hlarge => exact Binary64.isFinite_ofInt (Int.not_lt.1 hlarge) i.upper
  | float x => cases h; exact x.property
  | string s => cases h; trivial
  | array _ => cases h
  | object _ => cases h

theorem isNull_toJson {l : Literal} (h : l.Expressible) : l.toJson.isNull = false := by
  cases l with
  | float x =>
    have hfinite : x.isFinite = true := h
    rw [toJson, Json.ofBinary64, dif_pos hfinite]
    rfl
  | _ => rfl

theorem sorted_toJson (l : Literal) : l.toJson.Sorted := by
  cases l with
  | float x =>
    rw [toJson, Json.ofBinary64]
    split <;> trivial
  | _ => trivial

end Literal

/-! ## Predicates -/

namespace Predicate

/-- The literals are expressible, and there is one where a list is needed. -/
def Expressible (p : Predicate) : Prop :=
  (∀ v ∈ p.literals, v.Expressible) ∧ ∀ negated, p ≠ .member negated []

/-- The literals of a list are those of its items, each accepted by itself. -/
theorem literalsOfJson_eq_ok {op : Operator} {items : List Json} {vs : List Literal} :
    literalsOfJson op items = .ok vs ↔ List.Forall₂ (fun j v => Literal.ofJson j = .ok v) items vs := by
  have hmapM : literalsOfJson op items =
      items.mapM fun j => (Literal.ofJson j).mapError (PredicateError.literal op) := by
    induction items with
    | nil => rfl
    | cons j rest ih =>
      rw [literalsOfJson, List.mapM_cons, ih]
      cases Literal.ofJson j with
      | error e => rfl
      | ok v => cases rest.mapM fun j => (Literal.ofJson j).mapError (PredicateError.literal op) <;> rfl
  have hitem : ∀ j v, (Literal.ofJson j).mapError (PredicateError.literal op) = .ok v ↔
      Literal.ofJson j = .ok v := by
    intro j v
    cases Literal.ofJson j <;> simp [Except.mapError]
  simp only [hmapM, mapM_eq_ok_iff, hitem]

theorem literalsOfJson_map {op : Operator} {vs : List Literal} (h : ∀ v ∈ vs, v.Expressible) :
    literalsOfJson op (vs.map Literal.toJson) = .ok vs := by
  rw [literalsOfJson_eq_ok, List.forall₂_map_left_iff, List.forall₂_same]
  exact fun v hv => Literal.ofJson_toJson (h v hv)

theorem expressible_literalsOfJson {op : Operator} {items : List Json} {vs : List Literal}
    (h : literalsOfJson op items = .ok vs) : ∀ v ∈ vs, v.Expressible := by
  have hitems := literalsOfJson_eq_ok.1 h
  clear h
  induction hitems with
  | nil => simp
  | cons hv _ ih => exact List.forall_mem_cons.2 ⟨Literal.expressible_ofJson hv, ih⟩

theorem ofParts_argument? {p : Predicate} (h : p.Expressible) :
    ofParts p.operator p.argument? = .ok p := by
  obtain ⟨hliterals, hlist⟩ := h
  cases p with
  | compare c v =>
    have hv : v.Expressible := hliterals v List.mem_cons_self
    simp [operator, argument?, ofParts, Option.filter, Literal.isNull_toJson hv,
      Literal.ofJson_toJson hv]
  | member negated vs =>
    cases vs with
    | nil => exact absurd rfl (hlist negated)
    | cons v rest =>
      have hread : literalsOfJson (.member negated) ((v :: rest).map Literal.toJson) =
          .ok (v :: rest) := literalsOfJson_map hliterals
      rw [List.map_cons] at hread
      simp [operator, argument?, ofParts, Option.filter, Json.isNull, hread, Except.map]
  | like s => rfl
  | null negated => rfl

theorem expressible_ofParts {op : Operator} {value : Option Json} {p : Predicate}
    (h : ofParts op value = .ok p) : p.Expressible := by
  unfold ofParts at h
  dsimp only at h
  split at h
  case h_1 negated _ =>
    cases h
    exact ⟨by simp [literals], by simp⟩
  case h_2 => cases h
  case h_3 => cases h
  case h_4 negated items hitems _ =>
    obtain ⟨vs, hvs, rfl⟩ := map_eq_ok.1 h
    refine ⟨expressible_literalsOfJson hvs, fun _ heq => ?_⟩
    have hnil : vs = [] := by simp_all
    rw [hnil, literalsOfJson_eq_ok, List.forall₂_nil_right_iff] at hvs
    exact hitems hvs
  case h_5 => cases h
  case h_6 pattern _ =>
    cases h
    exact ⟨by simp [literals, Literal.Expressible], by simp⟩
  case h_7 => cases h
  case h_8 => cases h
  case h_9 c j _ =>
    split at h
    case h_1 => cases h
    case h_2 l hl =>
      cases h
      refine ⟨fun v hv => ?_, by simp⟩
      rw [List.mem_singleton.1 hv]
      exact Literal.expressible_ofJson hl

theorem isNull_argument? {p : Predicate} (h : p.Expressible) :
    ∀ j ∈ p.argument?, j.isNull = false := by
  cases p with
  | compare c v =>
    intro j hj
    cases Option.some.inj hj
    exact Literal.isNull_toJson (h.1 v List.mem_cons_self)
  | _ => simp [argument?, Json.isNull]

theorem sorted_argument? (p : Predicate) : ∀ j ∈ p.argument?, j.Sorted := by
  intro j hj
  cases p with
  | compare c v =>
    cases Option.some.inj hj
    exact v.sorted_toJson
  | member negated vs =>
    cases Option.some.inj hj
    rw [Json.Sorted, Json.sortedItems_iff, List.forall_mem_map]
    exact fun v _ => v.sorted_toJson
  | like s =>
    cases Option.some.inj hj
    trivial
  | null negated => cases hj

end Predicate

/-! ## Names -/

theorem Operator.ofJson_name (op : Operator) : Decode.ofJson decoder (.string op.name) = .ok op :=
  ofJson_choice <| by rcases op with ⟨⟨⟩⟩ | ⟨⟨⟩⟩ | _ | ⟨⟨⟩⟩ <;> rfl

theorem Connective.ofJson_name (c : Connective) : Decode.ofJson decoder (.string c.name) = .ok c :=
  ofJson_choice <| by cases c <;> rfl

theorem Operator.name_ne (op : Operator) (c : Connective) : c.name ≠ op.name := by
  rcases op with ⟨⟨⟩⟩ | ⟨⟨⟩⟩ | _ | ⟨⟨⟩⟩ <;> cases c <;> decide

/-! ## Nodes -/

namespace Node

variable {κ : Type} {key : Decoder κ} {encode : κ → Json}

theorem toJsonAll_eq (nodes : List (Node κ)) :
    toJsonAll encode nodes = nodes.map (toJson encode) := by
  induction nodes with
  | nil => rfl
  | cons n rest ih => rw [toJsonAll, ih, List.map_cons]

/-- A condition as it is sent, given the JSON form of its key. -/
def sent (key : Json) (op : Operator) (value : Option Json) : Json :=
  .ofMembers ([("key", key), ("operator", .string op.name)] ++ (value.map fun v => ("value", v)).toList)

theorem toJson_condition (k : κ) (p : Predicate) :
    (condition k p).toJson encode = sent (encode k) p.operator p.argument? := by
  rw [toJson, sent]

/-- The members of a condition. -/
theorem member?_sent (k : Json) (op : Operator) (value : Option Json) (name : String) :
    (sent k op value).member? name =
      if name = "value" then value
      else if name = "operator" then some (.string op.name)
      else if name = "key" then some k else none := by
  rw [sent, Json.member?_ofMembers, Keyed.find?_ofList_append, Keyed.find?_ofList_toList]
  simp only [Keyed.find?_ofList_cons, Keyed.find?_ofList_nil]
  split <;> split <;> split <;> simp_all

theorem member?_group (c : Connective) (nodes : List (Node κ)) (name : String) :
    ((group c nodes).toJson encode).member? name =
      if name = "conditions" then some (.array (nodes.map (toJson encode)))
      else if name = "operator" then some (.string c.name) else none := by
  rw [toJson, Json.member?_ofMembers, toJsonAll_eq]
  simp only [Keyed.find?_ofList_cons, Keyed.find?_ofList_nil]
  split <;> split <;> simp_all

theorem isGroup_sent (k : Json) (op : Operator) (value : Option Json) :
    isGroup (sent k op value) = false := by
  simp [isGroup, member?_sent, Connective.all, op.name_ne]

theorem isGroup_group (c : Connective) (nodes : List (Node κ)) :
    isGroup ((group c nodes).toJson encode) = true := by
  simp [isGroup, member?_group]

theorem ofJson_sent {k : κ} {op : Operator} {value : Option Json} {p : Predicate}
    (hkey : Decode.ofJson key (encode k) = .ok k)
    (hargument : ∀ j ∈ value, j.isNull = false ∧ j.Sorted) (hp : Predicate.ofParts op value = .ok p) :
    Decode.ofJson (conditionDecoder key) (sent (encode k) op value) = .ok (k, p) := by
  have hvalue : Field.Reads (defaulted "value" (optional json) none) (value.map id) value :=
    Field.reads_option fun j hj => ⟨(hargument j hj).1, Decode.ofJson_json (hargument j hj).2⟩
  have hreads : (conditionShape key).Reads (sent (encode k) op value).member? (k, op, value, ()) := by
    refine ⟨?_, ?_, ?_, trivial⟩
    · show Field.Reads _ ((sent (encode k) op value).member? "key") k
      rw [member?_sent]
      exact hkey
    · show Field.Reads _ ((sent (encode k) op value).member? "operator") op
      rw [member?_sent]
      exact op.ofJson_name
    · show Field.Reads _ ((sent (encode k) op value).member? "value") value
      rw [member?_sent, if_pos rfl]
      rwa [Option.map_id] at hvalue
  have hrecord : Decode.ofJson (record "RawCondition" (conditionShape key))
      (sent (encode k) op value) = .ok (k, op, value, ()) := by
    refine ofJson_record "RawCondition" rfl ?_ hreads
    simp [Shape.fieldNames, conditionShape, required, defaulted]
  refine refine_eq_ok.2 ⟨_, hrecord, ?_⟩
  dsimp only
  rw [hp]

/-- As a node of a group, too, it is read as a condition. -/
theorem ofJsonWithin_sent {k : κ} {op : Operator} {value : Option Json} {p : Predicate}
    (hkey : Decode.ofJson key (encode k) = .ok k)
    (hargument : ∀ j ∈ value, j.isNull = false ∧ j.Sorted) (hp : Predicate.ofParts op value = .ok p)
    (fuel : Nat) : ofJsonWithin key (fuel + 1) (sent (encode k) op value) = .ok (condition k p) := by
  rw [ofJsonWithin, isGroup_sent, if_neg Bool.false_ne_true, ofJson_sent hkey hargument hp]
  rfl

/-- A node of a group is decoded from the value that is there. -/
theorem element_eq_ok {node : Json → Except DecodeError (Node κ)} {source : Source} {d : Document}
    {n : Node κ} : element node source d = .ok n ↔ ∃ j, json source d = .ok j ∧ node j = .ok n := by
  unfold element
  cases json source d with
  | error e => simp
  | ok j => cases h : node j <;> simp [h, fail]

/-- A group is read back when its nodes are, whatever reads them. -/
theorem ofJson_group {node : Json → Except DecodeError (Node κ)} {c : Connective}
    {nodes : List (Node κ)}
    (h : ∀ n ∈ nodes, (n.toJson encode).Sorted ∧ node (n.toJson encode) = .ok n) :
    Decode.ofJson (groupDecoder node) ((group c nodes).toJson encode) = .ok ⟨c, nodes⟩ := by
  have hreads : (groupShape node).Reads ((group c nodes).toJson encode).member? (c, nodes, ()) := by
    refine ⟨?_, ?_, trivial⟩
    · show Field.Reads _ (((group c nodes).toJson encode).member? "operator") c
      rw [member?_group]
      exact c.ofJson_name
    · show Field.Reads _ (((group c nodes).toJson encode).member? "conditions") nodes
      rw [member?_group, if_pos rfl]
      refine ofJson_list fun n hn => ?_
      obtain ⟨hsorted, hread⟩ := h n hn
      exact element_eq_ok.2 ⟨_, Decode.ofJson_json hsorted, hread⟩
  have hrecord : Decode.ofJson (record "ConditionGroup" (groupShape node))
      ((group c nodes).toJson encode) = .ok (c, nodes, ()) := by
    refine ofJson_record "ConditionGroup" rfl ?_ hreads
    simp [Shape.fieldNames, groupShape, required, defaulted]
  exact ofJson_convert hrecord

mutual

theorem sorted_toJson (hencode : ∀ k, (encode k).Sorted) : ∀ n : Node κ, (n.toJson encode).Sorted
  | .condition k p => by
    rw [toJson]
    refine Json.sorted_ofMembers fun m hm => ?_
    rcases List.mem_append.1 hm with hm | hm
    · simp only [List.mem_cons, List.not_mem_nil, or_false] at hm
      rcases hm with rfl | rfl
      · exact hencode k
      · trivial
    · rw [Option.mem_toList, Option.map_eq_some_iff] at hm
      obtain ⟨j, hj, rfl⟩ := hm
      exact p.sorted_argument? j hj
  | .group c nodes => by
    have hnodes : Json.SortedItems (toJsonAll encode nodes) := sorted_toJsonAll hencode nodes
    rw [toJson]
    refine Json.sorted_ofMembers ?_
    simp [Json.Sorted, hnodes]

theorem sorted_toJsonAll (hencode : ∀ k, (encode k).Sorted) :
    ∀ nodes : List (Node κ), Json.SortedItems (toJsonAll encode nodes)
  | [] => trivial
  | n :: rest => ⟨sorted_toJson hencode n, sorted_toJsonAll hencode rest⟩

end

/-- The nodes of a group are nested less deep than it. -/
theorem depth_lt_group {c : Connective} {nodes : List (Node κ)} {n : Node κ} (h : n ∈ nodes) :
    (n.toJson encode).depth + 1 < ((group c nodes).toJson encode).depth := by
  have hitems : (n.toJson encode).depth ≤ Json.depthItems (nodes.map (toJson encode)) :=
    Json.depth_le_depthItems (List.mem_map_of_mem h)
  have hmember : ((group c nodes).toJson encode).member? "conditions" =
      some (.array (nodes.map (toJson encode))) := by rw [member?_group, if_pos rfl]
  rw [toJson] at hmember
  have hlt := Json.depth_lt_of_find? hmember
  rw [← toJson, Json.depth] at hlt
  omega

mutual

/-- **A node is read back** from its JSON form if its conditions are expressible. The induction is on
the tree; each group uses up one unit of fuel. -/
theorem ofJsonWithin_toJson (hkey : ∀ k, Decode.ofJson key (encode k) = .ok k)
    (hencode : ∀ k, (encode k).Sorted) : ∀ (n : Node κ) (fuel : Nat),
    (n.toJson encode).depth < fuel → (∀ x ∈ n.conditions, x.2.Expressible) →
      ofJsonWithin key fuel (n.toJson encode) = .ok n
  | _, 0, hfuel, _ => absurd hfuel (Nat.not_lt_zero _)
  | .condition k p, fuel + 1, _, h => by
    have hp : p.Expressible := h (k, p) List.mem_cons_self
    have hargument : ∀ j ∈ p.argument?, j.isNull = false ∧ j.Sorted := fun j hj =>
      ⟨Predicate.isNull_argument? hp j hj, p.sorted_argument? j hj⟩
    rw [toJson_condition]
    exact ofJsonWithin_sent (hkey k) hargument (Predicate.ofParts_argument? hp) fuel
  | .group c nodes, fuel + 1, hfuel, h => by
    have hdepth : ∀ n ∈ nodes, (n.toJson encode).depth < fuel := by
      intro n hn
      have hlt : (n.toJson encode).depth + 1 < ((group c nodes).toJson encode).depth :=
        depth_lt_group hn
      omega
    have hnodes := ofJsonWithin_toJsonAll hkey hencode nodes fuel hdepth h
    have hread := ofJson_group (c := c) fun n hn => ⟨sorted_toJson hencode n, hnodes n hn⟩
    rw [ofJsonWithin, isGroup_group, if_pos rfl, hread]
    rfl

theorem ofJsonWithin_toJsonAll (hkey : ∀ k, Decode.ofJson key (encode k) = .ok k)
    (hencode : ∀ k, (encode k).Sorted) : ∀ (nodes : List (Node κ)) (fuel : Nat),
    (∀ n ∈ nodes, (n.toJson encode).depth < fuel) →
      (∀ x ∈ conditionsAll nodes, x.2.Expressible) →
        ∀ n ∈ nodes, ofJsonWithin key fuel (n.toJson encode) = .ok n
  | [], _, _, _ => by simp
  | n :: rest, fuel, hfuel, h => by
    obtain ⟨hn, hrest⟩ := List.forall_mem_cons.1 hfuel
    rw [conditionsAll, List.forall_mem_append] at h
    exact List.forall_mem_cons.2 ⟨ofJsonWithin_toJson hkey hencode n fuel hn h.1,
      ofJsonWithin_toJsonAll hkey hencode rest fuel hrest h.2⟩

end

/-! ## What was read -/

theorem expressible_of_conditionDecoder {source : Source} {d : Document} {k : κ} {p : Predicate}
    (h : conditionDecoder key source d = .ok (k, p)) : p.Expressible := by
  obtain ⟨⟨k, op, value, ⟨⟩⟩, -, hparts⟩ := refine_eq_ok.1 h
  dsimp only at hparts
  split at hparts
  case h_1 q hq =>
    cases hparts
    exact Predicate.expressible_ofParts hq
  case h_2 => cases hparts

theorem exists_of_groupDecoder {node : Json → Except DecodeError (Node κ)} {source : Source}
    {d : Document} {g : Group κ} (h : groupDecoder node source d = .ok g) :
    ∀ n ∈ g.nodes, ∃ j, node j = .ok n := by
  obtain ⟨⟨c, nodes, ⟨⟩⟩, hrecord, rfl⟩ := convert_eq_ok.1 h
  obtain ⟨-, hnodes, -⟩ := came_of_record hrecord
  intro n hn
  obtain ⟨d, hd⟩ := Field.came_list hnodes n hn
  obtain ⟨j, -, hj⟩ := element_eq_ok.1 hd
  exact ⟨j, hj⟩

theorem expressible_of_ofJsonWithin {fuel : Nat} {j : Json} {n : Node κ}
    (h : ofJsonWithin key fuel j = .ok n) : ∀ x ∈ n.conditions, x.2.Expressible := by
  induction fuel generalizing j n with
  | zero => cases h
  | succ fuel ih =>
    rw [ofJsonWithin] at h
    split at h
    case isTrue =>
      obtain ⟨g, hg, rfl⟩ := map_eq_ok.1 h
      intro x hx
      obtain ⟨m, hm, hx⟩ := mem_conditionsAll.1 hx
      obtain ⟨i, hi⟩ := exists_of_groupDecoder hg m hm
      exact ih hi x hx
    case isFalse =>
      obtain ⟨⟨k, p⟩, hcondition, rfl⟩ := map_eq_ok.1 h
      intro x hx
      rw [List.mem_singleton.1 hx]
      exact expressible_of_conditionDecoder hcondition

end Node

/-! ## Groups -/

namespace Group

variable {κ : Type} {key : Decoder κ} {encode : κ → Json}

/-- Every condition is expressible. -/
def Expressible (g : Group κ) : Prop := ∀ x ∈ g.conditions, x.2.Expressible

theorem ofJson_toJson (hkey : ∀ k, Decode.ofJson key (encode k) = .ok k)
    (hencode : ∀ k, (encode k).Sorted) {g : Group κ} (h : g.Expressible) :
    Decode.ofJson (decoder key) (g.toJson encode) = .ok g := by
  refine Node.ofJson_group fun n hn => ⟨Node.sorted_toJson hencode n, ?_⟩
  refine Node.ofJsonWithin_toJson hkey hencode n _ (Nat.lt_succ_self _) fun x hx => ?_
  exact h x (Node.mem_conditionsAll.2 ⟨n, hn, hx⟩)

theorem expressible_of_decoder {source : Source} {d : Document} {g : Group κ}
    (h : decoder key source d = .ok g) : g.Expressible := by
  intro x hx
  obtain ⟨n, hn, hx⟩ := Node.mem_conditionsAll.1 hx
  obtain ⟨j, hj⟩ := Node.exists_of_groupDecoder h n hn
  exact Node.expressible_of_ofJsonWithin hj x hx

end Group

end GuardedQuery
