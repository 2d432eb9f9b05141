import GuardedQuery.Proofs.Condition.Wire
import GuardedQuery.Proofs.Decode.Fields

/-!
# Groups and conditions told apart

A node is decoded as a group or as a condition, whichever it looks like (`Node.isGroup`), while each of
the two decoders accepts more forms than that look shows: a record may be an array, and a name may be
the key of an object. Main statement (`Node.ofJson_dispatches`): a value is a condition as a node of a
group just when it is one on its own, it is never both, and it is a group as a node just when it is one
on its own that is not `Disguised`. A disguised group is read at the root of a filter and refused
inside one (`Node.ofJson_disguised`).

A node is decoded within its depth; more fuel does not matter (`Node.ofJsonWithin_eq_ok`, by induction on
the depth from the fields of a group, `Node.groupDecoder_eq_ok`).
-/

namespace GuardedQuery

open Decode

/-! ## Fields and names -/

namespace Json

/-- The fields of a record are nested less deep than it. -/
theorem depth_lt_of_fields? {names : List String} {j : Json} {fields : List (String × Json)}
    (h : j.fields? names = some fields) {n : String} {i : Json} (hi : fields.lookup n = some i) :
    i.depth < j.depth := by
  obtain ⟨before, after, hfields, -⟩ := List.lookup_eq_some_iff.1 hi
  have hmem : (n, i) ∈ fields := hfields ▸ List.mem_append_right _ List.mem_cons_self
  cases j with
  | object members =>
    rw [fields?] at h
    split at h
    · cases h
      exact Nat.lt_succ_of_le (depth_le_depthMembers hmem)
    · cases h
  | array items =>
    rw [fields?] at h
    split at h
    · cases h
      exact Nat.lt_succ_of_le (depth_le_depthItems (List.of_mem_zip hmem).2)
    · cases h
  | _ => cases h

theorem fields?_ofMembers {names : List String} {members : List (String × Json)}
    (h : ∀ p ∈ members, p.1 ∈ names) :
    (ofMembers members).fields? names = some (Keyed.ofList members).pairs :=
  if_pos ⟨(Keyed.ofList members).nodup_keys, fun p hp => h p (Keyed.mem_of_mem_ofList hp)⟩

end Json

/-- A name is chosen as a text or as the only key of an object. -/
def Json.Chooses (name : String) (j : Json) : Prop := j = .string name ∨ j = .object [(name, .null)]

theorem Json.Chooses.inj {j : Json} {name other : String} (h : j.Chooses name)
    (h' : j.Chooses other) : name = other := by
  rcases h with rfl | rfl <;> rcases h' with h' | h' <;> cases h' <;> rfl

theorem lookup_map_name {α : Type} {name : α → String} {all : List α} {n : String} {a : α}
    (h : (all.map fun a => (name a, a)).lookup n = some a) : n = name a := by
  obtain ⟨before, after, heq, -⟩ := List.lookup_eq_some_iff.1 h
  have hmem : (n, a) ∈ all.map fun a => (name a, a) :=
    heq ▸ List.mem_append_right _ List.mem_cons_self
  obtain ⟨b, -, hb⟩ := List.mem_map.1 hmem
  cases hb
  rfl

theorem Operator.chooses_of_decoder {j : Json} {op : Operator} (h : ofJson decoder j = .ok op) :
    j.Chooses op.name := by
  obtain ⟨name, hname, hj⟩ := ofJson_choice_eq_ok.1 h
  exact lookup_map_name hname ▸ hj

theorem Connective.chooses_of_decoder {j : Json} {c : Connective} (h : ofJson decoder j = .ok c) :
    j.Chooses c.name := by
  obtain ⟨name, hname, hj⟩ := ofJson_choice_eq_ok.1 h
  exact lookup_map_name hname ▸ hj

namespace Node

variable {κ : Type} {key : Decoder κ} {node node' : Json → Except DecodeError (Node κ)} {j : Json}

/-! ## The fields of both -/

/-- What a group is when its fields are as given: `conditions` may be left out. -/
theorem groupDecoder_eq_ok {g : Group κ} : Decode.ofJson (groupDecoder node) j = .ok g ↔
    ∃ fields, j.fields? ["operator", "conditions"] = some fields ∧
      (∃ o, fields.lookup "operator" = some o ∧
        Decode.ofJson Connective.decoder o = .ok g.connective) ∧
      (fields.lookup "conditions" = none ∧ g.nodes = [] ∨
        ∃ items, fields.lookup "conditions" = some (.array items) ∧
          List.Forall₂ (fun i n => Decode.ofJson (element node) i = .ok n) items g.nodes) := by
  have hplain : (groupShape node).isPlain = true := rfl
  have hreads : ∀ (fields : List (String × Json)) (c : Connective) (nodes : List (Node κ)),
      (groupShape node).Reads (fun n => fields.lookup n) (c, nodes, ()) ↔
        (required "operator" Connective.decoder).Reads (fields.lookup "operator") c ∧
          (defaulted "conditions" (list (element node)) []).Reads (fields.lookup "conditions") nodes ∧
            True := fun _ _ _ => Iff.rfl
  simp only [Field.reads_required_iff, Field.reads_list_iff, and_true] at hreads
  constructor
  · intro h
    obtain ⟨⟨c, nodes, ⟨⟩⟩, hrecord, rfl⟩ := convert_eq_ok.1 h
    obtain ⟨fields, hfields, h⟩ := (ofJson_record_eq_ok _ hplain).1 hrecord
    exact ⟨fields, hfields, (hreads fields c nodes).1 h⟩
  · rintro ⟨fields, hfields, h⟩
    have hrecord := (ofJson_record_eq_ok "ConditionGroup" hplain).2
      ⟨fields, hfields, (hreads fields g.connective g.nodes).2 h⟩
    exact convert_eq_ok.2 ⟨_, hrecord, rfl⟩

/-- What a condition on its own gives for its fields. -/
theorem operator_of_conditionDecoder {x : κ × Predicate}
    (h : Decode.ofJson (conditionDecoder key) j = .ok x) :
    ∃ fields o op, j.fields? ["key", "operator", "value"] = some fields ∧
      fields.lookup "operator" = some o ∧ Decode.ofJson Operator.decoder o = .ok op := by
  have hplain : (conditionShape key).isPlain = true := rfl
  obtain ⟨⟨k, op, value, ⟨⟩⟩, hrecord, -⟩ := refine_eq_ok.1 h
  obtain ⟨fields, hfields, -, hop, -⟩ := (ofJson_record_eq_ok _ hplain).1 hrecord
  have hop : (required "operator" Operator.decoder).Reads (fields.lookup "operator") op := hop
  obtain ⟨o, ho, hread⟩ := Field.reads_required_iff.1 hop
  exact ⟨fields, o, op, hfields, ho, hread⟩

/-! ## Fuel -/

/-- The nodes of a group are decoded from values nested less deep than it. -/
theorem groupDecoder_mono {g : Group κ}
    (hnode : ∀ i n, i.depth < j.depth → node i = .ok n → node' i = .ok n)
    (h : Decode.ofJson (groupDecoder node) j = .ok g) :
    Decode.ofJson (groupDecoder node') j = .ok g := by
  obtain ⟨fields, hfields, hoperator, hconditions⟩ := groupDecoder_eq_ok.1 h
  refine groupDecoder_eq_ok.2 ⟨fields, hfields, hoperator, hconditions.imp_right ?_⟩
  rintro ⟨items, hitems, hnodes⟩
  have hdepth := Json.depth_lt_of_fields? hfields hitems
  rw [Json.depth] at hdepth
  refine ⟨items, hitems, forall₂_of_mem (fun i hi n hn => ?_) hnodes⟩
  obtain ⟨k, hk, hn⟩ := element_eq_ok.1 hn
  have hitem := Json.depth_le_depthItems hi
  have hle := depth_le_of_ofJson_json hk
  exact element_eq_ok.2 ⟨k, hk, hnode k n (by omega) hn⟩

/-- Fuel above the depth is as good as any other. The induction is on the fuel; each group uses up
one unit, and its nodes are nested less deep. -/
theorem ofJsonWithin_mono {n : Node κ} {fuel fuel' : Nat} (hfuel : j.depth < fuel)
    (hfuel' : j.depth < fuel') (h : ofJsonWithin key fuel j = .ok n) :
    ofJsonWithin key fuel' j = .ok n := by
  induction fuel generalizing fuel' j n with
  | zero => exact absurd hfuel (Nat.not_lt_zero _)
  | succ fuel ih =>
    obtain ⟨fuel', rfl⟩ : ∃ f, fuel' = f + 1 := ⟨fuel' - 1, by omega⟩
    rw [ofJsonWithin] at h ⊢
    split at h
    case isTrue hgroup =>
      obtain ⟨g, hg, rfl⟩ := map_eq_ok.1 h
      rw [if_pos hgroup]
      refine map_eq_ok.2 ⟨g, groupDecoder_mono (fun i n hi hn => ?_) hg, rfl⟩
      exact ih (by omega) (by omega) hn
    case isFalse hgroup =>
      rw [if_neg hgroup]
      exact h

theorem ofJsonWithin_eq_ok {n : Node κ} {fuel : Nat} (h : j.depth < fuel) :
    ofJsonWithin key fuel j = .ok n ↔ ofJson key j = .ok n :=
  ⟨ofJsonWithin_mono h (Nat.lt_succ_self _), ofJsonWithin_mono (Nat.lt_succ_self _) h⟩

/-- A node is what it looks like, as that is on its own. -/
theorem ofJson_eq_ok {n : Node κ} : ofJson key j = .ok n ↔
    isGroup j = true ∧ (∃ g, Decode.ofJson (Group.decoder key) j = .ok g ∧ g.toNode = n) ∨
      isGroup j = false ∧
        ∃ k p, Decode.ofJson (conditionDecoder key) j = .ok (k, p) ∧ .condition k p = n := by
  have hgroup : ∀ g, Decode.ofJson (groupDecoder (ofJsonWithin key j.depth)) j = .ok g ↔
      Decode.ofJson (Group.decoder key) j = .ok g := fun g =>
    ⟨groupDecoder_mono fun _ _ hi => (ofJsonWithin_eq_ok hi).1,
      groupDecoder_mono fun _ _ hi => (ofJsonWithin_eq_ok hi).2⟩
  rw [ofJson, ofJsonWithin]
  cases h : isGroup j with
  | true => simp [map_eq_ok, hgroup]
  | false => simp [map_eq_ok]

/-! ## What a value looks like -/

theorem isGroup_iff : isGroup j = true ↔
    (∃ cs, j.member? "conditions" = some cs) ∨
      ∃ c : Connective, j.member? "operator" = some (.string c.name) := by
  rw [isGroup, Bool.or_eq_true, Option.isSome_iff_exists]
  refine or_congr_right ⟨fun h => ?_, ?_⟩
  · split at h
    case h_1 s hs =>
      obtain ⟨c, -, hc⟩ := List.any_eq_true.1 h
      exact ⟨c, by rw [hs, beq_iff_eq.1 hc]⟩
    case h_2 => cases h
  · rintro ⟨c, hc⟩
    rw [hc]
    refine List.any_eq_true.2 ⟨c, ?_, beq_self_eq_true _⟩
    cases c <;> decide

/-- If the value is a group, it does not look like one: it is an array, or it has no `conditions` and
the name of its connective is the key of an object. -/
inductive Disguised : Json → Prop where
  | array (items : List Json) : Disguised (.array items)
  | operator {members inner : List (String × Json)} (hconditions : members.lookup "conditions" = none)
    (hoperator : members.lookup "operator" = some (.object inner)) : Disguised (.object members)

theorem isGroup_of_disguised (h : Disguised j) : isGroup j = false := by
  refine Bool.eq_false_iff.2 fun hgroup => ?_
  cases h with
  | array => obtain ⟨_, h⟩ | ⟨_, h⟩ := isGroup_iff.1 hgroup <;> cases h
  | operator hconditions hoperator =>
    simp only [isGroup_iff, Json.member?, hconditions, hoperator] at hgroup
    simp at hgroup

/-- A group on its own looks like one unless it is disguised. -/
theorem isGroup_of_groupDecoder {g : Group κ} (h : Decode.ofJson (groupDecoder node) j = .ok g)
    (hplain : ¬Disguised j) : isGroup j = true := by
  obtain ⟨fields, hfields, ⟨o, ho, hread⟩, -⟩ := groupDecoder_eq_ok.1 h
  cases j with
  | object members =>
    simp only [Json.fields?, Option.ite_none_right_eq_some, Option.some.injEq] at hfields
    obtain ⟨-, rfl⟩ := hfields
    refine isGroup_iff.2 ?_
    cases hconditions : members.lookup "conditions" with
    | some cs => exact .inl ⟨cs, hconditions⟩
    | none =>
      rcases Connective.chooses_of_decoder hread with rfl | rfl
      · exact .inr ⟨g.connective, ho⟩
      · exact absurd (.operator hconditions ho) hplain
  | array items => exact absurd (.array items) hplain
  | _ => cases hfields

theorem not_isGroup_of_conditionDecoder {x : κ × Predicate}
    (h : Decode.ofJson (conditionDecoder key) j = .ok x) : isGroup j = false := by
  obtain ⟨fields, o, op, hfields, ho, hread⟩ := operator_of_conditionDecoder h
  refine Bool.eq_false_iff.2 fun hgroup => ?_
  cases j with
  | object members =>
    simp only [Json.fields?, Option.ite_none_right_eq_some, Option.some.injEq] at hfields
    obtain ⟨⟨hdistinct, hnames⟩, rfl⟩ := hfields
    obtain ⟨cs, hcs⟩ | ⟨c, hc⟩ := isGroup_iff.1 hgroup
    · have hmem := hnames _ ((Keyed.lookup_eq_some_iff hdistinct).1 hcs)
      simp at hmem
    · have heq : o = .string c.name := Option.some.inj (ho.symm.trans hc)
      exact op.name_ne c ((Operator.chooses_of_decoder hread).inj (.inl heq)).symm
  | array items => cases hgroup
  | _ => cases hfields

/-- **No value is both a group and a condition.** Where it is an object, the operator would have a name
of either kind; where it is an array, its second item would be a name and a list. -/
theorem not_both {g : Group κ} {x : κ × Predicate} (hg : Decode.ofJson (groupDecoder node) j = .ok g)
    (hx : Decode.ofJson (conditionDecoder key) j = .ok x) : False := by
  obtain ⟨fields, hfields, ⟨o, ho, hc⟩, hconditions⟩ := groupDecoder_eq_ok.1 hg
  obtain ⟨fields', o', op, hfields', ho', hop⟩ := operator_of_conditionDecoder hx
  cases j with
  | object members =>
    simp only [Json.fields?, Option.ite_none_right_eq_some, Option.some.injEq] at hfields hfields'
    obtain ⟨-, rfl⟩ := hfields
    obtain ⟨-, rfl⟩ := hfields'
    have heq : o = o' := Option.some.inj (ho.symm.trans ho')
    exact op.name_ne g.connective
      ((Connective.chooses_of_decoder hc).inj (heq ▸ Operator.chooses_of_decoder hop))
  | array items =>
    simp only [Json.fields?, Option.ite_none_right_eq_some, Option.some.injEq] at hfields hfields'
    obtain ⟨-, rfl⟩ := hfields
    obtain ⟨-, rfl⟩ := hfields'
    rcases items with _ | ⟨first, _ | ⟨second, rest⟩⟩
    · cases ho'
    · cases ho'
    · cases ho'
      rcases hconditions with ⟨hnone, -⟩ | ⟨cs, hcs, -⟩
      · cases hnone
      · cases hcs
        rcases Operator.chooses_of_decoder hop with h | h <;> cases h
  | _ => cases hfields

/-! ## As a node and on its own -/

theorem ofJson_eq_condition {k : κ} {p : Predicate} : ofJson key j = .ok (.condition k p) ↔
    Decode.ofJson (conditionDecoder key) j = .ok (k, p) := by
  rw [ofJson_eq_ok]
  constructor
  · rintro (⟨-, g, -, h⟩ | ⟨-, k', p', hx, h⟩)
    · cases h
    · cases h
      exact hx
  · exact fun hx => .inr ⟨not_isGroup_of_conditionDecoder hx, k, p, hx, rfl⟩

theorem ofJson_eq_group {g : Group κ} : ofJson key j = .ok g.toNode ↔
    Decode.ofJson (Group.decoder key) j = .ok g ∧ ¬Disguised j := by
  rw [ofJson_eq_ok]
  constructor
  · rintro (⟨hgroup, ⟨c, nodes⟩, hg, h⟩ | ⟨-, k, p, -, h⟩)
    · obtain ⟨rfl, rfl⟩ : c = g.connective ∧ nodes = g.nodes := by simpa [Group.toNode] using h
      exact ⟨hg, fun hdisguised => by simp [isGroup_of_disguised hdisguised] at hgroup⟩
    · cases h
  · rintro ⟨hg, hplain⟩
    exact .inl ⟨isGroup_of_groupDecoder hg hplain, g, hg, rfl⟩

/-- A disguised group is refused inside a group. -/
theorem ofJson_disguised {g : Group κ} (hg : Decode.ofJson (Group.decoder key) j = .ok g)
    (h : Disguised j) : ∃ e, ofJson key j = .error e := by
  cases hn : ofJson key j with
  | error e => exact ⟨e, rfl⟩
  | ok n =>
    cases n with
    | condition k p => exact (not_both hg (ofJson_eq_condition.1 hn)).elim
    | group c nodes =>
      have hgroup : ofJson key j = .ok (Group.toNode ⟨c, nodes⟩) := hn
      exact absurd h (ofJson_eq_group.1 hgroup).2

/-- A group as it is sent, given its nodes as they are sent. -/
def sentGroup (c : Connective) (items : List Json) : Json :=
  .ofMembers [("operator", .string c.name), ("conditions", .array items)]

/-- The nodes of a group are its `conditions`, each decoded as a node. -/
theorem ofJson_sentGroup {c : Connective} {items : List Json} {nodes : List (Node κ)}
    (hsorted : ∀ i ∈ items, i.Sorted) :
    Decode.ofJson (Group.decoder key) (sentGroup c items) = .ok ⟨c, nodes⟩ ↔
      List.Forall₂ (fun i n => ofJson key i = .ok n) items nodes := by
  let members : Keyed Json := .ofList [("operator", .string c.name), ("conditions", .array items)]
  have hfields : (sentGroup c items).fields? ["operator", "conditions"] = some members.pairs :=
    Json.fields?_ofMembers (by simp)
  have hoperator : members.pairs.lookup "operator" = some (.string c.name) := by
    show members.find? "operator" = _
    simp [members, Keyed.find?_ofList_cons, Keyed.find?_ofList_nil]
  have hconditions : members.pairs.lookup "conditions" = some (.array items) := by
    show members.find? "conditions" = _
    simp [members, Keyed.find?_ofList_cons, Keyed.find?_ofList_nil]
  have helement : ∀ i ∈ items, ∀ n,
      Decode.ofJson (element (ofJson key)) i = .ok n ↔ ofJson key i = .ok n := by
    intro i hi n
    have hjson : json .value (Document.ofJson i) = .ok i := ofJson_json (hsorted i hi)
    refine element_eq_ok.trans ?_
    rw [hjson]
    simp
  rw [Group.decoder, groupDecoder_eq_ok, hfields]
  simp only [Option.some.injEq, exists_eq_left', hoperator, hconditions, c.ofJson_name, true_and,
    reduceCtorEq, false_and, false_or, Json.array.injEq]
  exact ⟨forall₂_of_mem fun i hi n => (helement i hi n).1,
    forall₂_of_mem fun i hi n => (helement i hi n).2⟩

/-- **Groups and conditions are told apart**: a value is decoded as a condition in a group just when it
is one on its own; as a group just when it is one on its own and not disguised; no value is both. What
is decoded for `conditions` is what each of its items is decoded as. -/
theorem ofJson_dispatches (key : Decoder κ) (j : Json) :
    (∀ k p, ofJson key j = .ok (.condition k p) ↔
      Decode.ofJson (conditionDecoder key) j = .ok (k, p)) ∧
    (∀ g, ofJson key j = .ok g.toNode ↔
      Decode.ofJson (Group.decoder key) j = .ok g ∧ ¬Disguised j) ∧
    (∀ g x, Decode.ofJson (Group.decoder key) j = .ok g →
      Decode.ofJson (conditionDecoder key) j ≠ .ok x) ∧
    (∀ c items nodes, (∀ i ∈ items, i.Sorted) →
      (Decode.ofJson (Group.decoder key) (sentGroup c items) = .ok ⟨c, nodes⟩ ↔
        List.Forall₂ (fun i n => ofJson key i = .ok n) items nodes)) :=
  ⟨fun _ _ => ofJson_eq_condition, fun _ => ofJson_eq_group, fun _ _ => not_both,
    fun _ _ _ => ofJson_sentGroup⟩

/-- A group without `conditions`, beside one that holds a condition. -/
theorem ofJson_dispatches_nested :
    let empty := Json.ofMembers [("operator", .string "OR")]
    let full := sentGroup .not [sent (.string "id") (.null false) none]
    (∀ i ∈ [empty, full], i.Sorted) ∧
      Decode.ofJson (Group.decoder string) (sentGroup .and [empty, full]) =
        .ok ⟨.and, [.group .or [], .group .not [.condition "id" (.null false)]]⟩ := by
  intro empty full
  have hsorted : ∀ i ∈ [empty, full], i.Sorted := by
    have hempty : empty.Sorted := Json.sorted_ofMembers (by simp [Json.Sorted])
    have hfull : full.Sorted := Json.sorted_ofMembers (by
      simp [Json.Sorted, Json.SortedItems, sent, Json.sorted_ofMembers])
    simp [hempty, hfull]
  refine ⟨hsorted, ((ofJson_dispatches string full).2.2.2 _ _ _ hsorted).2 ?_⟩
  exact .cons rfl (.cons rfl .nil)

/-- A group without conditions in either disguise is one on its own and refused inside a group. -/
theorem ofJson_misses_disguised :
    let array := Json.array [.string "OR", .array []]
    let operator := Json.object [("operator", .object [("OR", .null)])]
    (Disguised array ∧ Decode.ofJson (Group.decoder string) array = .ok ⟨.or, []⟩ ∧
      Decode.ofJson (Group.decoder string) (sentGroup .and [array]) =
        .error ⟨[.key "conditions", .index 0], .invalidType .sequence "string or map"⟩) ∧
    Disguised operator ∧ Decode.ofJson (Group.decoder string) operator = .ok ⟨.or, []⟩ ∧
      Decode.ofJson (Group.decoder string) (sentGroup .and [operator]) =
        .error ⟨[.key "conditions", .index 0], .unknownVariant "OR" (Operator.all.map Operator.name)⟩ :=
  ⟨⟨.array _, rfl, rfl⟩, .operator rfl rfl, rfl, rfl⟩

end Node

end GuardedQuery
