import GuardedQuery.Proofs.Condition.Wire
import GuardedQuery.Proofs.Number.Value
import GuardedQuery.Proofs.Statement.Literals

/-!
# What is sent is what is bound

A scalar stands for a truth value, a number or a text (`Json.meaning?`), and so does the JSON form of a
literal. The literal of a scalar stands for the same, except for integers of 2 ^ 63 or more that are no
multiples of 2048 (`Literal.meaning_ofJson_iff`): these are rounded. The literals of a predicate are
those of the scalars in its argument, one by one (`Predicate.literals_ofParts`), whatever the operator,
and a condition that is sent is read with that predicate (`Node.ofJson_sent_some`).
-/

namespace GuardedQuery

/-! ## Scalars -/

/-- What a scalar stands for. -/
inductive Meaning where
  | truth (b : Bool)
  | number (q : ℚ)
  | text (s : String)

namespace Json

/-- What the scalar stands for; `none` for `null`, arrays and objects. -/
def meaning? : Json → Option Meaning
  | .bool b => some (.truth b)
  | .int i => some (.number i.val)
  | .float x => some (.number x.val.value)
  | .string s => some (.text s)
  | _ => none

/-- The scalar is no integer that a literal can only come near to. -/
def Exact : Json → Prop
  | .int i => i.val < 2 ^ 63 ∨ 2048 ∣ i.val
  | _ => True

theorem meaning?_ofBinary64 {x : Binary64} (h : x.isFinite = true) :
    (ofBinary64 x).meaning? = some (.number x.value) := by
  rw [ofBinary64, dif_pos h, meaning?]

theorem isNull_of_meaning? {j : Json} (h : j.meaning?.isSome = true) : j.isNull = false := by
  cases j with
  | null => cases h
  | _ => rfl

theorem sorted_of_meaning? {j : Json} (h : j.meaning?.isSome = true) : j.Sorted := by
  cases j with
  | array | object => cases h
  | _ => trivial

end Json

namespace Literal

/-- Exactly the scalars that stand for something are accepted. -/
theorem exists_ofJson_iff {j : Json} : (∃ l, ofJson j = .ok l) ↔ j.meaning?.isSome = true := by
  cases j with
  | null | array _ | object _ => simp [ofJson, Json.meaning?]
  | bool _ | int _ | float _ | string _ => exact iff_of_true ⟨_, rfl⟩ rfl

theorem meaning_ofJsonInt_iff (i : JsonInt) :
    (ofJsonInt i).toJson.meaning? = some (.number i.val) ↔ (Json.int i).Exact := by
  unfold ofJsonInt
  split
  case isTrue hsmall =>
    have hval : (Int64.ofInt i.val).toInt = i.val := Int64.toInt_ofInt_of_le i.lower hsmall
    refine iff_of_true ?_ (.inl hsmall)
    show some (Meaning.number ((Int64.ofInt i.val).toInt : ℚ)) = some (.number i.val)
    rw [hval]
  case isFalse hlarge =>
    have hlow : 2 ^ 63 ≤ i.val := Int.not_lt.1 hlarge
    have hexact : (Json.int i).Exact ↔ 2048 ∣ i.val := or_iff_right hlarge
    rw [toJson, Json.meaning?_ofBinary64 (Binary64.isFinite_ofInt hlow i.upper), hexact,
      ← Binary64.value_ofInt_eq_iff hlow i.upper, Option.some.injEq, Meaning.number.injEq]

/-- **A literal stands for what was sent**, exactly if that can be said of it. -/
theorem meaning_ofJson_iff {j : Json} {l : Literal} (h : ofJson j = .ok l) :
    l.toJson.meaning? = j.meaning? ↔ j.Exact := by
  cases j with
  | null | array _ | object _ => cases h
  | bool _ | string _ =>
    cases h
    exact iff_of_true rfl trivial
  | float x =>
    cases h
    exact iff_of_true (Json.meaning?_ofBinary64 x.property) trivial
  | int i =>
    cases h
    exact meaning_ofJsonInt_iff i

end Literal

/-! ## Arguments -/

namespace Predicate

/-- The scalars in the argument of an operator. -/
def operands : Option Json → List Json
  | none | some .null => []
  | some (.array items) => items
  | some j => [j]

theorem eq_some_of_filter {value : Option Json} {j : Json}
    (h : (value.filter fun j => !j.isNull) = some j) : value = some j :=
  (Option.filter_eq_some_iff.1 h).1

/-- **The literals of a predicate** are those of the scalars that its argument is made of. -/
theorem literals_ofParts {op : Operator} {value : Option Json} {p : Predicate}
    (h : ofParts op value = .ok p) :
    List.Forall₂ (fun j l => Literal.ofJson j = .ok l) (operands value) p.literals := by
  unfold ofParts at h
  dsimp only at h
  split at h
  case h_1 negated hvalue =>
    cases h
    rcases value with _ | j
    · exact .nil
    · cases j with
      | null => exact .nil
      | _ => cases hvalue
  case h_2 => cases h
  case h_3 => cases h
  case h_4 negated items _ hvalue =>
    obtain rfl := eq_some_of_filter hvalue
    obtain ⟨ls, hls, rfl⟩ := map_eq_ok.1 h
    exact literalsOfJson_eq_ok.1 hls
  case h_5 => cases h
  case h_6 pattern hvalue =>
    obtain rfl := eq_some_of_filter hvalue
    cases h
    exact .cons rfl .nil
  case h_7 => cases h
  case h_8 => cases h
  case h_9 c j hvalue =>
    obtain rfl := eq_some_of_filter hvalue
    split at h
    case h_1 => cases h
    case h_2 l hl =>
      cases h
      cases j with
      | null | array | object => cases hl
      | _ => exact .cons hl .nil

theorem ofParts_compare (c : Comparison) {j : Json} {l : Literal} (h : j.meaning?.isSome = true)
    (hl : Literal.ofJson j = .ok l) : ofParts (.compare c) (some j) = .ok (.compare c l) := by
  simp [ofParts, Option.filter, Json.isNull_of_meaning? h, hl]

theorem exists_ofParts_member (negated : Bool) {js : List Json} (hne : js ≠ [])
    (h : ∀ j ∈ js, j.meaning?.isSome = true) :
    ∃ ls, ofParts (.member negated) (some (.array js)) = .ok (.member negated ls) := by
  obtain ⟨ls, hls⟩ := exists_forall₂_iff.2 fun j hj => Literal.exists_ofJson_iff.2 (h j hj)
  have hread : literalsOfJson (.member negated) js = .ok ls := literalsOfJson_eq_ok.2 hls
  obtain ⟨first, rest, rfl⟩ := List.exists_cons_of_ne_nil hne
  exact ⟨ls, by simp [ofParts, Option.filter, Json.isNull, hread, Except.map]⟩

/-- The literal of a scalar stands among the literals where the scalar stands in the argument. -/
theorem literals_getElem? {op : Operator} {value : Option Json} {p : Predicate}
    (h : ofParts op value = .ok p) {j : Json} {l : Literal} (hl : Literal.ofJson j = .ok l) {i : Nat}
    (hi : (operands value)[i]? = some j) : p.literals[i]? = some l := by
  have hliterals := literals_ofParts h
  obtain ⟨hoperand, rfl⟩ := List.getElem?_eq_some_iff.1 hi
  have hliteral : i < p.literals.length := hliterals.length_eq ▸ hoperand
  have hget := hliterals.get hoperand hliteral
  rw [List.get_eq_getElem, List.get_eq_getElem, hl] at hget
  rw [List.getElem?_eq_getElem hliteral, Except.ok.inj hget]

end Predicate

/-! ## Conditions -/

open Decode in
/-- A condition that is sent with an argument is read with the predicate of that argument. -/
theorem Node.ofJson_sent_some {k : String} {op : Operator} {j : Json} {p : Predicate}
    (hnull : j.isNull = false) (hsorted : j.Sorted) (hp : Predicate.ofParts op (some j) = .ok p) :
    Node.ofJson string (sent (.string k) op (some j)) = .ok (.condition k p) := by
  have hargument : ∀ i ∈ some j, i.isNull = false ∧ i.Sorted := by
    rintro _ ⟨⟩
    exact ⟨hnull, hsorted⟩
  exact ofJsonWithin_sent (ofJson_string k) hargument hp _

/-- **Literals are bound as written.** Every scalar that stands for something has a literal, which stands
for the same just when the scalar is exact, and which no exact scalar has that stands for something else.
Whatever the operator, the literal stands where the scalar stands in what is sent, alone or in a list; a
comparison and a list of such scalars are read; and a statement binds the literals of its conditions. -/
theorem Literal.bound_as_written {j : Json} (h : j.meaning?.isSome = true) :
    ∃ l, ofJson j = .ok l ∧ (l.toJson.meaning? = j.meaning? ↔ j.Exact) ∧
      (∀ j', ofJson j' = .ok l → j.Exact → j'.Exact → j'.meaning? = j.meaning?) ∧
      (∀ op value p, Predicate.ofParts op value = .ok p →
        ∀ i : Nat, (Predicate.operands value)[i]? = some j → p.literals[i]? = some l) ∧
      (∀ (k : String) (c : Comparison),
        Node.ofJson Decode.string (Node.sent (.string k) (.compare c) (some j)) =
          .ok (.condition k (.compare c l))) ∧
      (∀ (k : String) (negated : Bool) (js : List Json), j ∈ js →
        (∀ i ∈ js, i.meaning?.isSome = true) → ∃ ls,
          Node.ofJson Decode.string (Node.sent (.string k) (.member negated) (some (.array js))) =
            .ok (.condition k (.member negated ls)) ∧
          ls.length = js.length ∧ ∀ i : Nat, js[i]? = some j → ls[i]? = some l) ∧
      ∀ (a : Allowlist) (d : Dialect) (o : Override) (p : Payload String) (st : Statement),
        p.compile a d o = .ok st →
          st.parameters = Parameter.number (Payload.boundLiterals o.scope p.filter) := by
  obtain ⟨l, hl⟩ := exists_ofJson_iff.2 h
  refine ⟨l, hl, meaning_ofJson_iff hl, ?_, ?_, ?_, ?_, ?_⟩
  · intro j' hj' hexact hexact'
    rw [← (meaning_ofJson_iff hl).2 hexact, (meaning_ofJson_iff hj').2 hexact']
  · intro op value p hp i hi
    exact Predicate.literals_getElem? hp hl hi
  · intro k c
    exact Node.ofJson_sent_some (Json.isNull_of_meaning? h) (Json.sorted_of_meaning? h)
      (Predicate.ofParts_compare c h hl)
  · intro k negated js hj hjs
    obtain ⟨ls, hls⟩ := Predicate.exists_ofParts_member negated (List.ne_nil_of_mem hj) hjs
    have hsorted : (Json.array js).Sorted := by
      rw [Json.Sorted, Json.sortedItems_iff]
      exact fun i hi => Json.sorted_of_meaning? (hjs i hi)
    refine ⟨ls, Node.ofJson_sent_some rfl hsorted hls, ?_, fun i hi => ?_⟩
    · exact (Predicate.literals_ofParts hls).length_eq.symm
    · exact Predicate.literals_getElem? hls hl hi
  · intro a d o p st hst
    exact Payload.parameters_compile hst

/-- 2 ^ 63. -/
def Binary64.edge : Binary64 := ⟨0x43e0000000000000⟩

/-- 2 ^ 63, sent as a floating point number. -/
def Json.edge : Json := .ofBinary64 .edge

/-- 2 ^ 63, sent as an integer. -/
def Json.even : Json := .int (.ofUInt64 9223372036854775808)

/-- The integer after it. -/
def Json.odd : Json := .int (.ofUInt64 9223372036854775809)

/-- The integer before it. -/
def Json.signed : Json := .int (.ofUInt64 9223372036854775807)

/-- An integer of 2 ^ 63 is bound as the floating point number that it is, alone and in a list. -/
theorem Literal.bound_as_written_edge :
    Json.even.meaning?.isSome = true ∧ Json.even.Exact ∧ ofJson .edge = .ok (.float .edge) ∧
      ∃ l, ofJson .even = .ok l ∧ l.toJson.meaning? = Json.even.meaning? ∧
        (ofJson .edge = .ok l → Json.edge.meaning? = Json.even.meaning?) ∧
        Node.ofJson Decode.string (Node.sent (.string "id") (.compare .equals) (some .even)) =
          .ok (.condition "id" (.compare .equals l)) ∧
        (∃ ls, Node.ofJson Decode.string
            (Node.sent (.string "id") (.member true) (some (.array [.signed, .even]))) =
          .ok (.condition "id" (.member true ls)) ∧ ls[1]? = some l) ∧
        ∃ st, (Payload.requestOf l (.int 2) "a%").compile .sample .mssql (Payload.scopeOf (.int 7)) =
            .ok st ∧ st.parameters = Parameter.number [.int 7, l, .int 2, .text "a%"] := by
  have heven : Json.even.Exact := .inr (by decide)
  obtain ⟨l, hl, hmeaning, hsame, -, hcompare, hmember, hbound⟩ := bound_as_written (j := .even) rfl
  have hstands : ∀ j ∈ [Json.signed, Json.even], j.meaning?.isSome = true := by
    simp [Json.meaning?, Json.signed, Json.even]
  obtain ⟨ls, hread, -, hls⟩ := hmember "id" true _ (by simp) hstands
  obtain ⟨st, hst⟩ : ∃ st, (Payload.requestOf l (.int 2) "a%").compile .sample .mssql
      (Payload.scopeOf (.int 7)) = .ok st := ⟨_, rfl⟩
  refine ⟨rfl, heven, rfl, l, hl, hmeaning.2 heven, ?_, hcompare "id" .equals, ⟨ls, hread, hls 1 rfl⟩,
    st, hst, hbound _ _ _ _ _ hst⟩
  exact fun hedge => hsame .edge hedge heven trivial

/-- The odd integer is bound as the even one, which is another number. -/
theorem Literal.bound_as_written_rounds :
    ofJson .odd = .ok (.float .edge) ∧ ofJson .even = .ok (.float .edge) ∧
      Node.ofJson Decode.string (Node.sent (.string "id") (.compare .equals) (some .odd)) =
        .ok (.condition "id" (.compare .equals (.float .edge))) ∧
      (Literal.float .edge).toJson.meaning? ≠ Json.odd.meaning? ∧
      Json.even.meaning? ≠ Json.odd.meaning? := by
  have hodd : ofJson .odd = .ok (.float .edge) := rfl
  have hexact : ¬Json.odd.Exact := by
    rintro (hsmall | hmultiple)
    · exact absurd hsmall (by decide)
    · exact absurd hmultiple (by decide)
  refine ⟨hodd, rfl, ?_, (meaning_ofJson_iff hodd).not.2 hexact, ?_⟩
  · exact Node.ofJson_sent_some rfl trivial (Predicate.ofParts_compare .equals rfl hodd)
  · simp only [Json.meaning?, Json.even, Json.odd, ne_eq, Option.some.injEq, Meaning.number.injEq,
      Int.cast_inj]
    decide

end GuardedQuery
