import GuardedQuery.Proofs.Allowlist.Resolve
import GuardedQuery.Proofs.Except
import GuardedQuery.Proofs.Sql.Placeholder
import GuardedQuery.Statement.Restriction

/-!
# The tests of a restriction

`Restriction.tests r` lists the tests of `r` from left to right. Checking a filter keeps every one of
its conditions, in order, and resolves its key (`ofNodes_tests`); rendering binds the literals of the
tests in order (`literals_template`). What is dropped are groups without conditions, and these have
no tests.
-/

namespace GuardedQuery

/-! ## Columns -/

theorem Target.column_ok {columns : List Column} {position : Position} {key : String} {c : Column} :
    column columns position key = .ok c ↔ Column.resolve? columns key = some c := by
  unfold column
  split <;> simp_all

namespace Restriction

mutual

/-- The tests from left to right. -/
def tests : Restriction → List (String × Predicate)
  | .test column p => [(column, p)]
  | .group _ parts => testsAll parts

/-- The tests of some restrictions from left to right. -/
def testsAll : List Restriction → List (String × Predicate)
  | [] => []
  | r :: rest => r.tests ++ testsAll rest

end

@[simp] theorem testsAll_append (rs rs' : List Restriction) :
    testsAll (rs ++ rs') = testsAll rs ++ testsAll rs' := by
  induction rs with
  | nil => rfl
  | cons r rs ih => rw [List.cons_append, testsAll, testsAll, ih, List.append_assoc]

@[simp] theorem testsAll_singleton (r : Restriction) : testsAll [r] = r.tests := by
  rw [testsAll, testsAll, List.append_nil]

/-- A membership test has something to be a member of. -/
def HasList (p : Predicate) : Prop := ∀ negated, p ≠ .member negated []

/-- The test of a condition, if its key is permitted. -/
def testOf? (columns : List Column) (x : String × Predicate) : Option (String × Predicate) :=
  (Column.resolve? columns x.1).map fun c => (c.expression, x.2)

/-! ## Checking -/

theorem ofCondition_ok {columns : List Column} {key : String} {p : Predicate} {r : Restriction}
    (h : ofCondition columns key p = .ok r) :
    ∃ c, Column.resolve? columns key = some c ∧ r = .test c.expression p ∧ HasList p := by
  unfold ofCondition at h
  split at h
  · cases h
  · cases h
  · rename_i c hc hp
    cases h
    exact ⟨c, Target.column_ok.1 hc, rfl, fun negated hn => hp negated hn⟩

theorem ofNode_condition {columns : List Column} {max depth : Nat} {key : String} {p : Predicate}
    {part : Option Restriction} (h : ofNode columns max depth (.condition key p) = .ok part) :
    ∃ c, Column.resolve? columns key = some c ∧ part = some (.test c.expression p) ∧
      HasList p := by
  rw [ofNode, map_eq_ok] at h
  obtain ⟨r, hr, rfl⟩ := h
  obtain ⟨c, hc, rfl, hp⟩ := ofCondition_ok hr
  exact ⟨c, hc, rfl, hp⟩

theorem ofNode_group {columns : List Column} {max depth : Nat} {c : Connective}
    {nodes : List (Node String)} {part : Option Restriction}
    (h : ofNode columns max depth (.group c nodes) = .ok part) :
    ∃ parts, ofNodes columns max (depth + 1) nodes = .ok parts ∧
      part = if parts.isEmpty then none else some (.group c parts) := by
  rw [ofNode] at h
  split at h
  · cases h
  · split at h
    · cases h
    · rename_i hparts
      cases h
      exact ⟨[], hparts, rfl⟩
    · rename_i parts hne hparts
      cases h
      refine ⟨parts, hparts, ?_⟩
      rw [if_neg (by simpa using hne)]

theorem ofNodes_cons {columns : List Column} {max depth : Nat} {n : Node String}
    {rest : List (Node String)} {parts : List Restriction}
    (h : ofNodes columns max depth (n :: rest) = .ok parts) :
    ∃ part parts', ofNode columns max depth n = .ok part ∧
      ofNodes columns max depth rest = .ok parts' ∧ parts = part.toList ++ parts' := by
  rw [ofNodes] at h
  split at h
  · cases h
  · rename_i part hpart
    obtain ⟨parts', hparts', rfl⟩ := map_eq_ok.1 h
    exact ⟨part, parts', hpart, hparts', rfl⟩

mutual

theorem ofNode_tests {columns : List Column} {max depth : Nat} : ∀ (n : Node String)
    {part : Option Restriction}, ofNode columns max depth n = .ok part →
      (testsAll part.toList).map some = n.conditions.map (testOf? columns) ∧
        ∀ t ∈ testsAll part.toList, HasList t.2
  | .condition key p, part, h => by
    obtain ⟨c, hc, rfl, hp⟩ := ofNode_condition h
    simpa [tests, Node.conditions, testOf?, hc] using hp
  | .group c nodes, part, h => by
    obtain ⟨parts, hparts, rfl⟩ := ofNode_group h
    have ih := ofNodes_tests nodes hparts
    rw [Node.conditions]
    split
    · rename_i hnil
      rwa [List.isEmpty_iff.1 hnil] at ih
    · simpa [tests] using ih

/-- **Checking keeps every condition**, in order, with its key resolved; no list in it is empty. -/
theorem ofNodes_tests {columns : List Column} {max depth : Nat} : ∀ (nodes : List (Node String))
    {parts : List Restriction}, ofNodes columns max depth nodes = .ok parts →
      (testsAll parts).map some = (Node.conditionsAll nodes).map (testOf? columns) ∧
        ∀ t ∈ testsAll parts, HasList t.2
  | [], parts, h => by
    cases h
    exact ⟨rfl, by simp [testsAll]⟩
  | n :: rest, parts, h => by
    obtain ⟨part, parts', hpart, hparts', rfl⟩ := ofNodes_cons h
    obtain ⟨htest, hlist⟩ := ofNode_tests n hpart
    obtain ⟨htest', hlist'⟩ := ofNodes_tests rest hparts'
    rw [testsAll_append, List.map_append, htest, htest', Node.conditionsAll, List.map_append]
    exact ⟨rfl, List.forall_mem_append.2 ⟨hlist, hlist'⟩⟩

end

/-- Every test is on a permitted column. -/
theorem ofNodes_permitted {columns : List Column} {max depth : Nat} {nodes : List (Node String)}
    {parts : List Restriction} (h : ofNodes columns max depth nodes = .ok parts) :
    ∀ t ∈ testsAll parts, ∃ c ∈ columns, c.expression = t.1 := by
  intro t ht
  have hmem : some t ∈ (Node.conditionsAll nodes).map (testOf? columns) :=
    (ofNodes_tests nodes h).1 ▸ List.mem_map_of_mem ht
  obtain ⟨x, -, hx⟩ := List.mem_map.1 hmem
  obtain ⟨c, hc, rfl⟩ := Option.map_eq_some_iff.1 hx
  exact ⟨c, Column.resolve?_mem hc, rfl⟩

theorem templates_cons_cons (separator : String) (r r' : Restriction) (rest : List Restriction) :
    templates separator (r :: r' :: rest) =
      r.template ++ .text separator :: templates separator (r' :: rest) := by
  simp [templates]

/-! ## Literals -/

theorem literals_testTemplate (column : String) (p : Predicate) :
    (testTemplate column p).literals = p.literals := by
  cases p <;> simp [testTemplate, Predicate.literals, Template.literals_bindAll]

/-- The literals of some tests in order. -/
def testLiterals (ts : List (String × Predicate)) : List Literal := ts.flatMap fun t => t.2.literals

/-- Tests have the literals of the conditions they stand for. -/
theorem testLiterals_of_testOf? {columns : List Column} {ts xs : List (String × Predicate)}
    (h : ts.map some = xs.map (testOf? columns)) :
    testLiterals ts = xs.flatMap fun x => x.2.literals := by
  induction xs generalizing ts with
  | nil =>
    rw [List.map_nil, List.map_eq_nil_iff] at h
    rw [h]
    rfl
  | cons x xs ih =>
    obtain ⟨t, ts', rfl, ht, hts⟩ := List.map_eq_cons_iff.1 h
    obtain ⟨c, -, hc⟩ := Option.map_eq_some_iff.1 ht.symm
    rw [testLiterals, List.flatMap_cons, ← hc, List.flatMap_cons]
    exact congrArg _ (ih hts)

mutual

theorem literals_template : ∀ r : Restriction, r.template.literals = testLiterals r.tests
  | .test column p => by simp [template, literals_testTemplate, tests, testLiterals]
  | .group c parts => by
    simp [template, literals_templates (separator c) parts, tests]

/-- **Rendering binds the literals of the tests**, in order. -/
theorem literals_templates (separator : String) : ∀ rs : List Restriction,
    (templates separator rs).literals = testLiterals (testsAll rs)
  | [] => rfl
  | [r] => by rw [templates, literals_template r, testsAll_singleton]
  | r :: r' :: rest => by
    simp [templates, testsAll, literals_template r, literals_templates separator (r' :: rest),
      testLiterals]

end

theorem literals_clause (rs : List Restriction) :
    (clause rs).literals = testLiterals (testsAll rs) := by
  unfold clause
  split
  · rename_i h
    rw [List.isEmpty_iff.1 h]
    rfl
  · rw [Template.literals_text, literals_templates]

end Restriction

end GuardedQuery
