import GuardedQuery.Proofs.Statement.Reading
import GuardedQuery.Proofs.Statement.Text

/-!
# What a WHERE clause says

`Payload.compile_where_says`: the text between `WHERE` and the order of rows, read as a boolean
expression, has the value of the scope and the filter, for all truth values of the conditions. The
parts:

* `ofNodes_formulas`: checking drops the groups in which no condition is left and keeps the values
  of the others;
* `read?_templates`: the text of the restrictions is read as the conjunction of their formulas;
* `Payload.Checked.sql_statement`: the condition stands behind the head of the statement.
-/

namespace GuardedQuery

open Text Template

/-! ## Values of formulas -/

namespace Formula

variable {α : Type}

/-- The values of some formulas; their atoms are numbered from left to right. -/
def values (σ : Nat → Truth) (k : Nat) : List (Formula α) → List Truth
  | [] => []
  | f :: fs => f.value σ k :: values σ (k + f.atoms.length) fs

theorem atoms_ne_nil (f : Formula α) : f.atoms ≠ [] := by
  induction f with
  | atom a => simp [atoms]
  | not f ih => exact ih
  | and f g ihf ihg => simp [atoms, ihf]
  | or f g ihf ihg => simp [atoms, ihf]

theorem atoms_foldl (c : Connective) (f : Formula α) (fs : List (Formula α)) :
    (fs.foldl c.op f).atoms = f.atoms ++ fs.flatMap atoms := by
  induction fs generalizing f with
  | nil => simp
  | cons g fs ih =>
    have hop : (c.op f g).atoms = f.atoms ++ g.atoms := by cases c <;> rfl
    rw [List.foldl_cons, ih, hop, List.flatMap_cons, List.append_assoc]

theorem atoms_wrap (c : Connective) (f : Formula α) : (c.wrap f).atoms = f.atoms := by
  cases c <;> rfl

theorem value_foldl_and (σ : Nat → Truth) (k : Nat) (f : Formula α) (fs : List (Formula α)) :
    (fs.foldl .and f).value σ k = (values σ k (f :: fs)).foldr Truth.and .yes := by
  induction fs generalizing f with
  | nil => simp [values]
  | cons g fs ih =>
    rw [List.foldl_cons, ih]
    simp [values, value, atoms, Truth.and_assoc, Nat.add_assoc]

theorem value_foldl_or (σ : Nat → Truth) (k : Nat) (f : Formula α) (fs : List (Formula α)) :
    (fs.foldl .or f).value σ k = (values σ k (f :: fs)).foldr Truth.or .no := by
  induction fs generalizing f with
  | nil => simp [values]
  | cons g fs ih =>
    rw [List.foldl_cons, ih]
    simp [values, value, atoms, Truth.or_assoc, Nat.add_assoc]

/-- The formula of a group joins the values of its parts. -/
theorem value_chain (c : Connective) (σ : Nat → Truth) (k : Nat) (f : Formula α)
    (fs : List (Formula α)) :
    (c.wrap (fs.foldl c.op f)).value σ k = c.join (values σ k (f :: fs)) := by
  cases c
  · exact value_foldl_and σ k f fs
  · exact value_foldl_or σ k f fs
  · exact congrArg Truth.not (value_foldl_and σ k f fs)

end Formula

/-! ## Checked filters -/

namespace Restriction

mutual

theorem atoms_formula? : ∀ (r : Restriction) {f : Formula (String × Predicate)},
    r.formula? = some f → f.atoms = r.tests
  | .test column p, f, h => by
    cases h
    rfl
  | .group c parts, f, h => by
    obtain ⟨g, gs, hgs, rfl⟩ := formula?_group h
    rw [Formula.atoms_wrap, Formula.atoms_foldl, tests]
    exact atoms_formulas? parts hgs

/-- The atoms of formulas are the tests. -/
theorem atoms_formulas? : ∀ (rs : List Restriction) {fs : List (Formula (String × Predicate))},
    formulas? rs = some fs → fs.flatMap Formula.atoms = testsAll rs
  | [], fs, h => by
    cases h
    rfl
  | r :: rest, fs, h => by
    obtain ⟨f, gs, hf, hgs, rfl⟩ := formulas?_cons h
    rw [List.flatMap_cons, atoms_formula? r hf, atoms_formulas? rest hgs, testsAll]

end

theorem length_conditionsAll {columns : List Column} {max depth : Nat} {nodes : List (Node String)}
    {parts : List Restriction} (h : ofNodes columns max depth nodes = .ok parts) :
    (Node.conditionsAll nodes).length = (testsAll parts).length := by
  have := congrArg List.length (ofNodes_tests nodes h).1
  simpa using this.symm

mutual

theorem ofNode_formula {columns : List Column} {max depth : Nat} : ∀ (n : Node String)
    {part : Option Restriction}, ofNode columns max depth n = .ok part →
      (part = none ∧ n.conditions = []) ∨
        ∃ r f, part = some r ∧ r.formula? = some f ∧ f.atoms.length = n.conditions.length ∧
          ∀ σ k, f.value σ k = n.value σ k
  | .condition key p, part, h => by
    obtain ⟨c, -, rfl, -⟩ := ofNode_condition h
    exact .inr ⟨_, _, rfl, rfl, rfl, fun _ _ => rfl⟩
  | .group c nodes, part, h => by
    obtain ⟨parts, hparts, rfl⟩ := ofNode_group h
    obtain ⟨fs, hfs, hvalues⟩ := ofNodes_formulas nodes hparts
    have hatoms := atoms_formulas? parts hfs
    have hlength := length_conditionsAll hparts
    cases parts with
    | nil => exact .inl ⟨rfl, List.eq_nil_of_length_eq_zero hlength⟩
    | cons r rest =>
      obtain ⟨f, fs', -, -, rfl⟩ := formulas?_cons hfs
      refine .inr ⟨_, c.wrap (fs'.foldl c.op f), rfl, ?_, ?_, fun σ k => ?_⟩
      · rw [formula?, hfs]
        rfl
      · rw [Formula.atoms_wrap, Formula.atoms_foldl, ← List.flatMap_cons, hatoms, ← hlength,
          Node.conditions]
      · rw [Formula.value_chain, hvalues, Node.value]

/-- **Checking keeps the values** of the nodes that hold a condition and drops the others. -/
theorem ofNodes_formulas {columns : List Column} {max depth : Nat} : ∀ (nodes : List (Node String))
    {parts : List Restriction}, ofNodes columns max depth nodes = .ok parts →
      ∃ fs, formulas? parts = some fs ∧ ∀ σ k, Formula.values σ k fs = Node.keptValues σ k nodes
  | [], parts, h => by
    cases h
    exact ⟨[], rfl, fun _ _ => rfl⟩
  | n :: rest, parts, h => by
    obtain ⟨part, parts', hpart, hparts', rfl⟩ := ofNodes_cons h
    obtain ⟨fs, hfs, hvalues⟩ := ofNodes_formulas rest hparts'
    rcases ofNode_formula n hpart with ⟨rfl, hnil⟩ | ⟨r, f, rfl, hf, hlength, hvalue⟩
    · refine ⟨fs, hfs, fun σ k => ?_⟩
      rw [hvalues, Node.keptValues, hnil]
      rfl
    · refine ⟨f :: fs, by simp [formulas?, hf, hfs], fun σ k => ?_⟩
      have hne : n.conditions.isEmpty = false := by
        rw [List.isEmpty_eq_false_iff, ← List.length_pos_iff, ← hlength, List.length_pos_iff]
        exact f.atoms_ne_nil
      rw [Formula.values, hvalue, hvalues, hlength, Node.keptValues, hne]
      rfl

end

/-- The text of restrictions that must all hold is read as their conjunction. -/
theorem read?_templates {d : Dialect} {rs : List Restriction} {f : Formula (String × Predicate)}
    {fs : List (Formula (String × Predicate))} (hfs : formulas? rs = some (f :: fs))
    (hr : Readable (testsAll rs)) :
    Formula.read? d (testLiterals (testsAll rs))
        (String.ofList (renderFrom d 0 (templates " AND " rs))) = some (fs.foldl .and f) := by
  obtain ⟨disjunction, conjunction, hread, hjoined⟩ :=
    operand_templates (d := d) .and rs hfs hr none [] 0 [] [] apart_nil
  rw [List.append_nil, List.append_nil] at hread
  rw [Formula.read?, String.toList_ofList]
  refine hread.trans (Formula.operator_end.trans ?_)
  rw [hjoined]
  rfl

end Restriction

/-! ## Statements -/

namespace Payload

variable {a : Allowlist} {d : Dialect} {o : Override} {p : Payload String}

/-- A condition is written exactly if a condition is left in the scope or the filter. -/
theorem restrictions_eq_nil_iff {columns : List Column} {max : Nat}
    {scope filter : Option (Group String)} {rs : List Restriction}
    (h : Restriction.ofFilters columns max scope filter = .ok rs) :
    rs = [] ↔ Group.conditions? scope ++ Group.conditions? filter = [] := by
  obtain ⟨fs, hfs, -⟩ := Restriction.ofNodes_formulas _ h
  have hlength := Restriction.length_conditionsAll h
  rw [List.map_append, Node.conditionsAll_append, Group.conditionsAll_toList,
    Group.conditionsAll_toList] at hlength
  rw [← List.length_eq_zero_iff (l := _ ++ _), hlength]
  constructor
  · rintro rfl
    rfl
  · intro h0
    cases rs with
    | nil => rfl
    | cons r rest =>
      obtain ⟨f, fs, -, -, rfl⟩ := Restriction.formulas?_cons hfs
      have := congrArg List.length (Restriction.atoms_formulas? _ hfs)
      rw [h0, List.length_eq_zero_iff] at this
      simp [f.atoms_ne_nil] at this

/-- What the text behind `WHERE` says about a scope and a filter over some columns: it is read as
`f`, whose atoms are the conditions from left to right, each on the column of its key and with its
own values, and for all truth values of the conditions `f` has the value of both. -/
structure Says (d : Dialect) (s : Statement) (columns : List Column)
    (scope filter : Option (Group String)) (text : String) (f : Formula (String × Predicate)) :
    Prop where
  reads : Formula.read? d s.values text = some f
  atoms : f.atoms.map some =
    (Group.conditions? scope ++ Group.conditions? filter).map (Restriction.testOf? columns)
  value : ∀ σ, f.value σ 0 =
    (Group.value? σ 0 scope).and (Group.value? σ (Group.conditions? scope).length filter)
  /-- Where the scope holds a condition, no row passes that the scope rejects. -/
  guarded : Group.conditions? scope ≠ [] → ∀ σ, f.value σ 0 = .yes → Group.value? σ 0 scope = .yes

/-- The condition of a checked request says what the scope and the filter say; there is one exactly if
either holds a condition. -/
theorem Checked.where_says {c : Checked} (hc : p.check a o none = .ok c) :
    (Group.conditions? o.scope ++ Group.conditions? p.filter = [] ∧ c.select.restrictions = [] ∧
        c.select.whereText d = "") ∨
      (Group.conditions? o.scope ++ Group.conditions? p.filter ≠ [] ∧ c.select.restrictions ≠ [] ∧
        ∃ text, c.select.whereText d = " WHERE " ++ text ∧
          ∀ draft : Draft, draft.check = .ok a → ∃ f,
            Says d (c.statement d) (a.permitted c.table) o.scope p.filter text f) := by
  obtain ⟨target, -, htarget, -, hrestrictions, -, -, -, -, -, -, htable⟩ := check_ok hc
  obtain ⟨hpermitted, -⟩ := check_permitted hc
  have hcolumns : target.columns = a.permitted c.table := by
    rw [htable, Target.columns_eq htarget]
  have hempty := restrictions_eq_nil_iff hrestrictions
  obtain ⟨fs, hfs, hvalues⟩ := Restriction.ofNodes_formulas _ hrestrictions
  obtain ⟨htests, hlists⟩ := Restriction.ofNodes_tests _ hrestrictions
  rw [List.map_append, Node.conditionsAll_append, Group.conditionsAll_toList,
    Group.conditionsAll_toList, hcolumns] at htests
  cases hrs : c.select.restrictions with
  | nil =>
    refine .inl ⟨hempty.1 hrs, rfl, ?_⟩
    rw [Select.whereText, Select.condition?, hrs]
    rfl
  | cons r rest =>
    rw [hrs] at hfs htests hlists
    obtain ⟨f, gs, -, -, rfl⟩ := Restriction.formulas?_cons hfs
    refine .inr ⟨fun h => by simpa [hrs] using hempty.2 h, List.cons_ne_nil r rest,
      String.ofList (renderFrom d 0 (Restriction.templates " AND " (r :: rest))), ?_, ?_⟩
    · rw [Select.whereText, Select.condition?, hrs]
      rfl
    intro draft ha
    have hreadable : Restriction.Readable (Restriction.testsAll (r :: rest)) := fun t ht => by
      obtain ⟨column, hcolumn, heq⟩ := hpermitted.tests t (hrs ▸ ht)
      exact ⟨heq ▸ ((Draft.check_sound ha).permitted hcolumn).expression, hlists t ht⟩
    have hvalue : ∀ σ, (gs.foldl .and f).value σ 0 = (Group.value? σ 0 o.scope).and
        (Group.value? σ (Group.conditions? o.scope).length p.filter) := fun σ => by
      rw [← Group.join_keptValues_append, ← hvalues]
      exact Formula.value_chain .and σ 0 f gs
    have hatoms := Restriction.atoms_formulas? _ hfs
    rw [List.flatMap_cons, ← Formula.atoms_foldl .and] at hatoms
    refine ⟨gs.foldl .and f, ?_, ?_, hvalue,
      fun _ σ hyes => (Truth.and_eq_yes.1 (hvalue σ ▸ hyes)).1⟩
    · rw [Checked.values_statement, hrs]
      exact Restriction.read?_templates hfs hreadable
    · exact (congrArg (List.map some) hatoms).trans htests

/-- **The condition of a statement says what the scope and the filter say.** There is no WHERE clause
exactly if neither holds a condition. -/
theorem compile_where_says {draft : Draft} (ha : draft.check = .ok a) {s : Statement}
    (hs : p.compile a d o = .ok s) :
    ∃ c, p.check a o none = .ok c ∧
      ((Group.conditions? o.scope ++ Group.conditions? p.filter = [] ∧ s.outline.hasWhere = false ∧
          s.sql = c.select.headText ++ c.select.tailText d) ∨
        (Group.conditions? o.scope ++ Group.conditions? p.filter ≠ [] ∧ s.outline.hasWhere = true ∧
          ∃ text f, s.sql = c.select.headText ++ (" WHERE " ++ text) ++ c.select.tailText d ∧
            Says d s (a.permitted s.outline.table) o.scope p.filter text f)) := by
  obtain ⟨c, hc, rfl⟩ := compile_ok hs
  refine ⟨c, hc, ?_⟩
  rcases Checked.where_says (d := d) hc with ⟨hnone, hrestrictions, hwhere⟩ |
    ⟨hsome, hrestrictions, text, hwhere, hsays⟩
  · refine .inl ⟨hnone, ?_, ?_⟩
    · simp [Checked.statement, hrestrictions]
    · rw [Checked.sql_statement, hwhere, String.append_empty]
  · obtain ⟨f, hf⟩ := hsays draft ha
    refine .inr ⟨hsome, ?_, text, f, ?_, hf⟩
    · simp [Checked.statement, hrestrictions]
    · rw [Checked.sql_statement, hwhere]

/-- A filter with groups in which nothing is left. -/
def nestedRequest : Payload String :=
  ⟨["id"], none, [], some ⟨.not, [.group .or [.group .and []],
    .condition "id" (.member true [.int 1, .int 2]), .condition "name" (.like "a%")]⟩,
    [⟨"name", .desc⟩], some 5, none⟩

/-- A scope of one condition. -/
def tenantScope : Override :=
  ⟨some "items", [], some ⟨.or, [.condition "tenant_id" (.compare .equals (.int 7))]⟩⟩

/-- The statement of the request in its scope. -/
def nestedStatement : Statement :=
  ⟨.mysql, "SELECT id FROM items WHERE (tenant_id = ?) AND NOT (id NOT IN (?, ?) AND name LIKE ?)" ++
    " ORDER BY name DESC LIMIT 5 OFFSET 0", Parameter.number [.int 7, .int 1, .int 2, .text "a%"],
    ⟨["id"], ["id"], false, true, "items"⟩⟩

set_option maxRecDepth 4000 in
theorem compile_nestedRequest :
    nestedRequest.compile .sample .mysql tenantScope = .ok nestedStatement :=
  rfl

theorem compile_where_says_nested :
    Draft.sample.check = .ok .sample ∧
      nestedRequest.compile .sample .mysql tenantScope = .ok nestedStatement ∧
      ∃ c, nestedRequest.check .sample tenantScope none = .ok c ∧
        ((Group.conditions? tenantScope.scope ++ Group.conditions? nestedRequest.filter = [] ∧
            nestedStatement.outline.hasWhere = false ∧
            nestedStatement.sql = c.select.headText ++ c.select.tailText .mysql) ∨
          (Group.conditions? tenantScope.scope ++ Group.conditions? nestedRequest.filter ≠ [] ∧
            nestedStatement.outline.hasWhere = true ∧
            ∃ text f, nestedStatement.sql =
                c.select.headText ++ (" WHERE " ++ text) ++ c.select.tailText .mysql ∧
              Says .mysql nestedStatement (Allowlist.sample.permitted nestedStatement.outline.table)
                tenantScope.scope nestedRequest.filter text f)) :=
  ⟨Draft.check_sample, compile_nestedRequest,
    compile_where_says Draft.check_sample compile_nestedRequest⟩

end Payload

end GuardedQuery
