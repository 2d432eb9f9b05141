import GuardedQuery.Proofs.Statement.Where

/-!
# Scopes

The scope of the server stands in front of the filter of the client and is checked and written as the
filter is, so it loses the groups in which no condition is left. If the scope holds a condition, its
formula is the first conjunct of the WHERE clause (`Statement.Restricted`), and no row passes on which it is
not true. If it holds none, it is lost as a whole and the statement is the one without a scope, also if
the scope is a disjunction of nothing, which as it stands admits no row.
-/

namespace GuardedQuery

open Text Template

/-- The formula has the conditions of the filter as its atoms, each on the column of its key, and has
the value of the filter. -/
structure Formula.Renders (columns : List Column) (g : Group String)
    (f : Formula (String × Predicate)) : Prop where
  atoms : f.atoms.map some = g.conditions.map (Restriction.testOf? columns)
  value : ∀ σ k, f.value σ k = g.toNode.value σ k

/-! ## Restrictions -/

namespace Restriction

variable {columns : List Column} {max : Nat} {g : Group String} {filter : Option (Group String)}
  {rs : List Restriction}

/-- The scope is lost, or its restriction comes first. -/
theorem ofFilters_scope (h : ofFilters columns max (some g) filter = .ok rs) :
    (g.conditions = [] ∧ ofFilters columns max none filter = .ok rs) ∨
      ∃ f fs, formulas? rs = some (f :: fs) ∧ f.Renders columns g := by
  obtain ⟨part, parts, hpart, hparts, rfl⟩ := ofNodes_cons h
  obtain ⟨fs, hfs, -⟩ := ofNodes_formulas _ hparts
  obtain ⟨htests, -⟩ := ofNode_tests _ hpart
  rcases ofNode_formula _ hpart with ⟨rfl, hnil⟩ | ⟨r, f, rfl, hf, -, hvalue⟩
  · exact .inl ⟨hnil, hparts⟩
  · rw [Option.toList_some, testsAll_singleton, ← atoms_formula? r hf] at htests
    refine .inr ⟨f, fs, ?_, htests, hvalue⟩
    simp [formulas?, hf, hfs]

/-- A scope without conditions is as good as none. -/
theorem ofFilters_unscoped (h : ofFilters columns max (some g) filter = .ok rs)
    (hnil : g.conditions = []) : ofFilters columns max none filter = .ok rs := by
  rcases ofFilters_scope h with ⟨-, hrs⟩ | ⟨f, -, -, hatoms, -⟩
  · exact hrs
  · rw [hnil, List.map_nil, List.map_eq_nil_iff] at hatoms
    exact absurd hatoms f.atoms_ne_nil

end Restriction

/-! ## Statements -/

/-- The WHERE clause stands behind the head of the select and is a conjunction that begins with the
scope, so that the rows that pass are rows on which the scope is true. -/
structure Statement.Restricted (columns : List Column) (g : Group String) (select : Select)
    (s : Statement) : Prop where
  hasWhere : s.outline.hasWhere = true
  conjunct : ∃ (text : String) (f : Formula (String × Predicate))
      (fs : List (Formula (String × Predicate))),
    s.sql = select.headText ++ (" WHERE " ++ text) ++ select.tailText s.dialect ∧
    Formula.read? s.dialect s.values text = some (fs.foldl .and f) ∧ f.Renders columns g ∧
    ∀ σ, (fs.foldl .and f).value σ 0 = .yes → g.toNode.value σ 0 = .yes

namespace Payload.Checked

theorem restricted {a : Allowlist} (ha : a.Sound) (d : Dialect) {o : Override} {c : Checked}
    (hc : c.select.Permitted a o c.table) {max : Nat} {g : Group String}
    {filter : Option (Group String)} (hg : g.conditions ≠ [])
    (h : Restriction.ofFilters (a.permitted c.table) max (some g) filter =
      .ok c.select.restrictions) :
    (c.statement d).Restricted (a.permitted c.table) g c.select := by
  rcases Restriction.ofFilters_scope h with ⟨hnil, -⟩ | ⟨f, fs, hfs, hrenders⟩
  · exact absurd hnil hg
  have hne : c.select.restrictions.isEmpty = false := by
    cases hrs : c.select.restrictions with
    | nil => rw [hrs] at hfs; cases hfs
    | cons r rest => rfl
  have hlists := (Restriction.ofNodes_tests _ h).2
  have hreadable : Restriction.Readable (Restriction.testsAll c.select.restrictions) := fun t ht => by
    obtain ⟨column, hcolumn, heq⟩ := hc.tests t ht
    exact ⟨heq ▸ (ha.permitted hcolumn).expression, hlists t ht⟩
  refine ⟨by simp [statement, hne],
    String.ofList (renderFrom d 0 (Restriction.templates " AND " c.select.restrictions)), f, fs, ?_,
    ?_, hrenders, fun σ hyes => ?_⟩
  · rw [sql_statement, Select.whereText, Select.condition?, hne]
    rfl
  · rw [values_statement]
    exact Restriction.read?_templates hfs hreadable
  · rw [Formula.value_foldl_and] at hyes
    rw [← hrenders.value]
    exact (Truth.and_eq_yes.1 hyes).1

end Payload.Checked

namespace Payload

variable {a : Allowlist} {o : Override} {g : Group String}

/-- A payload with a scope without conditions is checked as without one. -/
theorem check_unscoped (hg : o.scope = some g) (hnil : g.conditions = []) {fallback : Option String}
    {p : Payload String} {c : Checked} (h : p.check a o fallback = .ok c) :
    p.check a { o with scope := none } fallback = .ok c := by
  obtain ⟨hselect, window, target, selection, restrictions, order, hwindow, htarget, hselection,
    hrestrictions, horder, rfl⟩ := check_eq_ok.1 h
  rw [hg] at hrestrictions
  exact check_eq_ok.2 ⟨hselect, window, target, selection, restrictions, order, hwindow, htarget,
    hselection, Restriction.ofFilters_unscoped hrestrictions hnil, horder, rfl⟩

end Payload

/-- A lookup with a scope without conditions is checked as without one. -/
theorem KeyLookup.check_unscoped {a : Allowlist} {o : Override} {g : Group String}
    (hg : o.scope = some g) (hnil : g.conditions = []) {l : KeyLookup} {c : Payload.Checked}
    (h : l.check a o = .ok c) : l.check a { o with scope := none } = .ok c := by
  obtain ⟨hkeys, hselect, target, key, selection, restrictions, htarget, hkey, hselection,
    hrestrictions, rfl⟩ := check_eq_ok.1 h
  rw [hg] at hrestrictions
  exact check_eq_ok.2 ⟨hkeys, hselect, target, key, selection, restrictions, htarget, hkey, hselection,
    Restriction.ofFilters_unscoped hrestrictions hnil, rfl⟩

/-- **A scope that holds a condition restricts every statement**, of payloads and of lookups, with the
value that is left when the groups without conditions are discarded. A scope without any condition
changes nothing. In a scope without empty groups there is a condition and nothing is discarded. -/
theorem compile_scoped {draft : Draft} {a : Allowlist} (ha : draft.check = .ok a) (d : Dialect)
    {o : Override} {g : Group String} (hg : o.scope = some g) :
    (∀ (p : Payload String) (s : Statement), p.compile a d o = .ok s →
      (g.conditions ≠ [] → ∃ c, p.check a o none = .ok c ∧
        s.Restricted (a.permitted s.outline.table) g c.select) ∧
      (g.conditions = [] → p.compile a d { o with scope := none } = .ok s)) ∧
    (∀ (l : KeyLookup) (s : Statement), l.compile a d o = .ok s →
      (g.conditions ≠ [] → ∃ c, l.check a o = .ok c ∧
        s.Restricted (a.permitted s.outline.table) g c.select) ∧
      (g.conditions = [] → l.compile a d { o with scope := none } = .ok s)) ∧
    (g.toNode.Filled →
      g.conditions ≠ [] ∧ ∀ σ k, g.toNode.value σ k = g.toNode.plainValue σ k) := by
  have hsound := Draft.check_sound ha
  refine ⟨?_, ?_, fun hfilled => ⟨hfilled.conditions_ne_nil, fun σ k =>
    Node.value_of_filled σ k g.toNode hfilled⟩⟩
  · intro p s hs
    obtain ⟨c, hc, rfl⟩ := Payload.compile_ok hs
    refine ⟨fun hne => ⟨c, hc, ?_⟩, fun hnil =>
      map_eq_ok.2 ⟨c, Payload.check_unscoped hg hnil hc, rfl⟩⟩
    obtain ⟨target, -, htarget, -, hrestrictions, -, -, -, -, -, -, htable⟩ := Payload.check_ok hc
    rw [Target.columns_eq htarget, ← htable, hg] at hrestrictions
    exact Payload.Checked.restricted hsound d (Payload.check_permitted hc).1 hne hrestrictions
  · intro l s hs
    obtain ⟨c, hc, rfl⟩ := KeyLookup.compile_ok hs
    refine ⟨fun hne => ⟨c, hc, ?_⟩, fun hnil =>
      map_eq_ok.2 ⟨c, KeyLookup.check_unscoped hg hnil hc, rfl⟩⟩
    obtain ⟨target, key, -, htarget, -, -, hrestrictions, -, -, -, -, -, -, htable⟩ :=
      KeyLookup.check_ok hc
    rw [Target.columns_eq htarget, ← htable, hg] at hrestrictions
    exact Payload.Checked.restricted hsound d (KeyLookup.check_permitted hc).1 hne hrestrictions

/-- Any of no permitted tenants, next to a tenant. -/
def noTenants : Group String :=
  ⟨.and, [.group .or [], .condition "tenant_id" (.compare .equals (.int 7))]⟩

/-- A request for the names. -/
def nameListing : Payload String := ⟨["name"], none, [], none, [], none, none⟩

/-- A scope on the items. -/
def scopedTo (g : Group String) : Override := ⟨some "items", [], some g⟩

theorem compile_scoped_noTenants : Draft.sample.check = .ok .sample ∧
    (scopedTo noTenants).scope = some noTenants ∧ noTenants.conditions ≠ [] ∧
    (∃ s c, nameListing.compile .sample .postgres (scopedTo noTenants) = .ok s ∧
      s.sql = "SELECT name FROM items WHERE (tenant_id = $1)" ∧
      s.Restricted (Allowlist.sample.permitted "items") noTenants c) ∧
    ∃ s c, KeyLookup.compile .sample .postgres (scopedTo noTenants) ⟨"items", "id", ["name"], [.int 1]⟩ =
        .ok s ∧
      s.sql = "SELECT name, id FROM items WHERE (tenant_id = $1) AND (id IN ($2))" ∧
      s.Restricted (Allowlist.sample.permitted "items") noTenants c := by
  have hne : noTenants.conditions ≠ [] := by decide
  obtain ⟨hpayload, hlookup, -⟩ := compile_scoped Draft.check_sample .postgres
    (show (scopedTo noTenants).scope = some noTenants from rfl)
  refine ⟨Draft.check_sample, rfl, hne, ?_, ?_⟩
  · obtain ⟨c, -, hrestricted⟩ := (hpayload nameListing _ rfl).1 hne
    exact ⟨_, _, rfl, rfl, hrestricted⟩
  · obtain ⟨c, -, hrestricted⟩ := (hlookup ⟨"items", "id", ["name"], [.int 1]⟩ _ rfl).1 hne
    exact ⟨_, _, rfl, rfl, hrestricted⟩

/-- A scope that admits no row as it stands may be lost, as a whole or next to a condition. -/
theorem compile_scope_lost : Draft.sample.check = .ok .sample ∧
    (∀ σ k, (Group.toNode (κ := String) ⟨.or, []⟩).plainValue σ k = .no) ∧
    (∃ s, nameListing.compile .sample .postgres (scopedTo ⟨.or, []⟩) = .ok s ∧
      s.sql = "SELECT name FROM items" ∧ s.outline.hasWhere = false) ∧
    (∀ σ k, noTenants.toNode.plainValue σ k = .no) ∧
    ∃ s, nameListing.compile .sample .postgres (scopedTo noTenants) = .ok s ∧
      s.sql = "SELECT name FROM items WHERE (tenant_id = $1)" :=
  ⟨Draft.check_sample, fun _ _ => rfl, ⟨_, rfl, rfl, rfl⟩, fun _ _ => rfl, _, rfl, rfl⟩

end GuardedQuery
