import GuardedQuery.Proofs.Allowlist.Resolve
import GuardedQuery.Proofs.Statement.Projection

/-!
# Key lookups as payloads

A key lookup asks for the rows that a payload would ask for: its columns and the key column, where the
key column has one of the keys (`KeyLookup.toPayload`). Both checks find the same things
(`KeyLookup.Finds`, `KeyLookup.check_iff`, `KeyLookup.toPayload_check`), so both are compiled or
neither is. They differ in one place. A payload looks up the key column for its test, while a lookup
looks up the column reference that the key column stands for, and this may be taken by an alias.
`KeyLookup.compile_alike`: the two statements have one text exactly where it is not.
-/

namespace GuardedQuery

open Template

/-! ## Filters by key -/

namespace Restriction

variable {columns : List Column} {max : Nat}

theorem ofNodes_append {depth : Nat} {ns ms : List (Node String)} {parts : List Restriction} :
    ofNodes columns max depth (ns ++ ms) = .ok parts ↔
      ∃ ps qs, ofNodes columns max depth ns = .ok ps ∧ ofNodes columns max depth ms = .ok qs ∧
        parts = ps ++ qs := by
  induction ns generalizing parts with
  | nil =>
    constructor
    · exact fun h => ⟨[], parts, rfl, h, rfl⟩
    · rintro ⟨ps, qs, hps, hqs, rfl⟩
      cases hps
      exact hqs
  | cons n ns ih =>
    rw [List.cons_append, ofNodes, ofNodes]
    cases ofNode columns max depth n with
    | error e => simp
    | ok part =>
      dsimp only
      rw [map_eq_ok]
      constructor
      · rintro ⟨rest, hrest, rfl⟩
        obtain ⟨ps, qs, hps, hqs, rfl⟩ := ih.1 hrest
        exact ⟨part.toList ++ ps, qs, map_eq_ok.2 ⟨ps, hps, rfl⟩, hqs, by simp⟩
      · rintro ⟨_, qs, hfirst, hqs, rfl⟩
        obtain ⟨ps, hps, rfl⟩ := map_eq_ok.1 hfirst
        exact ⟨ps ++ qs, ih.2 ⟨ps, qs, hps, hqs, rfl⟩, by simp⟩

/-- A column has one of some keys. -/
def among (column : String) (keys : List Literal) : Restriction :=
  .group .and [.test column (.member false keys)]

theorem ofNodes_keys {key : String} {keys : List Literal} (hkeys : keys ≠ [])
    {parts : List Restriction} :
    ofNodes columns max 1 [.group .and [.condition key (.member false keys)]] = .ok parts ↔
      1 ≤ max ∧ ∃ c, Column.resolve? columns key = some c ∧ parts = [among c.expression keys] := by
  obtain ⟨k, rest, rfl⟩ := List.exists_cons_of_ne_nil hkeys
  by_cases hmax : max < 1
  · have hnot : ¬1 ≤ max := Nat.not_le.2 hmax
    simp [ofNodes, ofNode, hmax, hnot]
  · have hle : 1 ≤ max := Nat.not_lt.1 hmax
    cases hresolve : Column.resolve? columns key with
    | none => simp [ofNodes, ofNode, ofCondition, Target.column, hmax, hresolve, Except.map]
    | some c =>
      simp [ofNodes, ofNode, ofCondition, Target.column, hmax, hle, hresolve, Except.map, among,
        eq_comm]

/-- A filter by key stands behind the scope. -/
theorem ofFilters_keys {scope : Option (Group String)} {key : String} {keys : List Literal}
    (hkeys : keys ≠ []) {parts : List Restriction} :
    ofFilters columns max scope (some ⟨.and, [.condition key (.member false keys)]⟩) = .ok parts ↔
      ∃ ps c, ofFilters columns max scope none = .ok ps ∧ 1 ≤ max ∧
        Column.resolve? columns key = some c ∧ parts = ps ++ [among c.expression keys] := by
  unfold ofFilters
  rw [Option.toList_some, List.map_append, ofNodes_append, Option.toList_none, List.append_nil]
  constructor
  · rintro ⟨ps, qs, hps, hqs, rfl⟩
    obtain ⟨hmax, c, hc, rfl⟩ := (ofNodes_keys hkeys).1 hqs
    exact ⟨ps, c, hps, hmax, hc, rfl⟩
  · rintro ⟨ps, c, hps, hmax, hc, rfl⟩
    exact ⟨ps, _, hps, (ofNodes_keys hkeys).2 ⟨hmax, c, hc, rfl⟩, rfl⟩

/-- The test of the key stands behind the scope, and what is around it does not depend on the column. -/
theorem renderFrom_concat_among (d : Dialect) (n : Nat) (scope : List Restriction)
    (keys : List Literal) : ∃ front back, ∀ column : String,
      renderFrom d n (templates " AND " (scope ++ [among column keys])) =
        front ++ column.toList ++ back := by
  induction scope generalizing n with
  | nil =>
    refine ⟨['('], renderFrom d n (.text " IN" :: .text " " :: (bindAll keys ++ [.text ")"])), ?_⟩
    intro column
    simp [templates, among, template, testTemplate, opening, Predicate.operator, Operator.sql]
  | cons r rest ih =>
    obtain ⟨front, back, hrest⟩ := ih (n + r.template.literals.length)
    refine ⟨renderFrom d n r.template ++ (" AND ".toList ++ front), back, fun column => ?_⟩
    obtain ⟨r', rest', hcons⟩ : ∃ r' rest', rest ++ [among column keys] = r' :: rest' :=
      List.exists_cons_of_ne_nil (by simp)
    have htail := hrest column
    rw [hcons] at htail
    rw [List.cons_append, hcons, templates_cons_cons, renderFrom_append, renderFrom_text, htail]
    simp

theorem literals_among (column : String) (scope : List Restriction) (keys : List Literal) :
    testLiterals (testsAll (scope ++ [among column keys])) =
      testLiterals (testsAll scope) ++ keys := by
  rw [testsAll_append, testsAll_singleton]
  simp [among, tests, testsAll, testLiterals, Predicate.literals]

end Restriction

/-! ## What is found -/

namespace KeyLookup

/-- What the checks of a lookup find on the way. -/
structure Parts where
  target : Target
  key : Column
  selection : Selection
  /-- The restrictions of the server. -/
  scope : List Restriction

/-- The select of a lookup that tests the column `tested`. -/
def Parts.select (x : Parts) (tested : Column) (keys : List Literal) : Select where
  columns := Selection.append x.selection.columns x.key
  source := x.target.source
  joins := x.target.joins
  restrictions := x.scope ++ [.among tested.expression keys]
  order := []
  window := ⟨none, none⟩

theorem Parts.eq_select {x : Parts} {tested : Column} {keys : List Literal} {s : Select}
    (hcolumns : s.columns = Selection.append x.selection.columns x.key)
    (hsource : s.source = x.target.source) (hjoins : s.joins = x.target.joins)
    (hrestrictions : s.restrictions = x.scope ++ [.among tested.expression keys])
    (horder : s.order = []) (hwindow : s.window = ⟨none, none⟩) : s = x.select tested keys := by
  cases s
  cases hcolumns
  cases hsource
  cases hjoins
  cases hrestrictions
  cases horder
  cases hwindow
  rfl

variable {a : Allowlist} {o : Override} {l : KeyLookup} {x y : Parts}

/-- The parts are those of the lookup, and filters may have a level. -/
structure Finds (a : Allowlist) (o : Override) (l : KeyLookup) (x : Parts) : Prop where
  target : Target.find a (o.table <|> some l.table) [] o = .ok x.target
  key : Column.resolve? x.target.columns l.keyColumn = some x.key
  selection : Selection.ofKeys x.target.columns l.select = .ok x.selection
  scope : Restriction.ofFilters x.target.columns a.maxDepth.toNat o.scope none = .ok x.scope
  depth : 1 ≤ a.maxDepth.toNat

/-- A lookup has one set of parts. -/
theorem Finds.unique (hx : l.Finds a o x) (hy : l.Finds a o y) : x = y := by
  obtain ⟨target, key, selection, scope⟩ := x
  obtain ⟨target', key', selection', scope'⟩ := y
  obtain rfl : target = target' := Except.ok.inj (hx.target.symm.trans hy.target)
  obtain rfl : key = key' := Option.some.inj (hx.key.symm.trans hy.key)
  obtain rfl : selection = selection' := Except.ok.inj (hx.selection.symm.trans hy.selection)
  obtain rfl : scope = scope' := Except.ok.inj (hx.scope.symm.trans hy.scope)
  rfl

theorem check_iff (hselect : l.select ≠ []) (hkeys : l.keys ≠ []) {c : Payload.Checked} :
    l.check a o = .ok c ↔ ∃ x tested, l.Finds a o x ∧
      Column.resolve? x.target.columns x.key.expression = some tested ∧
      c = ⟨x.select tested l.keys, x.selection.keys, x.target.name⟩ := by
  constructor
  · intro h
    obtain ⟨target, key, selection, htarget, hkey, hselection, hrestrictions, hcolumns, horder,
      hwindow, hsource, hjoins, hrequested, htable⟩ := check_ok h
    obtain ⟨scope, tested, hscope, hmax, htested, hparts⟩ :=
      (Restriction.ofFilters_keys hkeys).1 hrestrictions
    refine ⟨⟨target, key, selection, scope⟩, tested, ⟨htarget, hkey, hselection, hscope, hmax⟩,
      htested, ?_⟩
    have hselect : c.select = Parts.select ⟨target, key, selection, scope⟩ tested l.keys :=
      Parts.eq_select hcolumns hsource hjoins hparts horder hwindow
    cases c
    cases hselect
    cases hrequested
    cases htable
    rfl
  · rintro ⟨x, tested, hx, htested, rfl⟩
    have hfilters := (Restriction.ofFilters_keys hkeys).2
      ⟨x.scope, tested, hx.scope, hx.depth, htested, rfl⟩
    unfold check
    dsimp only
    rw [if_neg (by simpa using hkeys), if_neg (by simpa using hselect), hx.target]
    dsimp only [bind, Except.bind]
    rw [Target.column_ok.2 hx.key, hx.selection]
    dsimp only
    rw [hfilters]
    rfl

/-- A lookup that is checked with some keys is checked with any others: the scope and the column whose
values are tested stay the same. -/
theorem check_keys {table keyColumn : String} {select : List String} {keys₀ : List Literal}
    {c₀ : Payload.Checked} (h : check a o ⟨table, keyColumn, select, keys₀⟩ = .ok c₀) :
    ∃ key selection scope column,
      Column.resolve? (a.permitted c₀.table) keyColumn = some key ∧
      Selection.ofKeys (a.permitted c₀.table) select = .ok selection ∧
      Restriction.ofFilters (a.permitted c₀.table) a.maxDepth.toNat o.scope none = .ok scope ∧
      Column.resolve? (a.permitted c₀.table) key.expression = some column ∧
      ∀ keys, keys ≠ [] → ∃ c, check a o ⟨table, keyColumn, select, keys⟩ = .ok c ∧
        c.select.columns = Selection.append selection.columns key ∧
        c.select.restrictions = scope ++ [.among column.expression keys] ∧
        c.select.order = [] ∧ c.select.window = ⟨none, none⟩ := by
  have hkeys₀ : keys₀ ≠ [] := by
    rintro rfl
    cases h
  have hselect : select ≠ [] := by
    rintro rfl
    unfold check at h
    rw [if_neg (by simpa using hkeys₀)] at h
    cases h
  obtain ⟨x, tested, hx, htested, rfl⟩ := (check_iff hselect hkeys₀).1 h
  dsimp only
  rw [← Target.columns_eq hx.target]
  refine ⟨x.key, x.selection, x.scope, tested, hx.key, hx.selection, hx.scope, htested, ?_⟩
  intro keys hkeys
  have hagain : Finds a o ⟨table, keyColumn, select, keys⟩ x :=
    ⟨hx.target, hx.key, hx.selection, hx.scope, hx.depth⟩
  exact ⟨_, (check_iff hselect hkeys).2 ⟨x, tested, hagain, htested, rfl⟩, rfl, rfl, rfl, rfl⟩

/-! ## The payload of a lookup -/

/-- The payload that asks for the rows of a lookup. -/
def toPayload (l : KeyLookup) : Payload String where
  select := l.select ++ [l.keyColumn]
  source := some l.table
  joins := []
  filter := some ⟨.and, [.condition l.keyColumn (.member false l.keys)]⟩
  order := []
  limit := none
  offset := none

theorem toPayload_check (ha : a.Sound) (hkeys : l.keys ≠ []) {c : Payload.Checked}
    (h : l.toPayload.check a o none = .ok c) :
    ∃ x, l.Finds a o x ∧ c.select = x.select x.key l.keys ∧ c.table = x.target.name := by
  obtain ⟨target, selection, htarget, hselection, hrestrictions, horder, hwindow, hcolumns, hsource,
    hjoins, -, htable⟩ := Payload.check_ok h
  obtain ⟨scope, key, hscope, hmax, hkey, hparts⟩ := (Restriction.ofFilters_keys hkeys).1 hrestrictions
  obtain ⟨s, e, hs, he, happend⟩ :=
    (Selection.ofKeys_concat (Target.sound ha htarget)).1 ⟨selection, hselection, hcolumns.symm⟩
  have hkey' : e = key := Option.some.inj (he.symm.trans hkey)
  subst hkey'
  exact ⟨⟨target, e, s, scope⟩, ⟨htarget, hkey, hs, hscope, hmax⟩,
    Parts.eq_select happend.symm hsource hjoins hparts (Except.ok.inj horder).symm
      (Payload.checkWindow_ok hwindow), htable⟩

theorem Finds.toPayload_check (ha : a.Sound) (hkeys : l.keys ≠ []) (hx : l.Finds a o x) :
    ∃ c, l.toPayload.check a o none = .ok c := by
  obtain ⟨selection, hselection, -⟩ := (Selection.ofKeys_concat (Target.sound ha hx.target)).2
    ⟨x.selection, x.key, hx.selection, hx.key, rfl⟩
  have hfilters := (Restriction.ofFilters_keys hkeys).2
    ⟨x.scope, x.key, hx.scope, hx.depth, hx.key, rfl⟩
  have htarget : Target.find a (o.table <|> l.toPayload.source <|> none) l.toPayload.joins o =
    .ok x.target := hx.target
  unfold Payload.check
  dsimp only
  rw [if_neg (by simp [toPayload])]
  have hwindow : l.toPayload.checkWindow = .ok ⟨none, none⟩ := rfl
  rw [hwindow, htarget]
  dsimp only [bind, Except.bind]
  rw [toPayload]
  dsimp only
  rw [hselection]
  dsimp only
  rw [hfilters]
  exact ⟨_, rfl⟩

/-! ## Statements -/

/-- Apart from the column that is tested, two selects of a lookup have one text. -/
theorem Parts.sql_select (d : Dialect) (x : Parts) (keys : List Literal) :
    ∃ front back : String, ∀ tested requested table,
      (Payload.Checked.statement d ⟨x.select tested keys, requested, table⟩).sql =
        front ++ tested.expression ++ back := by
  obtain ⟨front, back, hcondition⟩ := Restriction.renderFrom_concat_among d 0 x.scope keys
  refine ⟨(x.select x.key keys).headText ++ " WHERE " ++ String.ofList front,
    String.ofList back ++ (x.select x.key keys).tailText d, fun tested requested table => ?_⟩
  have hhead : (x.select tested keys).headText = (x.select x.key keys).headText := rfl
  have htail : (x.select tested keys).tailText d = (x.select x.key keys).tailText d := rfl
  have hwhere : (x.select tested keys).whereText d =
      " WHERE " ++ String.ofList front ++ tested.expression ++ String.ofList back := by
    rw [Select.whereText, Select.condition?, Parts.select, if_neg (by simp), hcondition,
      ← String.toList_inj]
    simp
  rw [Payload.Checked.sql_statement]
  dsimp only
  rw [hhead, htail, hwhere, ← String.toList_inj]
  simp

theorem Parts.parameters_select (d : Dialect) (x : Parts) (keys : List Literal)
    {tested tested' : Column} {requested requested' : List String} {table table' : String} :
    (Payload.Checked.statement d ⟨x.select tested keys, requested, table⟩).parameters =
      (Payload.Checked.statement d ⟨x.select tested' keys, requested', table'⟩).parameters := by
  rw [Payload.Checked.statement, Payload.Checked.statement, Statement.ofTemplate,
    Statement.ofTemplate]
  dsimp only
  rw [Select.literals_template, Select.literals_template, Parts.select, Parts.select,
    Restriction.literals_among, Restriction.literals_among]

/-- **A lookup is compiled exactly if its payload is**, with the same parameters and the same result
columns. The text is the same unless the column reference of the key column is taken by an alias. Then,
and only then, the column that is tested is not the key column, which is selected in any case. -/
theorem compile_alike {draft : Draft} (ha : draft.check = .ok a) (d : Dialect) (o : Override)
    (hselect : l.select ≠ []) (hkeys : l.keys ≠ []) :
    ((∃ s, l.compile a d o = .ok s) ↔ ∃ t, l.toPayload.compile a d o = .ok t) ∧
      ∀ {s t}, l.compile a d o = .ok s → l.toPayload.compile a d o = .ok t →
        s.parameters = t.parameters ∧ s.outline.columns = t.outline.columns ∧
        s.outline.table = t.outline.table ∧
        ∃ key, Column.resolve? (a.permitted s.outline.table) l.keyColumn = some key ∧
          (s.sql = t.sql ↔ ¬Column.Taken (a.permitted s.outline.table) key.expression) ∧
          ∃ c scope tested, l.check a o = .ok c ∧ s = c.statement d ∧ key ∈ c.select.columns ∧
            c.select.restrictions = scope ++ [.among tested l.keys] ∧
            (tested = key.expression ↔
              ¬Column.Taken (a.permitted s.outline.table) key.expression) := by
  have hsound := Draft.check_sound ha
  have htested : ∀ {x}, l.Finds a o x → ∃ tested,
      Column.resolve? x.target.columns x.key.expression = some tested ∧
        (tested.expression = x.key.expression ↔
          ¬Column.Taken x.target.columns x.key.expression) := fun hx =>
    let ⟨tested, hresolve, hexpression, _⟩ :=
      Column.resolve?_expression (Target.sound hsound hx.target) (Column.resolve?_mem hx.key)
    ⟨tested, hresolve, hexpression⟩
  refine ⟨⟨?_, ?_⟩, ?_⟩
  · rintro ⟨s, hs⟩
    obtain ⟨c, hc, -⟩ := compile_ok hs
    obtain ⟨x, -, hx, -, -⟩ := (check_iff hselect hkeys).1 hc
    obtain ⟨c', hc'⟩ := hx.toPayload_check hsound hkeys
    exact ⟨_, map_eq_ok.2 ⟨c', hc', rfl⟩⟩
  · rintro ⟨t, ht⟩
    obtain ⟨c, hc, -⟩ := Payload.compile_ok ht
    obtain ⟨x, hx, -⟩ := toPayload_check hsound hkeys hc
    obtain ⟨tested, hresolve, -⟩ := htested hx
    exact ⟨_, map_eq_ok.2 ⟨_, (check_iff hselect hkeys).2 ⟨x, tested, hx, hresolve, rfl⟩, rfl⟩⟩
  · intro s t hs ht
    obtain ⟨c, hc, rfl⟩ := compile_ok hs
    obtain ⟨⟨select, requested, table⟩, hc', rfl⟩ := Payload.compile_ok ht
    obtain ⟨x, tested, hx, hresolve, rfl⟩ := (check_iff hselect hkeys).1 hc
    obtain ⟨y, hy, hselected, htable⟩ := toPayload_check hsound hkeys hc'
    -- the selects are now those of the same parts, and only the tested columns may differ
    obtain rfl := hx.unique hy
    dsimp only at hselected htable
    subst hselected htable
    obtain ⟨tested', hresolve', hexpression⟩ := htested hx
    obtain rfl := Option.some.inj (hresolve.symm.trans hresolve')
    obtain ⟨front, back, hsql⟩ := x.sql_select d l.keys
    have htexts : front ++ tested.expression ++ back = front ++ x.key.expression ++ back ↔
        tested.expression = x.key.expression := by
      rw [← String.toList_inj, ← String.toList_inj]
      simp
    have hkey : x.key ∈ Selection.append x.selection.columns x.key := by
      apply ((check_selects hsound hc).mem_iff x.key).2
      rw [← Target.columns_eq hx.target]
      exact ⟨l.keyColumn, by simp, hx.key⟩
    have hpermitted : a.permitted (Payload.Checked.statement d
        ⟨x.select tested l.keys, x.selection.keys, x.target.name⟩).outline.table =
          x.target.columns := (Target.columns_eq hx.target).symm
    rw [hpermitted]
    refine ⟨x.parameters_select d l.keys, rfl, rfl, x.key, hx.key, ?_, _, x.scope,
      tested.expression, hc, rfl, hkey, rfl, hexpression⟩
    rw [hsql, hsql, htexts]
    exact hexpression

/-- The orders by some key column. -/
def ordersBy (keyColumn : String) : KeyLookup := ⟨"orders", keyColumn, ["id"], [.int 1]⟩

theorem compile_alike_net : Draft.renamed.check = .ok .renamed ∧
    (ordersBy "total").select ≠ [] ∧ (ordersBy "total").keys ≠ [] ∧
    ∃ s t, (ordersBy "total").compile .renamed .postgres .none = .ok s ∧
      (ordersBy "total").toPayload.compile .renamed .postgres .none = .ok t ∧
      s.parameters = t.parameters ∧ s.outline.columns = t.outline.columns ∧ s.sql = t.sql := by
  have hselect : (ordersBy "total").select ≠ [] := List.cons_ne_nil _ _
  have hkeys : (ordersBy "total").keys ≠ [] := List.cons_ne_nil _ _
  refine ⟨Draft.check_renamed, hselect, hkeys, _, _, rfl, rfl, ?_⟩
  obtain ⟨hparameters, hcolumns, -, key, hkey, hsql, -⟩ :=
    (compile_alike Draft.check_renamed .postgres .none hselect hkeys).2 rfl rfl
  cases hkey
  exact ⟨hparameters, hcolumns, hsql.2 (by decide)⟩

/-- The gross amount is selected, and the net amount is tested. -/
theorem compile_apart : Draft.renamed.check = .ok .renamed ∧
    ((ordersBy "gross").compile .renamed .postgres .none).map Statement.sql =
      .ok "SELECT id, total AS gross FROM orders WHERE (net IN ($1))" ∧
    ((ordersBy "gross").toPayload.compile .renamed .postgres .none).map Statement.sql =
      .ok "SELECT id, total AS gross FROM orders WHERE (total IN ($1))" :=
  ⟨Draft.check_renamed, rfl, rfl⟩

end KeyLookup

end GuardedQuery
