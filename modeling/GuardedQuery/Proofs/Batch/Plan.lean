import GuardedQuery.Batch.Load
import GuardedQuery.Proofs.Batch.Merge
import GuardedQuery.Proofs.Statement.Literals
import GuardedQuery.Proofs.Statement.Lookup
import GuardedQuery.Proofs.Statement.Relation

/-!
# Statements for keys

A plan has compiled the two later statements of a load with one key in the place of the keys that are
not known yet. `Loader.plan_asks`: both statements are compiled for any keys, as long as there is one.
What the statement for parents looks like then is said by `Loader.Details`: it reads the view of the
recipe, the scope of the server stands in front of the test of the key and its parameters come first,
and the key column of the page is among its result columns.

The checks of a lookup and of a relation look at their keys twice only: at whether there are any, and
in the filter that tests for them. The key column goes by one name in both statements
(`Selection.outputName_mem_append`).
-/

namespace GuardedQuery

open Template Text

/-! ## Relations -/

namespace Aggregate

theorem check_keys {a : Allowlist} {r : Relation} {keys₀ : List Literal} {g : Aggregate}
    (h : check a r keys₀ = .ok g) {keys : List Literal} (hkeys : keys ≠ []) :
    check a r keys = .ok { g with keys } := by
  have hkeys₀ : keys₀ ≠ [] := by
    rintro rfl
    cases h
  unfold check at h ⊢
  rw [if_neg (by simpa using hkeys₀)] at h
  rw [if_neg (by simpa using hkeys)]
  dsimp only at h ⊢
  split at h
  · cases h
  · rename_i hcolumns
    rw [if_neg hcolumns]
    split at h
    · cases h
    · split at h
      · cases h
      · rename_i hview
        obtain ⟨foreignKey, hforeign, h⟩ := bind_eq_ok.1 h
        obtain ⟨names, hnames, h⟩ := bind_eq_ok.1 h
        obtain ⟨order, horder, h⟩ := bind_eq_ok.1 h
        cases h
        dsimp only
        rw [if_neg hview, hforeign]
        dsimp only [bind, Except.bind]
        rw [hnames]
        dsimp only
        rw [horder]
        rfl

end Aggregate

theorem Relation.compile_keys {a : Allowlist} {d : Dialect} {r : Relation} {keys₀ : List Literal}
    {st₀ : Statement} (h : compile a d r keys₀ = .ok st₀) {keys : List Literal} (hkeys : keys ≠ []) :
    ∃ st, compile a d r keys = .ok st ∧ st.values = keys := by
  obtain ⟨g, f, -, hg, hf, -⟩ := compile_ok h
  unfold compile
  rw [Aggregate.check_keys hg hkeys, hf]
  exact ⟨_, rfl, Statement.values_ofTemplate.trans (Aggregate.literals_template f _)⟩

/-! ## Plans -/

namespace Loader

variable {l : Loader} {r : Recipe} {p : Payload String} {o : Override} {plan : Plan}

theorem plan_ok (h : l.plan r p o = .ok plan) :
    ∃ keysQuery detail children,
      (l.keysPayload r p).compile l.allowlist l.dialect { o with table := some r.view } =
        .ok keysQuery ∧
      l.detailQuery r p.select { o with table := some r.view } [someKey] = .ok detail ∧
      l.childrenQuery r [someKey] = .ok children ∧
      plan = ⟨r, p.select, { o with table := some r.view }, keysQuery⟩ := by
  have hcompile : l.compile r p o = .ok plan := by
    unfold Loader.plan at h
    cases hc : l.compile r p o with
    | error e =>
      rw [hc] at h
      cases h
    | ok plan' =>
      rw [hc] at h
      cases h
      rfl
  unfold compile at hcompile
  dsimp only at hcompile
  split at hcompile
  · cases hcompile
  · obtain ⟨keysQuery, hkeys, hcompile⟩ := bind_eq_ok.1 hcompile
    obtain ⟨detail, hdetail, hcompile⟩ := bind_eq_ok.1 hcompile
    obtain ⟨children, hchildren, hcompile⟩ := bind_eq_ok.1 hcompile
    cases hcompile
    exact ⟨keysQuery, detail, children, hkeys, hdetail, hchildren, rfl⟩

/-- The page is listed by the key column, which the recipe names. -/
theorem plan_keyColumn (h : l.plan r p o = .ok plan) :
    ∃ key, Column.resolve? (l.allowlist.permitted plan.recipe.view) plan.recipe.primaryKey = some key ∧
      plan.keysQuery.outline.columns = [key.outputName] := by
  obtain ⟨keysQuery, _, _, hkeys, -, -, rfl⟩ := plan_ok h
  obtain ⟨c, hc, rfl⟩ := Payload.compile_ok hkeys
  obtain ⟨target, selection, htarget, hselection, -, -, -, hcolumns, -⟩ := Payload.check_ok hc
  obtain ⟨key, hkey, rfl⟩ := Selection.ofKeys_singleton hselection
  have hview : target.name = r.view := (Option.some.inj (Target.find_ok htarget).1).symm
  rw [Target.columns_eq htarget, hview] at hkey
  refine ⟨key, hkey, ?_⟩
  rw [Payload.Checked.statement, Statement.outline_ofTemplate, hcolumns]
  rfl

/-- What the statement for the parents with some keys is made of. `keyColumn` is among its result
columns; its select is permitted on the view of the recipe, and its condition is the scope of the
server and then the test of the key. -/
structure Details (l : Loader) (p : Plan) (keyColumn : String) (keys : List Literal)
    (st : Statement) : Prop where
  table : st.outline.table = p.recipe.view
  keyColumn : keyColumn ∈ st.outline.columns
  values : st.values = Payload.boundLiterals p.override.scope none ++ keys
  select : ∃ s : Select, s.Permitted l.allowlist p.override p.recipe.view ∧
    st.outline.columns = s.columns.map Column.outputName ∧
    ∃ key scope column,
      Column.resolve? (l.allowlist.permitted p.recipe.view) p.recipe.primaryKey = some key ∧
      Column.resolve? (l.allowlist.permitted p.recipe.view) key.expression = some column ∧
      Restriction.ofFilters (l.allowlist.permitted p.recipe.view) l.allowlist.maxDepth.toNat
        p.override.scope none = .ok scope ∧
      st.sql = s.headText ++ (" WHERE " ++ String.ofList (renderFrom l.dialect 0
        (Restriction.templates " AND " (scope ++ [.among column.expression keys]))))

/-- The two later statements of a load, compiled for some keys, which they bind. -/
structure Asks (l : Loader) (p : Plan) (keys : List Literal) (parents children : Statement) :
    Prop where
  compiledParents : l.detailQuery p.recipe p.select p.override keys = .ok parents
  compiledChildren : l.childrenQuery p.recipe keys = .ok children
  parentsValues : parents.values = Payload.boundLiterals p.override.scope none ++ keys
  childrenValues : children.values = keys

/-- The statement for parents is compiled for any keys. -/
theorem plan_parents (h : l.plan r p o = .ok plan) {keys : List Literal} (hkeys : keys ≠ []) :
    ∃ st, l.detailQuery plan.recipe plan.select plan.override keys = .ok st ∧
      st.values = Payload.boundLiterals plan.override.scope none ++ keys ∧
      ∀ {draft : Draft}, draft.check = .ok l.allowlist → ∀ {keyColumn},
        plan.keysQuery.outline.columns = [keyColumn] → l.Details plan keyColumn keys st := by
  obtain ⟨key', hkey', hkeyColumn⟩ := plan_keyColumn h
  obtain ⟨keysQuery, _, _, -, hprobe, -, rfl⟩ := plan_ok h
  dsimp only at hkey' hkeyColumn ⊢
  obtain ⟨c₀, hc₀, -⟩ := KeyLookup.compile_ok hprobe
  obtain ⟨key, selection, scope, column, hkey, hselection, hscope, hcolumn, hcheck⟩ :=
    KeyLookup.check_keys hc₀
  rw [← Option.some.inj (KeyLookup.check_permitted hc₀).2] at hkey hselection hscope hcolumn
  obtain ⟨c, hc, hcolumns, hrestrictions, horder, hwindow⟩ := hcheck keys hkeys
  obtain ⟨hpermitted, hview⟩ := KeyLookup.check_permitted hc
  rw [← Option.some.inj hview] at hpermitted
  have hvalues : (c.statement l.dialect).values = Payload.boundLiterals o.scope none ++ keys := by
    obtain ⟨htests, -⟩ := Restriction.ofNodes_tests _ hscope
    rw [List.map_append, Node.conditionsAll_append, Group.conditionsAll_toList,
      Group.conditionsAll_toList] at htests
    rw [Payload.Checked.values_statement, hrestrictions, Restriction.literals_among,
      Restriction.testLiterals_of_testOf? htests]
    simp [Payload.boundLiterals]
  refine ⟨c.statement l.dialect, by rw [detailQuery, KeyLookup.compile, hc]; rfl, hvalues, ?_⟩
  intro draft ha keyColumn hsingle
  have hsound : ∀ {c}, c ∈ l.allowlist.permitted r.view → c.Sound := (Draft.check_sound ha).permitted
  have hname : keyColumn = key.outputName := by
    rw [hkeyColumn, List.singleton_inj] at hsingle
    rw [← hsingle, Option.some.inj (hkey'.symm.trans hkey)]
  refine ⟨(Option.some.inj hview).symm, ?_, hvalues, c.select, hpermitted, rfl, key, scope, column,
    hkey, hcolumn, hscope, ?_⟩
  · rw [hname, Payload.Checked.statement, Statement.outline_ofTemplate, hcolumns]
    exact Selection.outputName_mem_append (hsound (Column.resolve?_mem hkey))
      fun d hd => hsound (Selection.ofKeys_mem hselection d hd)
  · have htail : c.select.tailText l.dialect = "" := by
      rw [Select.tailText, horder, hwindow]
      rfl
    rw [Payload.Checked.sql_statement, htail, Select.whereText, Select.condition?, hrestrictions]
    simp

theorem plan_asks (h : l.plan r p o = .ok plan) {keys : List Literal} (hkeys : keys ≠ []) :
    ∃ parents children, l.Asks plan keys parents children := by
  obtain ⟨parents, hparents, hvalues, -⟩ := plan_parents h hkeys
  obtain ⟨_, _, _, -, -, hprobe, rfl⟩ := plan_ok h
  obtain ⟨children, hchildren, hchildrenValues⟩ := Relation.compile_keys hprobe hkeys
  exact ⟨parents, children, hparents, hchildren, hvalues, hchildrenValues⟩

end Loader

end GuardedQuery
