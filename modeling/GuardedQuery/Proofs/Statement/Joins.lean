import GuardedQuery.Proofs.Sql.Phrase
import GuardedQuery.Proofs.Statement.Acceptance
import GuardedQuery.Proofs.Statement.Pagination
import GuardedQuery.Proofs.Statement.Where

/-!
# Joins of a client

A client's join is a reference to a join that is there already: one of the view that is asked for, or
one of the server (`Join.Known`). It decides whether the request is refused and nothing else
(`Target.find_known`, `Target.find_unknown`). The joins that are written are those of the server, or
else those of the view (`Override.joinsOn`), behind the source of the statement and in front of its
condition (`Statement.Joined`). No join stands in the text behind them, which is the condition, the
order and the window of the request (`Payload.Ending`), and the text around them is the same whatever
they are (`Payload.check_rejoined`). Where the server names the table, the one that the client names is
not looked at either. `Payload.compile_joins` says all of this of the result of compiling.
-/

namespace GuardedQuery

open Text

/-- The join is one of the view that is asked for, or one of the server. -/
def Join.Known (a : Allowlist) (o : Override) (requested : Option String) (j : Join) : Prop :=
  (∃ view ∈ requested, j ∈ (a.viewOf view).joins) ∨ j ∈ o.joins

instance (a : Allowlist) (o : Override) (requested : Option String) (j : Join) :
    Decidable (j.Known a o requested) :=
  inferInstanceAs (Decidable (_ ∨ _))

/-- The joins of a statement on a table: those of the server if it has any, or else those of the view. -/
def Override.joinsOn (o : Override) (a : Allowlist) (table : String) : List Join :=
  if o.joins.isEmpty then (a.viewOf table).joins else o.joins

/-! ## Targets -/

namespace Target

variable {a : Allowlist} {o : Override} {requested : Option String} {joins : List Join}

/-- Known joins are as good as none. -/
theorem find_known (h : ∀ j ∈ joins, j.Known a o requested) :
    find a requested joins o = find a requested [] o := by
  cases requested with
  | none => rfl
  | some name =>
    unfold find
    dsimp only
    cases a.columns? name with
    | none => rfl
    | some columns =>
      have hnone : (joins.find? fun j => !((a.view? name).getD ⟨⟨name, none⟩, []⟩).joins.contains j &&
          !o.joins.contains j) = none := by
        rw [List.find?_eq_none]
        intro j hj
        rcases h j hj with ⟨view, hview, hconfigured⟩ | hserver
        · cases hview
          have hview : j ∈ ((a.view? name).getD ⟨⟨name, none⟩, []⟩).joins := hconfigured
          simp [hview]
        · simp [hserver]
      dsimp only
      rw [hnone, List.find?_nil]

/-- With a join that is not known no target is found. Either the first such join is refused, or there is
no target in any case. -/
theorem find_unknown (h : ∃ j ∈ joins, ¬j.Known a o requested) :
    ∃ e, find a requested joins o = .error e ∧
      ((∃ j ∈ joins, ¬j.Known a o requested ∧ e = .denied .join j.table) ∨
        find a requested [] o = .error e) := by
  obtain ⟨j, hj, hunknown⟩ := h
  cases hfind : find a requested joins o with
  | ok t =>
    obtain ⟨rfl, -, -, -⟩ := find_ok hfind
    have hknown := find_joins hfind j hj
    exact absurd (hknown.imp_left fun h => ⟨t.name, rfl, h⟩) hunknown
  | error e =>
    refine ⟨e, rfl, ?_⟩
    rcases find_error hfind with ⟨rfl, rfl⟩ | ⟨name, rfl, hcolumns, rfl⟩ |
      ⟨name, rfl, k, hk, hconfigured, hserver, rfl⟩
    · exact .inr rfl
    · refine .inr ?_
      unfold find
      dsimp only
      rw [hcolumns]
    · refine .inl ⟨k, hk, ?_, rfl⟩
      rintro (⟨view, hview, hmem⟩ | hmem)
      · cases hview
        exact hconfigured hmem
      · exact hserver hmem

/-- Without joins of a client, the joins of the server are put in the place of those of the view and
change nothing else. -/
theorem find_rejoined {t : Target} (h : find a requested joins o = .ok t) (others : List Join) :
    find a requested [] { o with joins := others } =
      .ok { t with joins := { o with joins := others }.joinsOn a t.name } := by
  obtain ⟨rfl, hcolumns, hsource, -⟩ := find_ok h
  obtain ⟨name, columns, source, _⟩ := t
  dsimp only at hcolumns hsource ⊢
  unfold find
  dsimp only
  rw [hcolumns, hsource]
  rfl

end Target

/-! ## Payloads -/

namespace Payload

variable {a : Allowlist} {d : Dialect} {o : Override} {fallback : Option String} {p : Payload String}

/-- The joins and the table of a client are looked at only to find the target. -/
theorem check_congr {joins : List Join} {source : Option String}
    (h : Target.find a (o.table <|> p.source <|> fallback) p.joins o =
      Target.find a (o.table <|> source <|> fallback) joins o) :
    p.check a o fallback = { p with source := source, joins := joins }.check a o fallback := by
  have hwindow : checkWindow { p with source := source, joins := joins } = p.checkWindow := rfl
  unfold check
  dsimp only
  rw [h, hwindow]

/-- If no target is found, the check fails: with the same error, unless it has failed before. -/
theorem check_of_find_error {e : CompileError}
    (h : Target.find a (o.table <|> p.source <|> fallback) p.joins o = .error e) :
    p.check a o fallback = .error e ∨
      ∃ e', ∀ joins : List Join, { p with joins := joins }.check a o fallback = .error e' := by
  have hwindow : ∀ joins : List Join, checkWindow { p with joins := joins } = p.checkWindow :=
    fun _ => rfl
  unfold check
  dsimp only
  simp only [hwindow]
  cases p.select.isEmpty with
  | true => exact .inr ⟨_, fun _ => rfl⟩
  | false =>
    cases p.checkWindow with
    | error e' => exact .inr ⟨e', fun _ => rfl⟩
    | ok window =>
      left
      rw [h]
      rfl

/-- The checked request with other joins. -/
def Checked.withJoins (joins : List Join) (c : Checked) : Checked :=
  { c with select := { c.select with joins := joins } }

/-- With other joins of the server, a request is checked with these joins and is the same otherwise. -/
theorem check_rejoined {c : Checked} (h : p.check a o fallback = .ok c) (others : List Join) :
    { p with joins := [] }.check a { o with joins := others } fallback =
      .ok (c.withJoins ({ o with joins := others }.joinsOn a c.table)) := by
  obtain ⟨hselect, window, target, selection, restrictions, order, hwindow, htarget, hselection,
    hrestrictions, horder, rfl⟩ := check_eq_ok.1 h
  exact check_eq_ok.2 ⟨hselect, window, _, selection, restrictions, order, hwindow,
    Target.find_rejoined htarget others, hselection, hrestrictions, horder, rfl⟩

/-- The joins of a checked request are those of the server or those of the view. -/
theorem check_joins {c : Checked} (h : p.check a o fallback = .ok c) :
    c.select.joins = o.joinsOn a c.table := by
  obtain ⟨target, -, htarget, -, -, -, -, -, -, hjoins, -, htable⟩ := check_ok h
  rw [hjoins, htable, (Target.find_ok htarget).2.2.2]
  rfl

end Payload

/-! ## Statements -/

/-- The statement selects some items from the view of its table with the joins of the server or of the
view, each written in full and in order, and ends with `ending`. -/
structure Statement.Joined (a : Allowlist) (o : Override) (items : List String) (ending : String)
    (s : Statement) : Prop where
  sql : s.sql = "SELECT " ++ String.intercalate ", " items ++ " FROM " ++
    Phrase.table (a.viewOf s.outline.table).source ++
    String.join ((o.joinsOn a s.outline.table).map Phrase.join) ++ ending
  hasJoins : s.outline.hasJoins = !(o.joinsOn a s.outline.table).isEmpty

/-- What the statement of a payload has behind its joins. The condition is read as one that has the
value of the scope and the filter, the order has a column for each sort term, and the clause of the
window is read as one that takes the rows that are asked for. -/
structure Payload.Ending (a : Allowlist) (d : Dialect) (o : Override) (p : Payload String)
    (s : Statement) (condition order window : String) : Prop where
  condition :
    (Group.conditions? o.scope ++ Group.conditions? p.filter = [] ∧ condition = "") ∨
      (Group.conditions? o.scope ++ Group.conditions? p.filter ≠ [] ∧
        ∃ text, condition = " WHERE " ++ text ∧ ∀ draft : Draft, draft.check = .ok a →
          ∃ f, Says d s (a.permitted s.outline.table) o.scope p.filter text f)
  order : ∃ terms, order = Phrase.order terms ∧
    List.Forall₂ (fun t x => ∃ c, Column.resolve? (a.permitted s.outline.table) t.key = some c ∧
      (c.expression, t.direction) = x) p.order terms
  window : ∃ w, d.window? (!p.order.isEmpty) (lex window.toList) = some w ∧ w.Agrees p.window

namespace Payload

variable {a : Allowlist} {d : Dialect} {o : Override} {p : Payload String}

namespace Checked

variable {c : Checked}

theorem joined (hsource : c.select.source = (a.viewOf c.table).source)
    (hjoins : c.select.joins = o.joinsOn a c.table) :
    (c.statement d).Joined a o (c.select.columns.map Column.entry)
      (c.select.whereText d ++ c.select.tailText d) := by
  have hphrases : c.select.joins.map Select.joinText = (o.joinsOn a c.table).map Phrase.join := by
    rw [hjoins]
    exact List.map_congr_left fun j _ => Select.joinText_eq j
  constructor
  case sql =>
    rw [sql_statement, String.append_assoc, Select.headText, Select.tableText_eq, hsource, hphrases]
    rfl
  case hasJoins => exact congrArg (fun joins => !List.isEmpty joins) hjoins

/-- A statement ends with what the payload asks for. -/
theorem ending (hc : p.check a o none = .ok c) : p.Ending a d o (c.statement d)
    (c.select.whereText d) (Phrase.order c.select.order)
    (c.select.window.clause d !c.select.order.isEmpty) := by
  obtain ⟨target, -, htarget, -, -, horder, hwindow, -, -, -, -, htable⟩ := check_ok hc
  constructor
  case condition =>
    rcases where_says (d := d) hc with ⟨hnone, -, hwhere⟩ | ⟨hsome, -, hwhere⟩
    · exact .inl ⟨hnone, hwhere⟩
    · exact .inr ⟨hsome, hwhere⟩
  case order =>
    rw [Target.columns_eq htarget, ← htable] at horder
    exact ⟨c.select.order, rfl, orderTerms_eq_ok.1 horder⟩
  case window =>
    obtain ⟨hlimit, hbounds⟩ := checkWindow_bounds hwindow
    rw [orderTerms_isEmpty horder, ← checkWindow_ok hwindow]
    exact Window.clause_read hlimit hbounds d _

theorem tailText_eq (d : Dialect) (c : Checked) : c.select.tailText d =
    Phrase.order c.select.order ++ c.select.window.clause d !c.select.order.isEmpty := by
  rw [Select.tailText, Select.orderText_eq]

theorem parameters_withJoins (d : Dialect) (joins : List Join) :
    ((c.withJoins joins).statement d).parameters = (c.statement d).parameters :=
  congrArg Parameter.number <|
    ((c.withJoins joins).select.literals_template d).trans (c.select.literals_template d).symm

/-- With other joins the same items are selected and the same text follows. -/
theorem joined_withJoins (hsource : c.select.source = (a.viewOf c.table).source) :
    ((c.withJoins (o.joinsOn a c.table)).statement d).Joined a o
      (c.select.columns.map Column.entry) (c.select.whereText d ++ c.select.tailText d) :=
  joined (c := c.withJoins (o.joinsOn a c.table)) hsource rfl

end Checked

/-- The joins and the table of a client are looked at only to find the target. -/
theorem compile_congr {joins : List Join} {source : Option String}
    (h : Target.find a (p.tableName o) p.joins o = Target.find a (o.table <|> source) joins o) :
    p.compile a d o = { p with source := source, joins := joins }.compile a d o := by
  have htable : Target.find a (o.table <|> p.source <|> none) p.joins o =
      Target.find a (o.table <|> source <|> none) joins o := by
    simpa [tableName] using h
  exact congrArg (Except.map (Checked.statement d)) (check_congr htable)

/-- A request with a join that is not known fails: as it does without its joins, or because such a join
is refused. -/
theorem compile_unknown (d : Dialect) (h : ∃ j ∈ p.joins, ¬j.Known a o (p.tableName o)) :
    ∃ e, p.compile a d o = .error e ∧
      ((∃ j ∈ p.joins, ¬j.Known a o (p.tableName o) ∧ e = .denied .join j.table) ∨
        { p with joins := [] }.compile a d o = .error e) := by
  obtain ⟨e, hfind, he⟩ := Target.find_unknown h
  have htable : Target.find a (o.table <|> p.source <|> none) p.joins o = .error e := by
    rwa [tableName_eq]
  rcases check_of_find_error htable with hcheck | ⟨e', he'⟩
  · have hcompile : p.compile a d o = .error e := map_eq_error.2 hcheck
    refine ⟨e, hcompile, he.imp_right fun hnone => ?_⟩
    rw [← hcompile]
    exact (compile_congr (hfind.trans hnone.symm)).symm
  · exact ⟨e', map_eq_error.2 (he' p.joins), .inr (map_eq_error.2 (he' []))⟩

/-- **The joins of a client change nothing.** If they are all known, the result is that of the request
without them, and if not, it is an error: that of the request without them, or the refusal of a join that
is not known. Where the server names the table, the table of the client changes nothing either. A
statement has the joins of the server, or of the view if the server has none, and then only the
condition, the order and the window. With any other joins of the server the same items are selected and
the statement ends with the same text. -/
theorem compile_joins (a : Allowlist) (d : Dialect) (o : Override) (p : Payload String) :
    ((∀ j ∈ p.joins, j.Known a o (p.tableName o)) →
      p.compile a d o = { p with joins := [] }.compile a d o) ∧
    ((∃ j ∈ p.joins, ¬j.Known a o (p.tableName o)) →
      ∃ e, p.compile a d o = .error e ∧
        ((∃ j ∈ p.joins, ¬j.Known a o (p.tableName o) ∧ e = .denied .join j.table) ∨
          { p with joins := [] }.compile a d o = .error e)) ∧
    (o.table.isSome → ∀ source, { p with source := source }.compile a d o = p.compile a d o) ∧
    ∀ s, p.compile a d o = .ok s →
      ∃ items condition order window,
        (∀ item ∈ items, ∃ c ∈ a.permitted s.outline.table, c.entry = item) ∧
        p.Ending a d o s condition order window ∧
        s.Joined a o items (condition ++ (order ++ window)) ∧
        ∀ joins, ∃ s', { p with joins := [] }.compile a d { o with joins := joins } = .ok s' ∧
          s'.outline.table = s.outline.table ∧ s'.parameters = s.parameters ∧
          s'.Joined a { o with joins := joins } items (condition ++ (order ++ window)) := by
  refine ⟨fun hknown => compile_congr (Target.find_known hknown), compile_unknown d, ?_, ?_⟩
  · intro htable source
    obtain ⟨table, htable⟩ := Option.isSome_iff_exists.1 htable
    refine (compile_congr (p := p) ?_).symm
    rw [tableName, htable]
    rfl
  · intro s hs
    obtain ⟨c, hc, rfl⟩ := compile_ok hs
    have hpermitted := (check_permitted hc).1
    refine ⟨c.select.columns.map Column.entry, c.select.whereText d, Phrase.order c.select.order,
      c.select.window.clause d !c.select.order.isEmpty, ?_, Checked.ending hc, ?_, fun joins => ?_⟩
    · intro item hitem
      obtain ⟨column, hcolumn, rfl⟩ := List.mem_map.1 hitem
      exact ⟨column, hpermitted.columns column hcolumn, rfl⟩
    · rw [← Checked.tailText_eq]
      exact Checked.joined hpermitted.source (check_joins hc)
    · rw [← Checked.tailText_eq]
      exact ⟨_, map_eq_ok.2 ⟨_, check_rejoined hc joins, rfl⟩, rfl, Checked.parameters_withJoins d _,
        Checked.joined_withJoins hpermitted.source⟩

/-- The last items with their categories; the join of the view is named once more, and with `on`
another. -/
def itemCategories (on : String) : Payload String where
  select := ["c.name", "i.id"]
  source := some "item_with_category"
  joins := [⟨.left, "categories", some "c", "c.id = i.category_id"⟩,
    ⟨.left, "categories", some "c", on⟩]
  filter := some ⟨.and, [.condition "i.id" (.compare .greater (.int 5))]⟩
  order := [⟨"i.id", .desc⟩]
  limit := some 3
  offset := none

/-- A join of the server. -/
def tagJoin : Join := ⟨.inner, "tags", none, "tags.item_id = i.id"⟩

set_option maxRecDepth 4000 in
theorem compile_joins_itemCategories :
    (∃ s, (itemCategories "c.id = i.category_id").compile .sample .postgres .none = .ok s ∧
      { itemCategories "1 = 1" with joins := [] }.compile .sample .postgres .none = .ok s ∧
      s.sql = "SELECT c.name AS category_name, i.id FROM items AS i" ++
        " LEFT JOIN categories AS c ON c.id = i.category_id" ++ " WHERE (i.id > $1)" ++
        " ORDER BY i.id DESC" ++ " OFFSET 0 ROWS FETCH NEXT 3 ROWS ONLY" ∧
      ∃ items condition order window,
        (itemCategories "c.id = i.category_id").Ending .sample .postgres .none s condition order window ∧
        s.Joined .sample .none items (condition ++ (order ++ window)) ∧
        (∃ text f, condition = " WHERE " ++ text ∧
          Says .postgres s (Allowlist.sample.permitted s.outline.table) none
            (itemCategories "c.id = i.category_id").filter text f) ∧
        ∃ s', { itemCategories "" with joins := [] }.compile .sample .postgres
            { Override.none with joins := [tagJoin] } = .ok s' ∧
          s'.Joined .sample { Override.none with joins := [tagJoin] } items
            (condition ++ (order ++ window)) ∧
          s'.sql = "SELECT c.name AS category_name, i.id FROM items AS i" ++
            " INNER JOIN tags ON tags.item_id = i.id" ++ " WHERE (i.id > $1)" ++
            " ORDER BY i.id DESC" ++ " OFFSET 0 ROWS FETCH NEXT 3 ROWS ONLY") ∧
    (itemCategories "1 = 1").compile .sample .postgres .none = .error (.denied .join "categories") ∧
    ∃ s, { itemCategories "" with joins := [], source := some "secrets" }.compile .sample .postgres
        (.pin "item_with_category") = .ok s ∧
      { itemCategories "" with joins := [] }.compile .sample .postgres
        (.pin "item_with_category") = .ok s := by
  obtain ⟨hknown, -, -, hjoined⟩ :=
    compile_joins .sample .postgres .none (itemCategories "c.id = i.category_id")
  obtain ⟨-, hunknown, -, -⟩ := compile_joins .sample .postgres .none (itemCategories "1 = 1")
  obtain ⟨-, -, hpinned, -⟩ := compile_joins .sample .postgres (.pin "item_with_category")
    { itemCategories "" with joins := [] }
  have hforged : ∀ j ∈ (itemCategories "1 = 1").joins,
      ¬j.Known .sample .none ((itemCategories "1 = 1").tableName .none) →
        j.table = "categories" := by decide
  refine ⟨⟨_, rfl, (hknown (by decide)).symm.trans rfl, rfl, ?_⟩, ?_, _,
    (hpinned rfl _).trans rfl, rfl⟩
  · obtain ⟨items, condition, order, window, -, hending, hsame, hothers⟩ := hjoined _ rfl
    obtain ⟨s', hs', -, -, hother⟩ := hothers [tagJoin]
    refine ⟨items, condition, order, window, hending, hsame, ?_, s', hs', hother, ?_⟩
    · rcases hending.condition with ⟨hnone, -⟩ | ⟨-, text, htext, hsays⟩
      · cases hnone
      · obtain ⟨f, hf⟩ := hsays _ Draft.check_sample
        exact ⟨text, f, htext, hf⟩
    · cases hs'
      rfl
  · obtain ⟨e, he, ⟨j, hj, hunk, rfl⟩ | hnone⟩ := hunknown (by decide)
    · rw [he, hforged j hj hunk]
    · cases hnone

end Payload

end GuardedQuery
