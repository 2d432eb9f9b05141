import GuardedQuery.Proofs.Condition.Truth
import GuardedQuery.Proofs.Statement.Projection

/-!
# What the keys of a payload read

Selected columns, conditions and sort terms look up their keys in the same list of columns. A key
therefore reads one column wherever it stands in a payload (`Payload.Checked.Reads`,
`Payload.check_reads`), and `Allowlist.entry_reads` says which when the key is an entry of the
allowlist: a column of that reference, unless an alias that is met before has the name.
-/

namespace GuardedQuery

/-! ## Conditions and sort terms by their places -/

/-- A test stands at the place of its condition. -/
theorem Restriction.ofFilters_getElem? {columns : List Column} {max : Nat}
    {scope filter : Option (Group String)} {parts : List Restriction}
    (h : ofFilters columns max scope filter = .ok parts) {i : Nat} {key : String} {p : Predicate}
    (hcondition : (Group.conditions? scope ++ Group.conditions? filter)[i]? = some (key, p))
    {c : Column} (hkey : Column.resolve? columns key = some c) :
    (testsAll parts)[i]? = some (c.expression, p) := by
  have htests := (ofNodes_tests _ h).1
  rw [List.map_append, Node.conditionsAll_append, Group.conditionsAll_toList,
    Group.conditionsAll_toList] at htests
  have hplace := congrArg (fun tests => tests[i]?) htests
  simp only [List.getElem?_map] at hplace
  rw [hcondition, Option.map_some, testOf?, hkey, Option.map_some] at hplace
  obtain ⟨t, ht, hsome⟩ := Option.map_eq_some_iff.1 hplace
  rw [ht, Option.some.inj hsome]

/-- A column reference stands at the place of its sort term. -/
theorem Payload.orderTerms_getElem? {columns : List Column} {terms : List (SortTerm String)}
    {order : List (String × Direction)} (h : orderTerms columns terms = .ok order) {i : Nat}
    {t : SortTerm String} (hterm : terms[i]? = some t) {c : Column}
    (hkey : Column.resolve? columns t.key = some c) :
    order[i]? = some (c.expression, t.direction) := by
  obtain ⟨hlength, hall⟩ := List.forall₂_iff_get.1 (orderTerms_eq_ok.1 h)
  obtain ⟨hi, rfl⟩ := List.getElem?_eq_some_iff.1 hterm
  have hi' : i < order.length := hlength ▸ hi
  obtain ⟨e, he, hx⟩ := hall i hi hi'
  have hec : e = c := Option.some.inj (he.symm.trans hkey)
  exact List.getElem?_eq_some_iff.2 ⟨hi', by rw [← hec]; exact hx.symm⟩

/-! ## Payloads -/

/-- Wherever the key stands in the payload, the checked request has the column: among the selected
columns, in the test at the place of a condition, and at the place of a sort term. Conditions are
counted through the scope of the server and on through the filter of the client. -/
structure Payload.Checked.Reads (k : Checked) (o : Override) (p : Payload String) (key : String)
    (c : Column) : Prop where
  select : key ∈ p.select → c ∈ k.select.columns
  filter : ∀ (i : Nat) (predicate : Predicate),
    (Group.conditions? o.scope ++ Group.conditions? p.filter)[i]? = some (key, predicate) →
      (Restriction.testsAll k.select.restrictions)[i]? = some (c.expression, predicate)
  order : ∀ (i : Nat) (direction : Direction), p.order[i]? = some ⟨key, direction⟩ →
    k.select.order[i]? = some (c.expression, direction)

theorem Payload.check_reads {a : Allowlist} (ha : a.Sound) {o : Override} {fallback : Option String}
    {p : Payload String} {k : Checked} (h : p.check a o fallback = .ok k) {key : String} {c : Column}
    (hkey : Column.resolve? (a.permitted k.table) key = some c) : k.Reads o p key c := by
  obtain ⟨target, selection, htarget, -, hrestrictions, horder, -, -, -, -, -, htable⟩ := check_ok h
  rw [Target.columns_eq htarget, ← htable] at hrestrictions horder
  constructor
  case select =>
    intro hmem
    exact ((check_selects ha h).mem_iff c).2 ⟨key, hmem, hkey⟩
  case filter =>
    intro i predicate hcondition
    exact Restriction.ofFilters_getElem? hrestrictions hcondition hkey
  case order =>
    intro i direction hterm
    exact orderTerms_getElem? horder hterm hkey

/-- **An entry stands for a column of its reference, unless its name is taken**, and then it is a plain
name and stands for a column with that alias. Every payload on the table reads that column for it. -/
theorem Allowlist.entry_reads {draft : Draft} {a : Allowlist} (ha : draft.check = .ok a)
    {table : String} {columns : List Column} (hcolumns : a.columns? table = some columns)
    {c : Column} (hc : c ∈ columns) :
    ∃ d, Column.resolve? columns c.entry = some d ∧
      (d.expression = c.expression ↔ ¬Column.Taken columns c.entry) ∧
      (Column.Taken columns c.entry → c.isPlain = true ∧ d.aliasName = some c.entry) ∧
      ∀ (o : Override) (fallback : Option String) (p : Payload String) (k : Payload.Checked),
        p.check a o fallback = .ok k → k.table = table → k.Reads o p c.entry d := by
  have hsound := Draft.check_sound ha
  obtain ⟨d, hresolve, hexpression, halias⟩ :=
    Column.resolve?_entry (hsound.columns table columns hcolumns) hc
  refine ⟨d, hresolve, hexpression, fun htaken => ⟨?_, halias htaken⟩, ?_⟩
  · exact Column.isPlain_of_taken (Draft.check_read ha hcolumns) htaken
  · intro o _ p k hk htable
    apply Payload.check_reads hsound hk
    rw [htable, permitted, hcolumns]
    exact hresolve

/-- The columns of the renamed draft: of two with the reference `total`, the first has no alias. -/
def Allowlist.renamedColumns : List Column :=
  [⟨"id", none⟩, ⟨"net", some "total"⟩, ⟨"total", none⟩, ⟨"total", some "gross"⟩]

/-- The gross amounts of orders, the highest first. -/
def grossAmounts : Payload String :=
  ⟨["total AS gross"], some "orders", [], some ⟨.and, [.condition "total AS gross" (.null true)]⟩,
    [⟨"total AS gross", .desc⟩], none, none⟩

theorem Allowlist.entry_reads_renamed : Draft.renamed.check = .ok renamed ∧
    renamed.columns? "orders" = some renamedColumns ∧
    (⟨"total", some "gross"⟩ : Column) ∈ renamedColumns ∧
    ∃ d k, Column.resolve? renamedColumns "total AS gross" = some d ∧ d.expression = "total" ∧
      grossAmounts.check renamed .none none = .ok k ∧
      k.Reads .none grossAmounts "total AS gross" d := by
  have hcolumns : renamed.columns? "orders" = some renamedColumns := rfl
  have hc : (⟨"total", some "gross"⟩ : Column) ∈ renamedColumns := by decide
  obtain ⟨d, hresolve, hexpression, -, hreads⟩ := entry_reads Draft.check_renamed hcolumns hc
  refine ⟨Draft.check_renamed, hcolumns, hc, d, _, hresolve, hexpression.2 (by decide), rfl, ?_⟩
  exact hreads .none none grossAmounts _ rfl rfl

/-- The plain entry `total` stands for the net amount, and a payload that names it reads that. -/
theorem Allowlist.entry_taken : Draft.renamed.check = .ok renamed ∧
    renamed.columns? "orders" = some renamedColumns ∧
    (⟨"total", none⟩ : Column) ∈ renamedColumns ∧
    Column.resolve? renamedColumns (⟨"total", none⟩ : Column).entry = some ⟨"net", some "total"⟩ ∧
    (Payload.compile renamed .postgres .none
      ⟨["id"], some "orders", [], some ⟨.and, [.condition "total" (.null true)]⟩,
        [⟨"total", .desc⟩], none, none⟩).map Statement.sql =
      .ok "SELECT id FROM orders WHERE (net IS NOT NULL) ORDER BY net DESC" :=
  ⟨Draft.check_renamed, rfl, by decide, rfl, rfl⟩

end GuardedQuery
