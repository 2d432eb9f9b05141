import Mathlib.Data.List.Nodup
import GuardedQuery.Proofs.Database.Row
import GuardedQuery.Proofs.Statement.Projection

/-!
# The names of result columns

Columns are selected once by their entries, but a row is read by their names, and two entries may share
one: an alias is any name, and the name of a reference is its last part. `Statement.Named` says what
holds of the result columns of every statement. They are the names of its items, and no name is there
twice exactly if no two items share one (`Column.Apart`), which is so for every select on a table whose
columns are apart. A row then has one value for each item.
-/

namespace GuardedQuery

/-- No two columns share a name. -/
def Column.Apart (columns : List Column) : Prop :=
  ∀ c ∈ columns, ∀ c' ∈ columns, c.outputName = c'.outputName → c = c'

instance (columns : List Column) : Decidable (Column.Apart columns) :=
  inferInstanceAs (Decidable (∀ c ∈ columns, _))

/-- The statement selects the columns that the keys stand for, as `items`, and its result columns are
their names. -/
structure Statement.Named (a : Allowlist) (keys : List String) (s : Statement) (items : List Column) :
    Prop where
  selects : a.Selects s.outline.table keys items
  written : ∃ rest,
    s.sql = "SELECT " ++ String.intercalate ", " (items.map Column.entry) ++ " FROM " ++ rest
  columns : s.outline.columns = items.map Column.outputName
  /-- A name is there twice only if two items share it. -/
  apart : s.outline.columns.Nodup ↔ Column.Apart items
  /-- Two items share a name only if two columns of the table do. -/
  nodup : Column.Apart (a.permitted s.outline.table) → s.outline.columns.Nodup
  /-- A row has one pair for each item only if no two share a name. -/
  rowKeys : ∀ {d : Dialect} {r : Record} {row : Row}, r.toRow d s.outline.columns = .ok row →
    ((row.pairs.map Prod.fst).Perm s.outline.columns ↔ s.outline.columns.Nodup)
  /-- An item has the value of the cell of its name. -/
  rowValue : ∀ {d : Dialect} {r : Record} {row : Row}, r.toRow d s.outline.columns = .ok row →
    ∀ c ∈ items, ∃ j, r.value d c.outputName = .ok j ∧ row.find? c.outputName = some j

theorem Payload.Checked.named {a : Allowlist} {keys : List String} {c : Payload.Checked}
    (h : a.Selects c.table keys c.select.columns) (d : Dialect) :
    (c.statement d).Named a keys c.select.columns := by
  have hapart : (c.select.columns.map Column.outputName).Nodup ↔ Column.Apart c.select.columns :=
    List.nodup_map_iff_inj_on h.nodup
  constructor
  case selects => exact h
  case written =>
    refine ⟨Select.tableText c.select.source.table c.select.source.aliasName ++
      String.join (c.select.joins.map Select.joinText) ++ c.select.whereText d ++
        c.select.tailText d, ?_⟩
    rw [sql_statement, Select.headText, ← String.toList_inj]
    simp
  case columns => rfl
  case apart => exact hapart
  case nodup =>
    intro htable
    refine hapart.2 fun x hx y hy => htable x ?_ y ?_
    · obtain ⟨key, -, hkey⟩ := (h.mem_iff x).1 hx
      exact Column.resolve?_mem hkey
    · obtain ⟨key, -, hkey⟩ := (h.mem_iff y).1 hy
      exact Column.resolve?_mem hkey
  case rowKeys => exact Record.toRow_keys
  case rowValue =>
    intro d r row hrow x hx
    exact Record.toRow_find? hrow (List.mem_map_of_mem hx)

/-- **The result columns of a statement are the names of its items**, and no name is there twice exactly
if no two items share one. The items are the columns that the requested keys stand for; of a lookup the
key column is one, and where no name is there twice, no other item goes by its name. -/
theorem compile_names {draft : Draft} {a : Allowlist} (ha : draft.check = .ok a) {d : Dialect}
    {o : Override} :
    (∀ {p : Payload String} {s}, p.compile a d o = .ok s → ∃ items, s.Named a p.select items) ∧
    (∀ {e : Entity} {p : Payload e.Field} {s}, p.compileStrict a d o = .ok s →
      ∃ items, s.Named a p.toFree.select items) ∧
    ∀ {l : KeyLookup} {s}, l.compile a d o = .ok s →
      ∃ items key, s.Named a (l.select ++ [l.keyColumn]) items ∧
        Column.resolve? (a.permitted s.outline.table) l.keyColumn = some key ∧ key ∈ items ∧
        (s.outline.columns.Nodup → ∀ c ∈ items, c.outputName = key.outputName → c = key) := by
  have hsound := Draft.check_sound ha
  refine ⟨?_, ?_, ?_⟩
  · intro p s hs
    obtain ⟨c, hc, rfl⟩ := Payload.compile_ok hs
    exact ⟨_, Payload.Checked.named (Payload.check_selects hsound hc) d⟩
  · intro e p s hs
    obtain ⟨c, hc, rfl⟩ := map_eq_ok.1 hs
    exact ⟨_, Payload.Checked.named (Payload.check_selects hsound hc) d⟩
  · intro l s hs
    obtain ⟨c, hc, rfl⟩ := KeyLookup.compile_ok hs
    have hnamed := Payload.Checked.named (KeyLookup.check_selects hsound hc) d
    obtain ⟨target, key, -, htarget, hkey, -, -, -, -, -, -, -, -, htable⟩ := KeyLookup.check_ok hc
    rw [Target.columns_eq htarget, ← htable] at hkey
    have hitem : key ∈ c.select.columns := by
      apply (hnamed.selects.mem_iff key).2
      exact ⟨l.keyColumn, by simp, hkey⟩
    refine ⟨c.select.columns, key, hnamed, hkey, hitem, fun hnodup x hx hname => ?_⟩
    exact hnamed.apart.1 hnodup x hx key hitem hname

/-- Items with the names of their categories. -/
def categorized : Payload String :=
  ⟨["i.id", "category_name"], some "item_with_category", [], none, [], none, none⟩

/-- The names of the categories of an item. -/
def categoriesOf : KeyLookup := ⟨"item_with_category", "i.id", ["category_name"], [.int 1]⟩

theorem compile_names_sample : Draft.sample.check = .ok .sample ∧
    (∃ s items, categorized.compile .sample .sqlite .none = .ok s ∧
      s.Named .sample categorized.select items ∧ s.outline.columns.Nodup) ∧
    ∃ s items key, categoriesOf.compile .sample .sqlite .none = .ok s ∧
      s.Named .sample ["category_name", "i.id"] items ∧ key ∈ items ∧ s.outline.columns.Nodup ∧
      ∀ c ∈ items, c.outputName = key.outputName → c = key := by
  refine ⟨Draft.check_sample, ?_, ?_⟩
  · obtain ⟨items, hnamed⟩ := (compile_names Draft.check_sample (d := .sqlite) (o := .none)).1
      (p := categorized) rfl
    exact ⟨_, items, rfl, hnamed, hnamed.nodup (by decide)⟩
  · obtain ⟨items, key, hnamed, -, hkey, honly⟩ :=
      (compile_names Draft.check_sample (d := .sqlite) (o := .none)).2.2 (l := categoriesOf) rfl
    have hnodup := hnamed.nodup (by decide)
    exact ⟨_, items, key, rfl, hnamed, hkey, hnodup, honly hnodup⟩

/-- Items and their categories by number. -/
def Draft.numbered : Draft where
  tables := .ofList [("item_with_category", ["i.id", "c.id"])]
  views := .ofList [("item_with_category", Draft.sampleView)]
  maxDepth := 4

/-- What the check of that draft gives. -/
def Allowlist.numbered : Allowlist where
  tables := .ofList [("item_with_category", [⟨"i.id", none⟩, ⟨"c.id", none⟩])]
  views := .ofList [("item_with_category", Draft.sampleView)]
  maxDepth := 4

/-- Both numbers are called `id`. A row has one of them, and the key column of a lookup goes by the name
of the other. -/
theorem compile_names_twice : Draft.numbered.check = .ok .numbered ∧
    (∃ s, Payload.compile .numbered .postgres .none
        ⟨["i.id", "c.id"], some "item_with_category", [], none, [], none, none⟩ = .ok s ∧
      s.sql = "SELECT i.id, c.id FROM items AS i LEFT JOIN categories AS c ON c.id = i.category_id" ∧
      s.outline.columns = ["id", "id"] ∧
      ((Record.toRow .postgres s.outline.columns fun _ => some (.int 1)).map Keyed.pairs) =
        .ok [("id", .int (.ofInt64 1))]) ∧
    ∃ s, KeyLookup.compile .numbered .postgres .none
        ⟨"item_with_category", "i.id", ["c.id"], [.int 1]⟩ = .ok s ∧
      s.outline.columns = ["id", "id"] :=
  ⟨rfl, ⟨_, rfl, rfl, rfl, rfl⟩, _, rfl, rfl⟩

end GuardedQuery
