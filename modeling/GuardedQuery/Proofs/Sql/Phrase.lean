import GuardedQuery.Statement.Select

/-!
# Phrases written out

The phrases that statements are made of, spelled for every case: tables, joins, orders and the
placeholders of parameters. What is said about the text of a statement is said in these words, and that
rendering writes the same is stated once for each of them (`Select.tableText_eq`, `Select.joinText_eq`,
`Select.orderText_eq`, `Phrase.toList_parameter`).
-/

namespace GuardedQuery

namespace Phrase

/-- A table, and the name that it goes by if there is one. -/
def table : TableRef → String
  | ⟨t, none⟩ => t
  | ⟨t, some name⟩ => t ++ " AS " ++ name

/-- A join as it stands behind the tables before it. -/
def join : Join → String
  | ⟨.inner, t, name, on⟩ => " INNER JOIN " ++ table ⟨t, name⟩ ++ " ON " ++ on
  | ⟨.left, t, name, on⟩ => " LEFT JOIN " ++ table ⟨t, name⟩ ++ " ON " ++ on
  | ⟨.right, t, name, on⟩ => " RIGHT JOIN " ++ table ⟨t, name⟩ ++ " ON " ++ on
  | ⟨.full, t, name, on⟩ => " FULL JOIN " ++ table ⟨t, name⟩ ++ " ON " ++ on

/-- A column to sort by. -/
def term : String × Direction → String
  | (column, .asc) => column ++ " ASC"
  | (column, .desc) => column ++ " DESC"

/-- An order as it stands behind what is ordered; none has no text. -/
def order : List (String × Direction) → String
  | [] => ""
  | t :: terms => " ORDER BY " ++ String.intercalate ", " ((t :: terms).map term)

/-- The placeholder of the parameter number `i`, counted from 1. -/
def parameter (i : Nat) : Dialect → String
  | .postgres => "$" ++ toString i
  | .mysql => "?"
  | .sqlite => "?" ++ toString i
  | .mssql => "@p" ++ toString i

end Phrase

/-! ## Rendering writes the phrases -/

theorem Select.tableText_eq (t : TableRef) : tableText t.table t.aliasName = Phrase.table t := by
  obtain ⟨table, _ | name⟩ := t
  · exact String.append_empty
  · exact (String.append_assoc ..).symm

theorem Select.joinText_eq (j : Join) : joinText j = Phrase.join j := by
  obtain ⟨kind, table, name, on⟩ := j
  have htable := tableText_eq ⟨table, name⟩
  dsimp only at htable
  rw [joinText, htable]
  cases kind <;> rfl

theorem Select.orderText_eq (terms : List (String × Direction)) :
    orderText terms = Phrase.order terms := by
  have hterm : ∀ t : String × Direction, t.1 ++ " " ++ t.2.sql = Phrase.term t := by
    rintro ⟨column, direction⟩
    cases direction <;> exact String.append_assoc ..
  cases terms with
  | nil => rfl
  | cons t rest => simp only [orderText, Phrase.order, hterm, List.isEmpty_cons, Bool.false_eq_true,
      if_false]

theorem Phrase.toList_parameter (d : Dialect) (i : Nat) :
    (parameter i d).toList = d.placeholder i := by
  cases d <;> simp [parameter, Dialect.placeholder, Nat.toString_eq_repr, Nat.toList_repr]

end GuardedQuery
