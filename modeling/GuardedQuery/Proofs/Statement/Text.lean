import GuardedQuery.Proofs.Statement.Permitted

/-!
# The text of a select

A select is written as a head, which says what is selected from where, a condition if there is one,
and a tail with the order and the window (`Select.render_template`). The parameters are those of the
condition (`Select.literals_template`).
-/

namespace GuardedQuery

open Text Template

namespace Statement

variable {d : Dialect} {t : Template} {outline : Outline}

@[simp] theorem sql_ofTemplate : (ofTemplate d t outline).sql = t.render d := rfl

@[simp] theorem outline_ofTemplate : (ofTemplate d t outline).outline = outline := rfl

@[simp] theorem values_ofTemplate : (ofTemplate d t outline).values = t.literals :=
  List.ext_getElem (by simp [values, ofTemplate, Parameter.number]) fun i h h' => by
    simp [values, ofTemplate, Parameter.number]

@[simp] theorem parameterCount_ofTemplate :
    (ofTemplate d t outline).parameterCount = t.literals.length := by
  simp [parameterCount, ofTemplate, Parameter.number]

end Statement

/-! ## Windows -/

namespace Window

/-- The numbers in the clause of a window. -/
def numerals (w : Window) : List String :=
  w.limit.toList.map toString ++ [toString (w.offset.getD 0), "-1", toString unlimited]

theorem mem_numerals {w : Window} {s : String} (h : s ∈ w.numerals) :
    s = "-1" ∨ ∃ n : Nat, s = toString n := by
  simp only [numerals, List.mem_append, List.mem_map, List.mem_cons, List.not_mem_nil,
    or_false] at h
  rcases h with ⟨n, -, rfl⟩ | rfl | rfl | rfl
  · exact .inr ⟨n, rfl⟩
  · exact .inr ⟨_, rfl⟩
  · exact .inl rfl
  · exact .inr ⟨_, rfl⟩

/-- The clause of PostgreSQL and SQL Server. -/
def fetchText (w : Window) : String :=
  " OFFSET " ++ toString (w.offset.getD 0) ++ " ROWS" ++
    (w.limit.map fun n => " FETCH NEXT " ++ toString n ++ " ROWS ONLY").getD ""

/-- The clause of MySQL and SQLite. -/
def limitText (limit : String) (w : Window) : String :=
  " LIMIT " ++ limit ++ " OFFSET " ++ toString (w.offset.getD 0)

theorem apart_fetchText (w : Window) : Apart w.fetchText.toList := by
  simp only [fetchText, String.toList_append, List.append_assoc]
  exact apart_cons.2 rfl

theorem clause_of_isWhole {w : Window} (h : w.isWhole = true) (d : Dialect) (ordered : Bool) :
    w.clause d ordered = "" :=
  if_pos h

section Forms

variable {w : Window} (h : w.isWhole = false) (ordered : Bool)

include h

theorem clause_postgres : w.clause .postgres ordered = w.fetchText := by
  rw [clause, h]
  cases hl : w.limit <;> simp [fetchText, hl]

theorem clause_mssql : w.clause .mssql ordered =
    (if ordered then "" else " ORDER BY (SELECT NULL)") ++ w.fetchText := by
  rw [clause, h, ← String.toList_inj]
  cases hl : w.limit <;> cases ordered <;> simp [fetchText, hl]

theorem clause_mysql :
    w.clause .mysql ordered = w.limitText (toString (w.limit.getD unlimited)) := by
  rw [clause, h]
  rfl

theorem clause_sqlite :
    w.clause .sqlite ordered = w.limitText ((w.limit.map toString).getD "-1") := by
  rw [clause, h]
  rfl

end Forms

/-- A window has no clause or one of two forms; SQL Server may put an order in front. -/
theorem clause_cases (d : Dialect) (ordered : Bool) (w : Window) :
    w.clause d ordered = "" ∨ w.clause d ordered = w.fetchText ∨
      w.clause d ordered = " ORDER BY (SELECT NULL)" ++ w.fetchText ∨
        ∃ limit ∈ w.numerals, w.clause d ordered = w.limitText limit := by
  by_cases h : w.isWhole = true
  · exact .inl (clause_of_isWhole h d ordered)
  refine .inr ?_
  rw [Bool.not_eq_true] at h
  cases d
  case postgres => exact .inl (clause_postgres h ordered)
  case mssql =>
    rw [clause_mssql h]
    cases ordered
    · exact .inr (.inl rfl)
    · exact .inl (String.empty_append)
  case mysql =>
    refine .inr (.inr ⟨toString (w.limit.getD unlimited), ?_, clause_mysql h ordered⟩)
    cases hl : w.limit <;> simp [numerals, hl]
  case sqlite =>
    refine .inr (.inr ⟨(w.limit.map toString).getD "-1", ?_, clause_sqlite h ordered⟩)
    cases hl : w.limit <;> simp [numerals, hl]

end Window

/-! ## Selects -/

namespace Select

/-- What is selected, and from which tables. -/
def headText (s : Select) : String :=
  "SELECT " ++ String.intercalate ", " (s.columns.map Column.entry) ++ " FROM " ++
    tableText s.source.table s.source.aliasName ++ String.join (s.joins.map joinText)

/-- The condition that rows must meet. -/
def condition? (d : Dialect) (s : Select) : Option String :=
  if s.restrictions.isEmpty then none
  else some (String.ofList (renderFrom d 0 (Restriction.templates " AND " s.restrictions)))

/-- The condition with the word that introduces it. -/
def whereText (d : Dialect) (s : Select) : String :=
  match s.condition? d with
  | none => ""
  | some text => " WHERE " ++ text

/-- The order and the window of the rows. -/
def tailText (d : Dialect) (s : Select) : String :=
  orderText s.order ++ s.window.clause d !s.order.isEmpty

theorem renderFrom_clause (d : Dialect) (s : Select) :
    renderFrom d 0 (Restriction.clause s.restrictions) = (s.whereText d).toList := by
  unfold Restriction.clause whereText condition?
  split <;> simp

theorem renderFrom_joins (d : Dialect) (n : Nat) (joins : List Join) :
    renderFrom d n (joins.map fun j => Piece.text (joinText j)) =
      (String.join (joins.map joinText)).toList := by
  induction joins with
  | nil => rfl
  | cons j joins ih => simp [ih]

theorem literals_joins (joins : List Join) :
    literals (joins.map fun j => Piece.text (joinText j)) = [] := by
  induction joins with
  | nil => rfl
  | cons j joins ih => simpa using ih

/-- **A select is written as head, condition and tail.** -/
theorem render_template (d : Dialect) (s : Select) :
    (s.template d).render d = s.headText ++ s.whereText d ++ s.tailText d := by
  rw [← String.toList_inj, Template.render, String.toList_ofList]
  simp [template, body, headText, tailText, renderFrom_append, renderFrom_listed, renderFrom_joins,
    renderFrom_clause, literals_joins, literals_listed, Restriction.literals_clause]

theorem literals_template (d : Dialect) (s : Select) :
    (s.template d).literals = Restriction.testLiterals (Restriction.testsAll s.restrictions) := by
  simp [template, body, literals_joins, literals_listed, Restriction.literals_clause]

end Select

namespace Payload

theorem compile_ok {a : Allowlist} {d : Dialect} {o : Override} {p : Payload String} {s : Statement}
    (h : compile a d o p = .ok s) : ∃ c, check a o none p = .ok c ∧ s = c.statement d := by
  obtain ⟨c, hc, rfl⟩ := map_eq_ok.1 h
  exact ⟨c, hc, rfl⟩

namespace Checked

variable (d : Dialect) (c : Checked)

theorem sql_statement : (c.statement d).sql =
    c.select.headText ++ c.select.whereText d ++ c.select.tailText d :=
  c.select.render_template d

theorem values_statement : (c.statement d).values =
    Restriction.testLiterals (Restriction.testsAll c.select.restrictions) :=
  Statement.values_ofTemplate.trans (c.select.literals_template d)

end Checked

end Payload

theorem KeyLookup.compile_ok {a : Allowlist} {d : Dialect} {o : Override} {l : KeyLookup}
    {s : Statement} (h : compile a d o l = .ok s) : ∃ c, check a o l = .ok c ∧ s = c.statement d := by
  obtain ⟨c, hc, rfl⟩ := map_eq_ok.1 h
  exact ⟨c, hc, rfl⟩

end GuardedQuery
