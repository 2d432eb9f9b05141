import Mathlib.Data.List.Nodup
import GuardedQuery.Proofs.Statement.Override
import GuardedQuery.Proofs.Statement.Reading

/-!
# What an insert writes

`Insert.Acceptable` says which inserts have a statement (`Insert.exists_compile_iff`): those into a
listed table, with a value at least, whose keys stand for plain columns, each for one of its own. The
text of a statement is read as what it writes (`Insert.read?`): a table, and its columns with the
parameters that the placeholders bind to them (`Insert.read_template`). So every statement writes each
value to the column that its key stands for (`Insert.compile_writes`).
-/

namespace GuardedQuery

open Text Template

namespace Insert

variable {permitted : List Column} {keys names : List String}

/-! ## Which inserts are accepted -/

/-- Keys and the plain columns that they stand for. -/
def Fills (permitted : List Column) (keys : List String) (cs : List Column) : Prop :=
  List.Forall₂ (fun key c => Column.resolve? permitted key = some c ∧ c.isPlain = true) keys cs

/-- The table is listed and no view, there is a value, and each key stands for a plain column that no
other key stands for. -/
structure Acceptable (a : Allowlist) (table : String) (values : List (String × Literal)) : Prop where
  listed : ∃ permitted, a.columns? table = some permitted
  noView : a.view? table = none
  nonempty : values ≠ []
  plain : ∀ x ∈ values,
    ∃ c, Column.resolve? (a.permitted table) x.1 = some c ∧ c.isPlain = true
  distinct : values.Pairwise fun x y =>
    Column.resolve? (a.permitted table) x.1 ≠ Column.resolve? (a.permitted table) y.1

/-- A plain column is its name. -/
theorem expression_inj {c d : Column} (hc : c.isPlain = true) (hd : d.isPlain = true)
    (h : c.expression = d.expression) : c = d := by
  obtain ⟨expression, _ | n⟩ := c
  · obtain ⟨expression', _ | n'⟩ := d
    · cases h
      rfl
    · cases hd
  · cases hc

/-- The names are those of the columns that the keys stand for, and no name is there twice. -/
theorem columns_eq_ok {seen : List String} (hseen : seen.Nodup) :
    columns permitted seen keys = .ok names ↔
      ∃ cs, Fills permitted keys cs ∧ names = seen ++ cs.map Column.expression ∧ names.Nodup := by
  induction keys generalizing seen with
  | nil =>
    simp only [columns, Fills, List.forall₂_nil_left_iff, Except.ok.injEq]
    constructor
    · rintro rfl
      exact ⟨[], rfl, by simp, hseen⟩
    · rintro ⟨_, rfl, rfl, -⟩
      simp
  | cons key rest ih =>
    rw [columns]
    cases hc : (Column.resolve? permitted key).filter Column.isPlain with
    | none =>
      refine iff_of_false (by simp) ?_
      rintro ⟨_, _ | ⟨⟨hresolve, hplain⟩, -⟩, -⟩
      rw [hresolve, Option.filter_some, if_pos hplain] at hc
      cases hc
    | some c =>
      obtain ⟨hresolve, hplain⟩ := Option.filter_eq_some_iff.1 hc
      have hfills : ∀ cs, Fills permitted (key :: rest) cs ↔
          ∃ others, Fills permitted rest others ∧ cs = c :: others := by
        intro cs
        simp [Fills, List.forall₂_cons_left_iff, hresolve, hplain]
      dsimp only
      by_cases hmem : seen.contains c.expression = true
      · rw [if_pos hmem]
        refine iff_of_false (by simp) ?_
        rintro ⟨cs, hcs, rfl, hnodup⟩
        obtain ⟨others, -, rfl⟩ := (hfills cs).1 hcs
        exact (List.nodup_append.1 hnodup).2.2 _ (by simpa using hmem) _ (by simp) rfl
      · rw [if_neg hmem]
        have hnext : (seen ++ [c.expression]).Nodup := by
          rw [← List.concat_eq_append]
          exact hseen.concat (by simpa using hmem)
        rw [ih hnext]
        constructor
        · rintro ⟨others, hothers, rfl, hnodup⟩
          exact ⟨c :: others, (hfills _).2 ⟨others, hothers, rfl⟩, by simp, hnodup⟩
        · rintro ⟨cs, hcs, rfl, hnodup⟩
          obtain ⟨others, hothers, rfl⟩ := (hfills cs).1 hcs
          exact ⟨others, hothers, by simp, hnodup⟩

/-- The columns have different names just when no two keys stand for one column. -/
theorem Fills.nodup_iff {cs : List Column} (h : Fills permitted keys cs) :
    (cs.map Column.expression).Nodup ↔ (keys.map (Column.resolve? permitted)).Nodup := by
  have hresolve : keys.map (Column.resolve? permitted) = cs.map some := by
    induction h with
    | nil => rfl
    | cons hc _ ih => rw [List.map_cons, List.map_cons, hc.1, ih]
  have hplain : ∀ c ∈ cs, c.isPlain = true := by
    induction h with
    | nil => simp
    | cons hc _ ih => exact List.forall_mem_cons.2 ⟨hc.2, ih (List.cons.inj hresolve).2⟩
  rw [hresolve, List.nodup_map_iff fun _ _ => Option.some.inj]
  constructor
  · exact List.Nodup.of_map _
  · exact List.Nodup.map_on fun c hc d hd => expression_inj (hplain c hc) (hplain d hd)

variable {a : Allowlist} {d : Dialect} {o : Override} {i : Insert} {s : Statement}

/-- **Exactly the acceptable inserts have a statement.** -/
theorem exists_compile_iff :
    (∃ s, i.compile a d o = .ok s) ↔ Acceptable a (o.table.getD i.table) i.values := by
  have hpermitted : ∀ {permitted}, a.columns? (o.table.getD i.table) = some permitted →
      a.permitted (o.table.getD i.table) = permitted := fun h => by rw [Allowlist.permitted, h]; rfl
  constructor
  · rintro ⟨s, h⟩
    obtain ⟨permitted, names, htarget, hne, hnames, -⟩ := compile_eq_ok.1 h
    obtain ⟨hlisted, hview⟩ := target_eq_ok.1 htarget
    obtain ⟨cs, hfills, rfl, hnodup⟩ := (columns_eq_ok List.nodup_nil).1 hnames
    rw [List.nil_append, hfills.nodup_iff, List.map_map, List.Nodup, List.pairwise_map] at hnodup
    refine ⟨⟨permitted, hlisted⟩, hview, hne, ?_, ?_⟩
    · have hplain := exists_forall₂_iff.1 ⟨cs, hfills⟩
      rw [hpermitted hlisted]
      exact fun x hx => hplain x.1 (List.mem_map_of_mem hx)
    · rw [hpermitted hlisted]
      exact hnodup
  · rintro ⟨⟨permitted, hlisted⟩, hview, hne, hplain, hdistinct⟩
    rw [hpermitted hlisted] at hplain hdistinct
    obtain ⟨cs, hfills⟩ : ∃ cs, Fills permitted (i.values.map Prod.fst) cs :=
      exists_forall₂_iff.2 (by simpa using hplain)
    have hnodup : (cs.map Column.expression).Nodup := by
      rw [hfills.nodup_iff, List.map_map, List.Nodup, List.pairwise_map]
      exact hdistinct
    have hnames := (columns_eq_ok List.nodup_nil).2 ⟨cs, hfills, rfl, hnodup⟩
    exact ⟨_, compile_eq_ok.2 ⟨permitted, _, target_eq_ok.2 ⟨hlisted, hview⟩, hne, hnames, rfl⟩⟩

/-! ## What a statement writes -/

/-- Reads the names of a list of columns up to the parenthesis that closes it. -/
def names? : List Lexeme → Option (List String × List Lexeme)
  | .word w :: .mark ')' :: rest => some ([String.ofList w], rest)
  | .word w :: .mark ',' :: rest => (names? rest).map fun (ns, rest) => (String.ofList w :: ns, rest)
  | _ => none

/-- Reads what follows the table: columns, and a placeholder for each of them. -/
def row? (d : Dialect) (parameters : List Literal) (lexemes : List Lexeme) :
    Option (List (String × Literal)) := do
  let (columns, rest) ← names? lexemes
  match rest with
  | .word w :: rest =>
    let (values, ⟨_, parameters, rest⟩) ← Input.list? d ⟨0, parameters, rest⟩
    if w = "VALUES".toList ∧ parameters = [] ∧ rest = [] ∧ columns.length = values.length then
      some (columns.zip values)
    else none
  | _ => none

/-- Reads the statement of an insert: the table, and its columns with their values. The text is read as
a whole, and so are the parameters. -/
def read? (s : Statement) : Option (String × List (String × Literal)) :=
  match lex s.sql.toList with
  | .word v :: .word w :: .word table :: .mark '(' :: rest =>
    if v = "INSERT".toList ∧ w = "INTO".toList then
      (row? s.dialect s.values rest).map fun row => (String.ofList table, row)
    else none
  | _ => none

theorem names?_intercalate (hne : names ≠ []) (hnames : ∀ n ∈ names, IsName n) (tail : List Char) :
    names? (lex ((String.intercalate ", " names).toList ++ ')' :: tail)) = some (names, lex tail) := by
  induction names with
  | nil => exact absurd rfl hne
  | cons n rest ih =>
    obtain ⟨hn, hrest⟩ := List.forall_mem_cons.1 hnames
    cases rest with
    | nil =>
      rw [String.intercalate_singleton, lex_append_mark rfl rfl, lex_word hn.isWord]
      simp [names?]
    | cons n' rest =>
      have hread := ih (by simp) hrest
      have hcomma : ∀ cs, lex (", ".toList ++ cs) = .mark ',' :: lex cs := fun cs =>
        lex_mark rfl rfl _
      rw [String.intercalate_cons_cons, String.toList_append, String.toList_append, List.append_assoc,
        List.append_assoc, lex_word_append hn.isWord (Separates.apart_append (by decide)), hcomma]
      rw [names?, hread, Option.map_some, String.ofList_toList]

theorem read_template {table : String} {values : List Literal} {outline : Outline}
    (htable : IsName table) (hnames : ∀ n ∈ names, IsName n) (hne : values ≠ [])
    (hlength : names.length = values.length) :
    read? (.ofTemplate d (template table names values) outline) = some (table, names.zip values) := by
  have hnonempty : names ≠ [] := by
    rintro rfl
    exact hne (List.length_eq_zero_iff.1 hlength.symm)
  have hopen : ∀ cs, lex (" (".toList ++ cs) = .mark '(' :: lex cs := fun cs => by
    rw [lex_append_of_ends (by decide)]
    rfl
  have hkeyword : ∀ cs, lex (" VALUES ".toList ++ cs) = .word "VALUES".toList :: lex cs := fun cs => by
    rw [lex_append_of_ends (by decide)]
    rfl
  have hstart : ∀ cs, lex ("INSERT INTO ".toList ++ cs) =
      .word "INSERT".toList :: .word "INTO".toList :: lex cs := fun cs => by
    rw [lex_append_of_ends (by decide)]
    rfl
  have hclose : ") VALUES ".toList = ')' :: " VALUES ".toList := rfl
  have htext : (Statement.ofTemplate d (template table names values) outline).sql.toList =
      "INSERT INTO ".toList ++ (table.toList ++ (" (".toList ++
        ((String.intercalate ", " names).toList ++
          ')' :: (" VALUES ".toList ++ renderFrom d 0 (bindAll values))))) := by
    rw [Statement.sql_ofTemplate, Template.render, String.toList_ofList, template, renderFrom_text]
    simp only [String.toList_append, List.append_assoc, hclose, List.cons_append]
  have hvalues : (Statement.ofTemplate d (template table names values) outline).values = values := by
    rw [Statement.values_ofTemplate, template, literals_text, literals_bindAll]
  have hlist := Input.list?_bindAll (d := d) (n := 0) (q := []) hne []
  rw [List.append_nil, List.append_nil, lex_nil] at hlist
  have hrow : row? d values (lex ((String.intercalate ", " names).toList ++
      ')' :: (" VALUES ".toList ++ renderFrom d 0 (bindAll values)))) = some (names.zip values) := by
    rw [row?, names?_intercalate hnonempty hnames, hkeyword]
    simp [hlist, hlength]
  generalize (String.intercalate ", " names).toList ++
    ')' :: (" VALUES ".toList ++ renderFrom d 0 (bindAll values)) = row at htext hrow
  have hdialect : (Statement.ofTemplate d (template table names values) outline).dialect = d := rfl
  rw [read?, htext, hstart, lex_word_append htable.isWord (Separates.apart_append (by decide)),
    hopen, hvalues, hdialect]
  simp only [hrow, and_self, if_true, Option.map_some, String.ofList_toList]

/-- **An insert writes each value to the column of its key.** Exactly the acceptable inserts have a
statement. It writes to the table that the server names, or else to the one that is asked for; the
columns are those that the keys stand for, in their order and each once, and the placeholder in the
place of a column binds the value that was given for it. -/
theorem compile_writes {draft : Draft} {a : Allowlist} (ha : draft.check = .ok a) (d : Dialect)
    (o : Override) (i : Insert) :
    ((∃ s, i.compile a d o = .ok s) ↔ Acceptable a (o.table.getD i.table) i.values) ∧
      ∀ s, i.compile a d o = .ok s → ∃ cs,
        Fills (a.permitted (o.table.getD i.table)) (i.values.map Prod.fst) cs ∧
        (cs.map Column.expression).Nodup ∧
        read? s = some (o.table.getD i.table,
          (cs.map Column.expression).zip (i.values.map Prod.snd)) ∧
        s.parameters = Parameter.number (i.values.map Prod.snd) ∧
        s.outline.requested = cs.map Column.expression := by
  refine ⟨exists_compile_iff, fun s h => ?_⟩
  have hsound := Draft.check_sound ha
  obtain ⟨permitted, names, htarget, hne, hnames, rfl⟩ := compile_eq_ok.1 h
  obtain ⟨hlisted, -⟩ := target_eq_ok.1 htarget
  obtain ⟨cs, hfills, rfl, hnodup⟩ := (columns_eq_ok List.nodup_nil).1 hnames
  rw [List.nil_append] at hnodup ⊢
  have hlength : (cs.map Column.expression).length = (i.values.map Prod.snd).length := by
    have := hfills.length_eq
    simpa using this.symm
  have hcolumns : ∀ n ∈ cs.map Column.expression, IsName n := by
    intro n hn
    obtain ⟨c, hc, -, rfl⟩ := columns_ok hnames (by simp) n hn
    exact (hsound.columns _ permitted hlisted c hc).expression
  refine ⟨cs, ?_, hnodup, ?_, ?_, rfl⟩
  · rw [Allowlist.permitted, hlisted]
    exact hfills
  · exact read_template (hsound.table _ permitted hlisted) hcolumns (by simpa using hne) hlength
  · rw [Statement.ofTemplate, template, literals_text, literals_bindAll]

/-- An item whose identifier is spelled with blanks. -/
def spacedItem : Insert := ⟨"secrets", [("name", .text "';"), (" id\t", .int 7)]⟩

/-- The server names the table; a second spelling of a column is the same column. -/
theorem compile_writes_spaced : Draft.sample.check = .ok .sample ∧
    (∃ s, spacedItem.compile .sample .mysql ⟨some "items", [], none⟩ = .ok s ∧
      s.sql = "INSERT INTO items (name, id) VALUES (?, ?)" ∧
      read? s = some ("items", [("name", .text "';"), ("id", .int 7)])) ∧
    ¬Acceptable .sample "items" [("id", .int 1), (" id\t", .int 7)] ∧
    ¬Acceptable .sample "item_with_category" [("i.id", .int 1)] := by
  obtain ⟨-, hwrites⟩ := compile_writes Draft.check_sample .mysql ⟨some "items", [], none⟩ spacedItem
  obtain ⟨cs, hfills, -, hread, -, -⟩ := hwrites _ rfl
  have hcs : cs = [⟨"name", none⟩, ⟨"id", none⟩] := by
    obtain - | ⟨⟨hname, -⟩, - | ⟨⟨hid, -⟩, - | -⟩⟩ := hfills
    cases hname.symm.trans (rfl : Column.resolve? _ "name" = some ⟨"name", none⟩)
    cases hid.symm.trans (rfl : Column.resolve? _ " id\t" = some ⟨"id", none⟩)
    rfl
  subst hcs
  refine ⟨Draft.check_sample, ⟨_, rfl, rfl, hread⟩, ?_, ?_⟩
  · rintro ⟨-, -, -, -, hdistinct⟩
    exact (List.pairwise_cons.1 hdistinct).1 _ List.mem_cons_self rfl
  · rintro ⟨-, hview, -, -, -⟩
    cases hview

end Insert

end GuardedQuery
