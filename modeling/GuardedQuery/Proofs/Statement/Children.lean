import GuardedQuery.Proofs.Sql.Phrase
import GuardedQuery.Proofs.Statement.Order
import GuardedQuery.Proofs.Statement.Relation
import GuardedQuery.Proofs.Text.Quotation

/-!
# The statement that fetches children

The statement of an aggregate is a text around an array of objects (`Aggregate.IsArray`) and a derived
table (`Aggregate.outerText`, `Aggregate.derivedText`), each written out as the dialect has it; rendering
writes the same (`Aggregate.isArray_foldText`, `Aggregate.render_template`). What else is said of the
statement is read off the text by a scanner that goes on through what stands between names: `through`
reads the columns that the outer text takes from the derived table, `quotations?` what is quoted, and
`orders` how often an order is written. As all names are plain, each part adds its own names and nothing
else (`Aggregate.through_outerText`, `Aggregate.quotations_outerText`, `Aggregate.orders_text`).
`Aggregate.Written` puts these together, and `Relation.compile_children` says them of every relation with
a statement.
-/

namespace GuardedQuery

open Text Template

namespace Aggregate

/-! ## The text -/

/-- A member of an object: the name of a column, and its value in the derived table. -/
def memberText (n : String) : String := "'" ++ n ++ "', agg_src." ++ n

/-- The text makes an object of every row of the derived table and an array of these objects. On
PostgreSQL the array is ordered and there is one for no rows, too; SQL Server has no such array. -/
def IsArray (g : Aggregate) (array : String) : Dialect → Prop
  | .postgres => array = "COALESCE(json_agg(json_build_object(" ++
      String.intercalate ", " (g.members.map memberText) ++ ")" ++
      Phrase.order (g.order.map fun t => ("agg_src." ++ t.1, t.2)) ++ "), '[]'::json)::text"
  | .mysql => array = "CAST(JSON_ARRAYAGG(JSON_OBJECT(" ++
      String.intercalate ", " (g.members.map memberText) ++ ")) AS CHAR)"
  | .sqlite => array = "json_group_array(json_object(" ++
      String.intercalate ", " (g.members.map memberText) ++ "))"
  | .mssql => False

/-- The placeholders of some parameters, with commas between. -/
def placeholders (d : Dialect) (count : Nat) : String :=
  String.intercalate ", " ((List.range' 1 count).map fun i => Phrase.parameter i d)

/-- The order of the rows of the derived table. On PostgreSQL the array is ordered instead. -/
def derivedOrder (d : Dialect) (g : Aggregate) : List (String × Direction) :=
  if d = .postgres then [] else g.order

/-- The derived table: the rows with the keys. -/
def derivedText (d : Dialect) (g : Aggregate) : String :=
  "SELECT " ++ String.intercalate ", " g.derivedColumns ++ " FROM " ++ g.table ++ " WHERE " ++
    g.foreignKey ++ " IN (" ++ placeholders d g.keys.length ++ ")" ++ Phrase.order (g.derivedOrder d)

/-- The statement with an array around a derived table. -/
def outerText (array : String) (g : Aggregate) (table : String) : String :=
  "SELECT agg_src." ++ g.foreignKey ++ " AS parent_key, " ++ array ++ " AS children FROM (" ++ table ++
    ") AS agg_src GROUP BY agg_src." ++ g.foreignKey

/-! ## Its parts -/

/-- The order in which rows are folded. -/
def foldedOrder (d : Dialect) (g : Aggregate) : List (String × Direction) :=
  if d = .postgres then g.order.map fun x => (derived x.1, x.2) else []

/-- What stands between the key of a parent and the members of the objects. -/
def openingText (f : Folding) : String := " AS parent_key, " ++ f.array ++ f.object

/-- What stands between the folded rows and the derived table. -/
def closingText (f : Folding) : String := f.close ++ " AS children FROM ("

/-- What stands behind the derived table. -/
def groupingText : String := ") AS agg_src GROUP BY "

/-- What stands in front of a column of the derived table. -/
def derivedPrefix : String := "agg_src."

theorem derived_eq (n : String) : derived n = "agg_src." ++ n := by
  have hprefix : derivedName ++ "." = "agg_src." := by decide
  rw [derived, hprefix]

theorem toList_derived (n : String) : (derived n).toList = derivedPrefix.toList ++ n.toList := by
  rw [derived_eq, String.toList_append, derivedPrefix]

theorem toList_memberText (n : String) :
    (memberText n).toList = ("'" ++ n ++ "'").toList ++ (", ".toList ++ (derived n).toList) := by
  have hquote : "', agg_src." = "'" ++ (", " ++ derivedPrefix) := by decide
  rw [memberText, hquote]
  simp only [String.toList_append, List.append_assoc, toList_derived]

theorem objectText_eq (g : Aggregate) :
    g.objectText = String.intercalate ", " (g.members.map memberText) := by
  refine congrArg _ (List.map_congr_left fun n _ => ?_)
  have hquote : "', " = "'" ++ ", " := by decide
  rw [← String.toList_inj, toList_memberText, hquote]
  simp only [String.toList_append, List.append_assoc]

section

variable {d : Dialect} {f : Folding} (hf : d.folding? = some f) (g : Aggregate)

include hf

theorem ordersInside_eq : f.ordersInside = decide (d = .postgres) := by
  cases d <;> cases hf <;> rfl

theorem toList_foldText : (g.foldText f).toList = (f.array ++ f.object).toList ++
    ((String.intercalate ", " (g.members.map memberText)).toList ++ (")".toList ++
      ((Select.orderText (g.foldedOrder d)).toList ++ f.close.toList))) := by
  have horder : (if f.ordersInside then Select.orderText (g.order.map fun t => (derived t.1, t.2))
      else "") = Select.orderText (g.foldedOrder d) := by
    rw [foldedOrder, ordersInside_eq hf]
    by_cases hd : d = .postgres <;> simp [hd, Select.orderText]
  rw [foldText, objectText_eq, horder]
  simp only [String.toList_append, List.append_assoc]

/-- **Rendering folds rows into an array** of the dialect. -/
theorem isArray_foldText : g.IsArray (g.foldText f) d := by
  have hfold := toList_foldText hf g
  rw [Select.orderText_eq] at hfold
  cases d <;> cases hf
  case postgres =>
    have hopen : "COALESCE(json_agg(json_build_object(".toList =
        "COALESCE(json_agg(".toList ++ "json_build_object(".toList := by decide
    have horder : g.foldedOrder .postgres = g.order.map fun t => ("agg_src." ++ t.1, t.2) :=
      List.map_congr_left fun t _ => by rw [derived_eq]
    refine String.toList_inj.1 (hfold.trans ?_)
    simp only [String.toList_append, List.append_assoc, horder, hopen]
  case mysql =>
    have hopen : "CAST(JSON_ARRAYAGG(JSON_OBJECT(".toList =
        "CAST(JSON_ARRAYAGG(".toList ++ "JSON_OBJECT(".toList := by decide
    have hclose : ")) AS CHAR)".toList = ")".toList ++ ") AS CHAR)".toList := by decide
    have horder : (Phrase.order (g.foldedOrder .mysql)).toList = [] := String.toList_empty
    refine String.toList_inj.1 (hfold.trans ?_)
    simp only [String.toList_append, List.append_assoc, horder, hopen, hclose, List.nil_append]
  case sqlite =>
    have hopen : "json_group_array(json_object(".toList =
        "json_group_array(".toList ++ "json_object(".toList := by decide
    have hclose : "))".toList = ")".toList ++ ")".toList := by decide
    have horder : (Phrase.order (g.foldedOrder .sqlite)).toList = [] := String.toList_empty
    refine String.toList_inj.1 (hfold.trans ?_)
    simp only [String.toList_append, List.append_assoc, horder, hopen, hclose, List.nil_append]

theorem toList_outerText (table : String) : (g.outerText (g.foldText f) table).toList =
    "SELECT ".toList ++ ((derived g.foreignKey).toList ++ ((openingText f).toList ++
      ((String.intercalate ", " (g.members.map memberText)).toList ++ (")".toList ++
        ((Select.orderText (g.foldedOrder d)).toList ++ ((closingText f).toList ++
          (table.toList ++ (groupingText.toList ++ (derived g.foreignKey).toList)))))))) := by
  have hselect : "SELECT agg_src.".toList = "SELECT ".toList ++ derivedPrefix.toList := by decide
  have hgrouping : ") AS agg_src GROUP BY agg_src.".toList =
      groupingText.toList ++ derivedPrefix.toList := by decide
  unfold outerText openingText closingText
  simp only [String.toList_append, List.append_assoc, toList_foldText hf, toList_derived, hselect,
    hgrouping]

omit hf in
theorem toList_derivedText : (g.derivedText d).toList =
    "SELECT ".toList ++ ((String.intercalate ", " g.derivedColumns).toList ++ (" FROM ".toList ++
      (g.table.toList ++ (" WHERE ".toList ++ (g.foreignKey.toList ++ (" IN (".toList ++
        ((placeholders d g.keys.length).toList ++ (")".toList ++
          (Select.orderText (g.derivedOrder d)).toList)))))))) := by
  unfold derivedText
  simp only [String.toList_append, List.append_assoc, Select.orderText_eq]

end

theorem renderFrom_placeholders (d : Dialect) (n : Nat) (ls : List Literal) :
    renderFrom d n (separated ", " (ls.map fun l => [.bind l])) =
      (String.intercalate ", " ((List.range' (n + 1) ls.length).map fun i =>
        Phrase.parameter i d)).toList := by
  induction ls generalizing n with
  | nil => rfl
  | cons l rest ih =>
    cases rest with
    | nil => simp [separated, Phrase.toList_parameter]
    | cons l' rest =>
      have hseparated : separated ", " ((l :: l' :: rest).map fun l => [.bind l]) =
          .bind l :: .text ", " :: separated ", " ((l' :: rest).map fun l => [.bind l]) := rfl
      rw [hseparated, renderFrom_bind, renderFrom_text, ih, ← Phrase.toList_parameter]
      simp only [List.length_cons, List.range'_succ, List.map_cons, String.intercalate_cons_cons]
      simp

/-- **Rendering writes the statement** with the array that it folds rows into. -/
theorem render_template {d : Dialect} {f : Folding} (hf : d.folding? = some f) (g : Aggregate) :
    (g.template f).render d = g.outerText (g.foldText f) (g.derivedText d) := by
  have horder : (if f.ordersInside then "" else Select.orderText g.order) =
      Phrase.order (g.derivedOrder d) := by
    rw [ordersInside_eq hf, Select.orderText_eq, derivedOrder]
    by_cases hd : d = .postgres <;> simp [hd, Phrase.order]
  have hrender : ((g.template f).render d).toList = renderFrom d 0 (g.template f) :=
    String.toList_ofList
  -- both texts with the same cuts between literals
  have hselect : "SELECT agg_src.".toList = "SELECT ".toList ++ derivedPrefix.toList := by decide
  have hparent : " AS parent_key, ".toList =
      " AS ".toList ++ (parentKeyColumn.toList ++ ", ".toList) := by decide
  have hchildren : " AS children FROM (".toList =
      " AS ".toList ++ (childrenColumn.toList ++ " FROM (".toList) := by decide
  have hfrom : " FROM (SELECT ".toList = " FROM (".toList ++ "SELECT ".toList := by decide
  have hin : " IN (".toList = " IN ".toList ++ "(".toList := by decide
  have hgrouping : ") AS agg_src GROUP BY agg_src.".toList =
      ") AS ".toList ++ (derivedName.toList ++ (" GROUP BY ".toList ++ derivedPrefix.toList)) := by
    decide
  refine String.toList_inj.1 (hrender.trans ?_)
  unfold template outerText derivedText
  simp only [bindAll, placeholders, renderFrom_text, renderFrom_append, renderFrom_placeholders,
    renderFrom_nil, String.toList_append, List.append_assoc, List.cons_append, List.nil_append,
    List.append_nil, toList_derived, Nat.zero_add, horder, hselect, hparent, hchildren, hfrom, hin,
    hgrouping]

/-! ## Names in the text -/

theorem isWord_derived {n : String} (h : IsName n) : IsWord (derived n).toList := by
  have hname : IsWord derivedPrefix.toList := by decide
  rw [toList_derived]
  exact ⟨by simp [h.1], List.forall_mem_append.2 ⟨hname.2, h.isWord.2⟩⟩

theorem isWord_quoted {n : String} (h : IsName n) : IsWord ("'" ++ n ++ "'").toList := by
  have hquote : IsWord "'".toList := by decide
  simp only [IsWord, String.toList_append, List.forall_mem_append]
  exact ⟨by simp, ⟨hquote.2, h.isWord.2⟩, hquote.2⟩

theorem isName_of_mem_derivedColumns {g : Aggregate} (hkey : IsName g.foreignKey)
    (hmembers : ∀ n ∈ g.members, IsName n) (horder : ∀ t ∈ g.order, IsName t.1) {n : String}
    (hn : n ∈ g.derivedColumns) : IsName n := by
  rcases List.mem_cons.1 (g.mem_derivedColumns.1 hn) with rfl | hn
  · exact hkey
  · rcases List.mem_append.1 hn with hn | hn
    · exact hmembers n hn
    · obtain ⟨t, ht, rfl⟩ := List.mem_map.1 hn
      exact horder t ht

/-! ## What is read through the derived table -/

/-- The column that a word reads through the derived table. -/
def derivedName? (w : List Char) : Option String :=
  if derivedPrefix.toList.isPrefixOf w then some (String.ofList (w.drop derivedPrefix.toList.length))
  else none

/-- The columns that a text reads through the derived table. -/
def through (cs : List Char) : List String := (words cs).filterMap derivedName?

theorem through_append {xs ys : List Char} (h : Apart ys) :
    through (xs ++ ys) = through xs ++ through ys := by
  rw [through, words_append h, List.filterMap_append]
  rfl

theorem through_append_of_ends {xs ys : List Char} (h : Ends xs) :
    through (xs ++ ys) = through xs ++ through ys := by
  rw [through, words_append_of_ends h, List.filterMap_append]
  rfl

/-- A text that separates and reads nothing can be left out. -/
theorem through_between {xs s ys : List Char} (hs : Separates s) (h : through s = []) :
    through (xs ++ (s ++ ys)) = through xs ++ through ys := by
  rw [through_append hs.apart_append, through_append_of_ends hs.ends, h, List.nil_append]

theorem through_derived {n : String} (h : IsName n) : through (derived n).toList = [n] := by
  rw [through, words_word (isWord_derived h), toList_derived]
  simp [derivedName?]

theorem through_intercalate (ss : List String) :
    through (String.intercalate ", " ss).toList = ss.flatMap fun s => through s.toList := by
  induction ss with
  | nil => rfl
  | cons s rest ih =>
    cases rest with
    | nil => simp
    | cons s' rest =>
      rw [String.intercalate_cons_cons, String.toList_append, String.toList_append, List.append_assoc,
        through_between (by decide) (by decide), ih]
      rfl

theorem through_memberText {n : String} (h : IsName n) : through (memberText n).toList = [n] := by
  have hquoted : through ("'" ++ n ++ "'").toList = [] := by
    rw [through, words_word (isWord_quoted h)]
    simp [derivedName?, derivedPrefix]
  rw [toList_memberText, through_between (by decide) (by decide), hquoted, through_derived h,
    List.nil_append]

theorem through_orderText (terms : List (String × Direction)) :
    through (Select.orderText terms).toList = terms.flatMap fun t => through t.1.toList := by
  have hterm : ∀ t : String × Direction,
      through (t.1 ++ " " ++ t.2.sql).toList = through t.1.toList := by
    rintro ⟨c, direction⟩
    have hdirection : Apart (" " ++ direction.sql).toList ∧
        through (" " ++ direction.sql).toList = [] := by
      cases direction <;> decide
    rw [String.append_assoc, String.toList_append, through_append hdirection.1, hdirection.2,
      List.append_nil]
  unfold Select.orderText
  split
  · rename_i h
    rw [List.isEmpty_iff.1 h]
    rfl
  · rw [String.toList_append, through_append_of_ends (by decide), through_intercalate,
      List.flatMap_map]
    simp only [hterm]
    rfl

section

variable {g : Aggregate} (hkey : IsName g.foreignKey) (hmembers : ∀ n ∈ g.members, IsName n)
  (horder : ∀ t ∈ g.order, IsName t.1)

include horder

theorem through_foldedOrder (d : Dialect) : through (Select.orderText (g.foldedOrder d)).toList =
    if d = .postgres then g.order.map Prod.fst else [] := by
  rw [through_orderText, foldedOrder]
  split
  · rw [List.flatMap_map, List.map_eq_flatMap]
    refine List.flatMap_congr fun t ht => through_derived (horder t ht)
  · rfl

include hkey hmembers

/-- **The statement reads through the derived table** the foreign key, the members, the terms of an
order inside and the foreign key again. -/
theorem through_outerText {d : Dialect} {f : Folding} (hf : d.folding? = some f) :
    through (g.outerText (g.foldText f) "").toList = g.foreignKey :: (g.members ++
      ((if d = .postgres then g.order.map Prod.fst else []) ++ [g.foreignKey])) := by
  have hopening : Separates (openingText f).toList ∧ through (openingText f).toList = [] := by
    unfold openingText
    simp only [String.toList_append]
    cases d <;> cases hf <;> decide
  have hclosing : Separates (closingText f).toList ∧ through (closingText f).toList = [] := by
    unfold closingText
    simp only [String.toList_append]
    cases d <;> cases hf <;> decide
  have hgrouping : Ends groupingText.toList ∧ through groupingText.toList = [] := by
    unfold groupingText
    decide
  have hobject : through (String.intercalate ", " (g.members.map memberText)).toList = g.members := by
    rw [through_intercalate, List.flatMap_map]
    exact (List.flatMap_congr fun n hn => through_memberText (hmembers n hn)).trans
      (List.flatMap_singleton' _)
  have hselect : through "SELECT ".toList = [] := by decide
  rw [toList_outerText hf, through_append_of_ends (by decide), hselect, List.nil_append,
    through_between hopening.1 hopening.2, through_between (by decide) (by decide),
    through_between hclosing.1 hclosing.2, String.toList_empty, List.nil_append,
    through_append_of_ends hgrouping.1, hgrouping.2, through_derived hkey, hobject,
    through_foldedOrder horder]
  rfl

end

/-! ## What is quoted -/

theorem unquoted_derived {n : String} (h : IsName n) : Unquoted (derived n).toList := by
  rw [toList_derived, unquoted_append]
  exact ⟨by decide, h.unquoted⟩

theorem unquoted_orderText {terms : List (String × Direction)}
    (h : ∀ t ∈ terms, Unquoted t.1.toList) : Unquoted (Select.orderText terms).toList := by
  unfold Select.orderText
  split
  · decide
  · rw [String.toList_append, unquoted_append]
    refine ⟨by decide, unquoted_intercalate (by decide) fun s hs => ?_⟩
    obtain ⟨⟨c, direction⟩, ht, rfl⟩ := List.mem_map.1 hs
    rw [String.toList_append, String.toList_append, unquoted_append, unquoted_append]
    exact ⟨⟨h _ ht, by decide⟩, by cases direction <;> decide⟩

theorem unquoted_placeholders (d : Dialect) (count : Nat) :
    Unquoted (placeholders d count).toList := by
  have hplaceholder : ∀ i, Unquoted (d.placeholder i) := fun i => by
    obtain ⟨m, w, heq, hm, hw⟩ := d.placeholder_eq i
    rw [heq]
    refine List.forall_mem_cons.2 ⟨?_, fun c hc =>
      isQuoting_of_isNameChar (isNameChar_of_rest (hw c hc))⟩
    simp only [isMarker, Bool.or_eq_true, beq_iff_eq] at hm
    rcases hm with (rfl | rfl) | rfl <;> decide
  refine unquoted_intercalate (by decide) fun s hs => ?_
  obtain ⟨i, -, rfl⟩ := List.mem_map.1 hs
  rw [Phrase.toList_parameter]
  exact hplaceholder i

theorem quotes_memberText {n : String} (h : IsName n) : Quotes (memberText n).toList [n.toList] := by
  have hquoted : ("'" ++ n ++ "'").toList = '\'' :: (n.toList ++ ['\'']) := by simp
  rw [toList_memberText, hquoted]
  exact (Quotes.of_quoted h.unquoted).append
    (.of_unquoted (unquoted_append.2 ⟨by decide, unquoted_derived h⟩))

/-- On PostgreSQL the text that stands for no children is quoted. -/
theorem quotes_closingText {d : Dialect} {f : Folding} (hf : d.folding? = some f) :
    Quotes (closingText f).toList (if d = .postgres then ["[]".toList] else []) := by
  have hback : Unquoted " AS children FROM (".toList := by decide
  have hclose : Quotes f.close.toList (if d = .postgres then ["[]".toList] else []) := by
    cases d <;> cases hf
    case postgres =>
      have hend : Unquoted "), ".toList := by decide
      have hnone : Unquoted "[]".toList := by decide
      have hcast : Unquoted "::json)::text".toList := by decide
      exact (Quotes.of_unquoted hend).append ((Quotes.of_quoted hnone).append (.of_unquoted hcast))
    case mysql => exact .of_unquoted (by decide)
    case sqlite => exact .of_unquoted (by decide)
  have hall := hclose.append (.of_unquoted hback)
  unfold closingText
  rwa [List.append_nil, ← String.toList_append] at hall

section

variable {g : Aggregate} (hkey : IsName g.foreignKey) (hmembers : ∀ n ∈ g.members, IsName n)
  (horder : ∀ t ∈ g.order, IsName t.1)

include horder

theorem unquoted_foldedOrder (d : Dialect) : Unquoted (Select.orderText (g.foldedOrder d)).toList := by
  refine unquoted_orderText fun t ht => ?_
  unfold foldedOrder at ht
  split at ht
  · obtain ⟨u, hu, rfl⟩ := List.mem_map.1 ht
    exact unquoted_derived (horder u hu)
  · cases ht

theorem unquoted_derivedOrder (d : Dialect) : Unquoted (Select.orderText (g.derivedOrder d)).toList := by
  refine unquoted_orderText fun t ht => ?_
  unfold derivedOrder at ht
  split at ht
  · cases ht
  · exact (horder t ht).unquoted

include hkey hmembers

theorem unquoted_derivedText (htable : IsName g.table) (d : Dialect) :
    Unquoted (g.derivedText d).toList := by
  have hcolumns : Unquoted (String.intercalate ", " g.derivedColumns).toList :=
    unquoted_intercalate (by decide) fun n hn =>
      (isName_of_mem_derivedColumns hkey hmembers horder hn).unquoted
  rw [toList_derivedText]
  simp only [unquoted_append]
  exact ⟨by decide, hcolumns, by decide, htable.unquoted, by decide, hkey.unquoted, by decide,
    unquoted_placeholders d _, by decide, unquoted_derivedOrder horder d⟩

/-- **Quoted are the names of the members**, and on PostgreSQL the text for no children. -/
theorem quotations_outerText {d : Dialect} {f : Folding} (hf : d.folding? = some f) {table : String}
    (htable : Unquoted table.toList) : quotations? (g.outerText (g.foldText f) table).toList =
      some (g.members.map String.toList ++ if d = .postgres then ["[]".toList] else []) := by
  have hopening : Unquoted (openingText f).toList := by
    unfold openingText
    simp only [String.toList_append]
    cases d <;> cases hf <;> decide
  have hgrouping : Unquoted groupingText.toList := by
    unfold groupingText
    decide
  have hselect : Unquoted "SELECT ".toList := by decide
  have hend : Unquoted ")".toList := by decide
  have hseparator : Unquoted ", ".toList := by decide
  have hobject := Quotes.intercalate hseparator fun n hn => quotes_memberText (hmembers n hn)
  rw [← List.map_eq_flatMap] at hobject
  have hkey : Quotes (derived g.foreignKey).toList [] := .of_unquoted (unquoted_derived hkey)
  have hall := (Quotes.of_unquoted hselect).append (hkey.append ((Quotes.of_unquoted hopening).append
    (hobject.append ((Quotes.of_unquoted hend).append
      ((Quotes.of_unquoted (unquoted_foldedOrder horder d)).append ((quotes_closingText hf).append
        ((Quotes.of_unquoted htable).append ((Quotes.of_unquoted hgrouping).append hkey))))))))
  rw [toList_outerText hf]
  simpa only [List.nil_append, List.append_nil] using hall.quotations?

end

/-! ## Where rows are ordered -/

/-- The text stands between others, writes no order and is part of none that goes across its ends. -/
structure Parts (s : List Char) : Prop where
  separates : Separates s
  orderless : orders (lex s) = 0
  lex_ne_nil : lex s ≠ []
  first : (lex s).head?.all (fun l => !l.spells "BY") = true
  last : (lex s).getLast?.all (fun l => !l.spells "ORDER") = true

instance (s : List Char) : Decidable (Parts s) :=
  decidable_of_iff (Separates s ∧ orders (lex s) = 0 ∧ lex s ≠ [] ∧
      (lex s).head?.all (fun l => !l.spells "BY") = true ∧
      (lex s).getLast?.all (fun l => !l.spells "ORDER") = true)
    ⟨fun ⟨h₁, h₂, h₃, h₄, h₅⟩ => ⟨h₁, h₂, h₃, h₄, h₅⟩, fun h => ⟨h.1, h.2, h.3, h.4, h.5⟩⟩

theorem orders_between {xs s ys : List Char} (hs : Parts s) :
    orders (lex (xs ++ (s ++ ys))) = orders (lex xs) + orders (lex ys) := by
  have hlast : ∀ l ∈ (lex s).getLast?, l.spells "ORDER" = false := fun l hl => by
    have hall := hs.last
    rw [Option.mem_def.1 hl] at hall
    simpa using hall
  have hfirst : ∀ l ∈ (lex s ++ lex ys).head?, l.spells "BY" = false := fun l hl => by
    have hall := hs.first
    rw [List.head?_append_of_ne_nil _ hs.lex_ne_nil] at hl
    rw [Option.mem_def.1 hl] at hall
    simpa using hall
  rw [lex_append hs.separates.apart_append, lex_append_of_ends hs.separates.ends, orders_append hfirst,
    orders_append_of_last hlast, hs.orderless, Nat.zero_add]

theorem orders_orderText {terms : List (String × Direction)} (h : ∀ t ∈ terms, IsWord t.1.toList) :
    orders (lex (Select.orderText terms).toList) = if terms.isEmpty then 0 else 1 := by
  unfold Select.orderText
  split
  · rfl
  · have hterms := composes_orderless.terms fun t ht => orderless_word (h t ht)
    have hby : ∀ ls, orders (.word "BY".toList :: ls) = orders ls := orders_cons (by decide)
    have hlex : lex " ORDER BY ".toList = [.word "ORDER".toList, .word "BY".toList] := by decide
    rw [String.toList_append, lex_append_of_ends (by decide), hlex]
    show 1 + orders (.word "BY".toList :: lex _) = 1
    rw [hby, hterms]

section

variable {g : Aggregate} (hkey : IsName g.foreignKey) (hmembers : ∀ n ∈ g.members, IsName n)
  (horder : ∀ t ∈ g.order, IsName t.1)

include horder

/-- The order is written inside or in the derived table. -/
theorem orders_foldedOrder (d : Dialect) :
    orders (lex (Select.orderText (g.foldedOrder d)).toList) +
      orders (lex (Select.orderText (g.derivedOrder d)).toList) = if g.order.isEmpty then 0 else 1 := by
  by_cases hd : d = .postgres
  · rw [foldedOrder, derivedOrder, if_pos hd, if_pos hd, orders_orderText, List.isEmpty_map]
    · rfl
    · intro t ht
      obtain ⟨u, hu, rfl⟩ := List.mem_map.1 ht
      exact isWord_derived (horder u hu)
  · rw [foldedOrder, derivedOrder, if_neg hd, if_neg hd,
      orders_orderText fun t ht => (horder t ht).isWord]
    exact Nat.zero_add _

include hkey hmembers

theorem orders_derivedText (htable : IsName g.table) (d : Dialect) :
    orders (lex (g.derivedText d).toList) =
      orders (lex (Select.orderText (g.derivedOrder d)).toList) := by
  have hcolumns : orders (lex (String.intercalate ", " g.derivedColumns).toList) = 0 :=
    composes_orderless.intercalate (by decide) fun n hn =>
      orderless_word (isName_of_mem_derivedColumns hkey hmembers horder hn).isWord
  have hplaceholders : orders (lex (placeholders d g.keys.length).toList) = 0 := by
    refine composes_orderless.intercalate (by decide) fun s hs => ?_
    obtain ⟨i, -, rfl⟩ := List.mem_map.1 hs
    rw [Phrase.toList_parameter]
    exact orderless_word (d.isWord_placeholder i)
  have hname : ∀ {n : String}, IsName n → orders (lex n.toList) = 0 := fun h => orderless_word h.isWord
  have hselect : lex "SELECT ".toList = [.word "SELECT".toList] := by decide
  have hfrom : Parts " FROM ".toList := by decide
  have hwhere : Parts " WHERE ".toList := by decide
  have hin : Parts " IN (".toList := by decide
  have hend : Parts ")".toList := by decide
  rw [toList_derivedText, lex_append_of_ends (by decide), hselect, List.singleton_append,
    orders_cons (by decide), orders_between hfrom, orders_between hwhere, orders_between hin,
    orders_between hend, hcolumns, hname htable, hname hkey, hplaceholders]
  omega

omit horder in
theorem orders_outerText {d : Dialect} {f : Folding} (hf : d.folding? = some f) (table : String) :
    orders (lex (g.outerText (g.foldText f) table).toList) =
      orders (lex (Select.orderText (g.foldedOrder d)).toList) + orders (lex table.toList) := by
  have hopening : Parts (openingText f).toList := by
    unfold openingText
    simp only [String.toList_append]
    cases d <;> cases hf <;> decide
  have hclosing : Parts (closingText f).toList := by
    unfold closingText
    simp only [String.toList_append]
    cases d <;> cases hf <;> decide
  have hgrouping : Parts groupingText.toList := by
    unfold groupingText
    decide
  have hderived : orders (lex (derived g.foreignKey).toList) = 0 := orderless_word (isWord_derived hkey)
  have hobject : orders (lex (String.intercalate ", " (g.members.map memberText)).toList) = 0 := by
    refine composes_orderless.intercalate (by decide) fun s hs => ?_
    obtain ⟨n, hn, rfl⟩ := List.mem_map.1 hs
    rw [toList_memberText]
    exact composes_orderless.between (orderless_word (isWord_quoted (hmembers n hn))) (by decide)
      (orderless_word (isWord_derived (hmembers n hn)))
  have hselect : lex "SELECT ".toList = [.word "SELECT".toList] := by decide
  have hend : Parts ")".toList := by decide
  rw [toList_outerText hf, lex_append_of_ends (by decide), hselect, List.singleton_append,
    orders_cons (by decide), orders_between hopening, orders_between hend, orders_between hclosing,
    orders_between hgrouping, hderived, hobject]
  omega

/-- **The order is written once**, if there is any. -/
theorem orders_text (htable : IsName g.table) {d : Dialect} {f : Folding} (hf : d.folding? = some f) :
    orders (lex (g.outerText (g.foldText f) (g.derivedText d)).toList) =
      if g.order.isEmpty then 0 else 1 := by
  rw [orders_outerText hkey hmembers hf, orders_derivedText hkey hmembers horder htable,
    orders_foldedOrder horder]

end

/-! ## Statements -/

/-- What holds of the statement of an aggregate with an array. The statement around the derived table
reads only columns that the derived table has. -/
structure Written (d : Dialect) (g : Aggregate) (array : String) (s : Statement) : Prop where
  folds : g.IsArray array d
  text : s.sql = g.outerText array (g.derivedText d)
  /-- The derived table has these columns, each where it is first seen. -/
  columns : FirstSeen id (g.foreignKey :: (g.members ++ g.order.map Prod.fst)) g.derivedColumns
  first : g.derivedColumns.head? = some g.foreignKey
  nodup : g.derivedColumns.Nodup
  reads : through (g.outerText array "").toList = g.foreignKey :: (g.members ++
    ((if d = .postgres then g.order.map Prod.fst else []) ++ [g.foreignKey]))
  listed : ∀ n ∈ through (g.outerText array "").toList, n ∈ g.derivedColumns
  /-- The order is written where the text has it and nowhere else. -/
  ordered : orders (lex s.sql.toList) = if g.order.isEmpty then 0 else 1
  /-- Nothing else is quoted. -/
  quoted : quotations? s.sql.toList =
    some (g.members.map String.toList ++ if d = .postgres then ["[]".toList] else [])
  identifiers : ∀ n ∈ g.members, isIdentifier n = true
  parameters : s.parameters = g.keys.mapIdx fun i key => ⟨"p" ++ toString (i + 1), key⟩

theorem written {draft : Draft} {a : Allowlist} (ha : draft.check = .ok a) {g : Aggregate}
    (hg : g.Permitted a) {d : Dialect} {f : Folding} (hf : d.folding? = some f) (outline : Outline) :
    g.Written d (g.foldText f) (.ofTemplate d (g.template f) outline) := by
  have hsound := Draft.check_sound ha
  obtain ⟨columns, hcolumns⟩ := hg.known
  have htable := hsound.table _ _ hcolumns
  have hkey := hsound.plain hg.foreignKey
  have hmembers : ∀ n ∈ g.members, IsName n := fun n hn => hsound.plain (hg.members n hn)
  have horder : ∀ t ∈ g.order, IsName t.1 := fun t ht => hsound.plain (hg.order t ht)
  have hreads := through_outerText hkey hmembers horder hf
  have htext := render_template hf g
  constructor
  case folds => exact isArray_foldText hf g
  case text => exact htext
  case columns => exact g.derivedColumns_firstSeen
  case first => exact g.head?_derivedColumns
  case nodup => exact g.nodup_derivedColumns
  case reads => exact hreads
  case listed =>
    intro n hn
    rw [hreads] at hn
    rw [mem_derivedColumns]
    rcases List.mem_cons.1 hn with rfl | hn
    · exact List.mem_cons_self
    rcases List.mem_append.1 hn with hn | hn
    · exact List.mem_cons_of_mem _ (List.mem_append_left _ hn)
    rcases List.mem_append.1 hn with hn | hn
    · split at hn
      · exact List.mem_cons_of_mem _ (List.mem_append_right _ hn)
      · cases hn
    · exact List.mem_singleton.1 hn ▸ List.mem_cons_self
  case ordered =>
    rw [Statement.sql_ofTemplate, htext]
    exact orders_text hkey hmembers horder htable hf
  case quoted =>
    rw [Statement.sql_ofTemplate, htext]
    have hderived := unquoted_derivedText hkey hmembers horder htable d
    exact quotations_outerText hkey hmembers horder hf hderived
  case identifiers =>
    intro n hn
    obtain ⟨c, hc, hplain, rfl⟩ := hg.members n hn
    have hmem : c ∈ columns := by simpa [Allowlist.permitted, hcolumns] using hc
    obtain ⟨text, hentry⟩ := Draft.check_read ha hcolumns c hmem
    exact Column.isIdentifier_of_isPlain hentry hplain
  case parameters => exact congrArg Parameter.number (literals_template f g)

end Aggregate

/-- **The statement that fetches children is well formed.** Exactly the acceptable relations have one.
It makes an array of the rows of a derived table, which has every column that is read from it once and
the foreign key first; an object has a member for each column, by its name; the order is written once,
in the array on PostgreSQL and in the derived table otherwise; quoted are names of columns and the text
for no children; and the keys are the parameters. -/
theorem Relation.compile_children {draft : Draft} {a : Allowlist} (ha : draft.check = .ok a)
    {d : Dialect} (hd : d ≠ .mssql) (r : Relation) (keys : List Literal) :
    ((∃ s, r.compile a d keys = .ok s) ↔ r.Acceptable a keys) ∧
    ∀ s, r.compile a d keys = .ok s → ∃ g array, r.Gives a keys g ∧ g.Written d array s := by
  refine ⟨exists_compile hd, fun s hs => ?_⟩
  obtain ⟨g, f, outline, hg, hf, rfl⟩ := compile_ok hs
  exact ⟨g, g.foldText f, Aggregate.check_gives hg,
    Aggregate.written ha (Aggregate.check_permitted hg) hf outline⟩

/-- The items of some tenants, with columns that are named twice. -/
def tenantRows : Relation :=
  ⟨"items", "tenant_id", ["name", "tenant_id", "name"], [⟨"id", .desc⟩, ⟨"name", .asc⟩]⟩

theorem Relation.compile_children_tenantRows : Draft.sample.check = .ok .sample ∧
    Dialect.postgres ≠ .mssql ∧ tenantRows.Acceptable .sample [.int 7, .int 8] ∧
    ∃ s g array, tenantRows.compile .sample .postgres [.int 7, .int 8] = .ok s ∧
      tenantRows.Gives .sample [.int 7, .int 8] g ∧ g.Written .postgres array s := by
  obtain ⟨haccepts, hwritten⟩ := compile_children Draft.check_sample
    (show Dialect.postgres ≠ .mssql by decide) tenantRows [.int 7, .int 8]
  obtain ⟨g, array, hgives, htext⟩ := hwritten _ rfl
  exact ⟨Draft.check_sample, by decide, haccepts.1 ⟨_, rfl⟩, _, g, array, rfl, hgives, htext⟩

end GuardedQuery
