import GuardedQuery.Proofs.Statement.Text

/-!
# The words of statements

A statement is put together from names, numbers and placeholders with keywords and marks between
them. A property of texts that `Composes` at such links holds of each clause if it holds of the names,
numbers and placeholders in it (`Composes.headText`, `Admits.whereText`, `Composes.terms`).
`Spoken P cs`, every word of a text satisfies `P`, is such a property.
-/

namespace GuardedQuery

open Text Template

/-! ## Links -/

/-- The words that are always the same. -/
def keywords : List String :=
  ["SELECT", "FROM", "AS", "INNER", "LEFT", "RIGHT", "FULL", "JOIN", "ON", "WHERE", "AND", "OR", "NOT",
    "IN", "LIKE", "IS", "NULL", "=", "<>", ">", "<", ">=", "<=", "ORDER", "BY", "ASC", "DESC", "LIMIT",
    "OFFSET", "ROWS", "FETCH", "NEXT", "ONLY"]

/-- The keywords but the two that introduce an order. -/
def links : List String := keywords.filter fun w => w != "ORDER" && w != "BY"

/-- The lexeme is a mark or a keyword and does not introduce an order. -/
def Text.Lexeme.isLink : Lexeme → Bool
  | .word w => (links.map String.toList).contains w
  | .mark _ => true

/-- The text stands between others without running into them. -/
structure Separates (cs : List Char) : Prop where
  ne_nil : cs ≠ []
  apart : Apart cs
  ends : Ends cs

/-- The text is cut from the one in front of it by a separator and a link. -/
structure Opens (cs : List Char) : Prop where
  apart : Apart cs
  link : (lex cs).head?.all Lexeme.isLink = true

/-- The text is cut from the one behind it by a link and a separator. -/
structure Closes (cs : List Char) : Prop where
  ends : Ends cs
  link : (lex cs).getLast?.all Lexeme.isLink = true

/-- The text consists of links and separates. -/
structure Seam (s : List Char) : Prop where
  separates : Separates s
  lex_ne_nil : lex s ≠ []
  links : (lex s).all Lexeme.isLink = true

instance (cs : List Char) : Decidable (Separates cs) :=
  decidable_of_iff (cs ≠ [] ∧ Apart cs ∧ Ends cs)
    ⟨fun ⟨h, h', h''⟩ => ⟨h, h', h''⟩, fun h => ⟨h.ne_nil, h.apart, h.ends⟩⟩

instance (cs : List Char) : Decidable (Opens cs) :=
  decidable_of_iff (Apart cs ∧ (lex cs).head?.all Lexeme.isLink = true)
    ⟨fun ⟨h, h'⟩ => ⟨h, h'⟩, fun h => ⟨h.apart, h.link⟩⟩

instance (cs : List Char) : Decidable (Closes cs) :=
  decidable_of_iff (Ends cs ∧ (lex cs).getLast?.all Lexeme.isLink = true)
    ⟨fun ⟨h, h'⟩ => ⟨h, h'⟩, fun h => ⟨h.ends, h.link⟩⟩

instance (s : List Char) : Decidable (Seam s) :=
  decidable_of_iff (Separates s ∧ lex s ≠ [] ∧ (lex s).all Lexeme.isLink = true)
    ⟨fun ⟨h, h', h''⟩ => ⟨h, h', h''⟩, fun h => ⟨h.separates, h.lex_ne_nil, h.links⟩⟩

theorem Separates.apart_append {s ys : List Char} (h : Separates s) : Apart (s ++ ys) := by
  obtain ⟨hne, h, -⟩ := h
  cases s with
  | nil => exact absurd rfl hne
  | cons c s => simpa using h

theorem opens_nil : Opens [] := ⟨apart_nil, rfl⟩

theorem Opens.append {xs ys : List Char} (hx : Opens xs) (hy : Opens ys) : Opens (xs ++ ys) := by
  refine ⟨hx.apart.append hy.apart, ?_⟩
  rw [lex_append hy.apart, List.head?_append]
  cases hlex : (lex xs).head? with
  | none => exact hy.link
  | some l =>
    have hlink := hx.link
    rwa [hlex] at hlink

namespace Seam

variable {s : List Char}

theorem head_link (h : Seam s) : (lex s).head?.all Lexeme.isLink = true := by
  cases hlex : lex s with
  | nil => rfl
  | cons l ls =>
    have hlinks := h.links
    rw [hlex, List.all_cons, Bool.and_eq_true] at hlinks
    exact hlinks.1

/-- A seam cuts whatever stands behind it from what stands in front. -/
theorem opens (h : Seam s) (ys : List Char) : Opens (s ++ ys) := by
  refine ⟨h.separates.apart_append, ?_⟩
  rw [lex_append_of_ends h.separates.ends, List.head?_append]
  have hhead := h.head_link
  cases hlex : (lex s).head? with
  | none => exact absurd (List.head?_eq_none_iff.1 hlex) h.lex_ne_nil
  | some l =>
    rw [hlex] at hhead
    exact hhead

end Seam

theorem closes_of_links {s : List Char} (hends : Ends s) (hlinks : (lex s).all Lexeme.isLink = true) :
    Closes s := by
  refine ⟨hends, ?_⟩
  cases hlast : (lex s).getLast? with
  | none => rfl
  | some l => exact List.all_eq_true.1 hlinks l (List.mem_of_getLast? hlast)

/-! ## Texts put together at links -/

/-- Links have the property, and so has a text that is cut at a link into parts that have it. -/
structure Composes (Q : List Char → Prop) : Prop where
  links : ∀ {cs}, (lex cs).all Lexeme.isLink = true → Q cs
  append : ∀ {xs ys}, Q xs → Q ys → Opens ys → Q (xs ++ ys)
  append_of_closes : ∀ {xs ys}, Q xs → Q ys → Closes xs → Q (xs ++ ys)

namespace Composes

variable {Q : List Char → Prop} {s xs ys : List Char} (hQ : Composes Q)

include hQ

theorem nil : Q [] := hQ.links rfl

theorem behind (hlinks : (lex s).all Lexeme.isLink = true) (hends : Ends s) (hy : Q ys) :
    Q (s ++ ys) :=
  hQ.append_of_closes (hQ.links hlinks) hy (closes_of_links hends hlinks)

theorem before (hx : Q xs) (hlinks : (lex s).all Lexeme.isLink = true) (hopens : Opens s) :
    Q (xs ++ s) :=
  hQ.append hx (hQ.links hlinks) hopens

theorem between (hx : Q xs) (hs : Seam s) (hy : Q ys) : Q (xs ++ (s ++ ys)) :=
  hQ.append hx (hQ.behind hs.links hs.separates.ends hy) (hs.opens ys)

theorem join {ss : List String} (h : ∀ t ∈ ss, Q t.toList ∧ Opens t.toList) :
    Q (String.join ss).toList ∧ Opens (String.join ss).toList := by
  induction ss with
  | nil => exact ⟨hQ.nil, opens_nil⟩
  | cons t rest ih =>
    obtain ⟨⟨ht, hopens⟩, hrest⟩ := List.forall_mem_cons.1 h
    rw [String.join_cons, String.toList_append]
    exact ⟨hQ.append ht (ih hrest).1 (ih hrest).2, hopens.append (ih hrest).2⟩

theorem intercalate {separator : String} (hs : Seam separator.toList) {ss : List String}
    (h : ∀ t ∈ ss, Q t.toList) : Q (String.intercalate separator ss).toList := by
  induction ss with
  | nil => exact hQ.nil
  | cons t rest ih =>
    cases rest with
    | nil => simpa using h t List.mem_cons_self
    | cons t' rest =>
      obtain ⟨ht, hrest⟩ := List.forall_mem_cons.1 h
      rw [String.intercalate_cons_cons, String.toList_append, String.toList_append,
        List.append_assoc]
      exact hQ.between ht hs (ih hrest)

/-! ### The clauses of a select -/

theorem tableText {table : String} {name : Option String} (ht : Q table.toList)
    (hn : ∀ n ∈ name, Q n.toList) : Q (Select.tableText table name).toList := by
  cases name with
  | none => simpa [Select.tableText] using ht
  | some n =>
    have := hQ.between (s := " AS ".toList) ht (by decide) (hn n rfl)
    simpa [Select.tableText] using this

theorem joinText {j : Join} (ht : Q j.table.toList) (hn : ∀ n ∈ j.aliasName, Q n.toList)
    (hon : Q j.on.toList) : Q (Select.joinText j).toList ∧ Opens (Select.joinText j).toList := by
  have hkind : Seam (" " ++ j.kind.sql ++ " ").toList := by cases j.kind <;> decide
  have htail := hQ.between (s := " ON ".toList) (hQ.tableText ht hn) (by decide) hon
  have hjoin := hQ.behind hkind.links hkind.separates.ends htail
  have hopens := hkind.opens ((Select.tableText j.table j.aliasName).toList ++ (" ON ".toList ++
    j.on.toList))
  simp only [String.toList_append, List.append_assoc] at hjoin hopens
  simp only [Select.joinText, String.toList_append, List.append_assoc]
  exact ⟨hjoin, hopens⟩

theorem headText {select : Select} (hcolumns : ∀ c ∈ select.columns, Q c.entry.toList)
    (hsource : Q (Select.tableText select.source.table select.source.aliasName).toList)
    (hjoins : ∀ j ∈ select.joins, Q (Select.joinText j).toList ∧ Opens (Select.joinText j).toList) :
    Q select.headText.toList := by
  have hlist : Q (String.intercalate ", " (select.columns.map Column.entry)).toList := by
    refine hQ.intercalate (by decide) fun t ht => ?_
    obtain ⟨c, hc, rfl⟩ := List.mem_map.1 ht
    exact hcolumns c hc
  obtain ⟨hjoined, hopens⟩ : Q (String.join (select.joins.map Select.joinText)).toList ∧
      Opens (String.join (select.joins.map Select.joinText)).toList := by
    refine hQ.join fun t ht => ?_
    obtain ⟨j, hj, rfl⟩ := List.mem_map.1 ht
    exact hjoins j hj
  simp only [Select.headText, String.toList_append, List.append_assoc]
  exact hQ.behind (by decide) (by decide)
    (hQ.between hlist (by decide) (hQ.append hsource hjoined hopens))

/-- The terms of an order, without the words that introduce it. -/
theorem terms {terms : List (String × Direction)} (h : ∀ t ∈ terms, Q t.1.toList) :
    Q (String.intercalate ", " (terms.map fun (c, d) => c ++ " " ++ d.sql)).toList := by
  refine hQ.intercalate (by decide) fun t ht => ?_
  obtain ⟨⟨c, direction⟩, hc, rfl⟩ := List.mem_map.1 ht
  have hdirection : (lex (" " ++ direction.sql).toList).all Lexeme.isLink = true ∧
      Opens (" " ++ direction.sql).toList := by
    cases direction <;> decide
  have := hQ.before (h _ hc) hdirection.1 hdirection.2
  simpa using this

theorem fetchText {w : Window} (h : ∀ n ∈ w.numerals, Q n.toList) : Q w.fetchText.toList := by
  have hoffset : Q (toString (w.offset.getD 0)).toList := h _ (by simp [Window.numerals])
  have hfetch : Q (" ROWS".toList ++ ((w.limit.map fun n =>
        " FETCH NEXT " ++ toString n ++ " ROWS ONLY").getD "").toList) ∧
      Opens (" ROWS".toList ++ ((w.limit.map fun n =>
        " FETCH NEXT " ++ toString n ++ " ROWS ONLY").getD "").toList) := by
    cases hl : w.limit with
    | none => exact ⟨hQ.links (by decide), by decide⟩
    | some n =>
      have hn := hQ.before (s := " ROWS ONLY".toList) (h (toString n) (by simp [Window.numerals, hl]))
        (by decide) (by decide)
      have hseam : Seam " ROWS FETCH NEXT ".toList := by decide
      have hall := hQ.behind hseam.links hseam.separates.ends hn
      have hopens := hseam.opens ((toString n).toList ++ " ROWS ONLY".toList)
      simp only [Option.map_some, Option.getD_some, String.toList_append, List.append_assoc]
      exact ⟨hall, hopens⟩
  simp only [Window.fetchText, String.toList_append, List.append_assoc]
  exact hQ.behind (by decide) (by decide) (hQ.append hoffset hfetch.1 hfetch.2)

theorem limitText {w : Window} {limit : String} (hl : Q limit.toList)
    (ho : Q (toString (w.offset.getD 0)).toList) : Q (w.limitText limit).toList := by
  simp only [Window.limitText, String.toList_append, List.append_assoc]
  exact hQ.behind (by decide) (by decide) (hQ.between hl (by decide) ho)

end Composes

/-! ## Conditions -/

theorem seam_operator (o : Operator) : Seam (" " ++ o.sql ++ " ").toList := by
  rcases o with c | negated | _ | negated
  · cases c <;> decide
  · cases negated <;> decide
  · decide
  · cases negated <;> decide

/-- A property that composes and holds of the first placeholders of a dialect. -/
structure Admits (Q : List Char → Prop) (d : Dialect) (bound : Nat) : Prop extends Composes Q where
  placeholder : ∀ i < bound, Q (d.placeholder (i + 1))

namespace Admits

variable {Q : List Char → Prop} {d : Dialect} {bound : Nat} (hQ : Admits Q d bound)

include hQ

theorem bindAll {ls : List Literal} {n : Nat} (h : n + ls.length ≤ bound) :
    Q (renderFrom d n (Template.bindAll ls)) := by
  have hlist : Q (renderFrom d n (separated ", " (ls.map fun l => [.bind l]))) := by
    induction ls generalizing n with
    | nil => exact hQ.nil
    | cons l rest ih =>
      rw [List.length_cons] at h
      have hl : Q (d.placeholder (n + 1)) := hQ.placeholder n (by omega)
      cases rest with
      | nil => simpa [separated] using hl
      | cons l' rest =>
        have hrest := ih (n := n + 1) (by omega)
        have := hQ.between (s := ", ".toList) hl (by decide) hrest
        simpa [separated, renderFrom_append] using this
  rw [Template.bindAll, renderFrom_text, renderFrom_append, renderFrom_text, renderFrom_nil]
  exact hQ.behind (by decide) (by decide) (hQ.before hlist (by decide) (by decide))

theorem testTemplate {column : String} {p : Predicate} {n : Nat} (hc : Q column.toList)
    (h : n + p.literals.length ≤ bound) : Q (renderFrom d n (Restriction.testTemplate column p)) := by
  have hcomparison : ∀ {ys : List Char}, Q ys →
      Q (column.toList ++ (" ".toList ++ (p.operator.sql.toList ++ (" ".toList ++ ys)))) := by
    intro ys hy
    have := hQ.between hc (seam_operator p.operator) hy
    simpa only [String.toList_append, List.append_assoc] using this
  cases p with
  | compare c v => simpa [Restriction.testTemplate] using hcomparison (hQ.placeholder n h)
  | member negated vs =>
    simpa [Restriction.testTemplate, Predicate.literals] using hcomparison (hQ.bindAll h)
  | like pattern => simpa [Restriction.testTemplate] using hcomparison (hQ.placeholder n h)
  | null negated =>
    have hnull : (lex (" " ++ (Operator.null negated).sql).toList).all Lexeme.isLink = true ∧
        Opens (" " ++ (Operator.null negated).sql).toList := by
      cases negated <;> decide
    have := hQ.before hc hnull.1 hnull.2
    simpa [Restriction.testTemplate, Predicate.operator] using this

mutual

theorem template : ∀ (r : Restriction) {n : Nat}, (∀ t ∈ r.tests, Q t.1.toList) →
    n + r.template.literals.length ≤ bound → Q (renderFrom d n r.template)
  | .test column p, n, hr, h => by
    rw [Restriction.template, Restriction.literals_testTemplate] at h
    exact hQ.testTemplate (hr (column, p) (by simp [Restriction.tests])) h
  | .group c parts, n, hr, h => by
    rw [Restriction.template, literals_text, literals_append, List.length_append] at h
    have hparts := templates c parts (n := n) (by rwa [Restriction.tests] at hr) (by omega)
    rw [Restriction.template, renderFrom_text, renderFrom_append]
    have hinner := hQ.before (s := ")".toList) hparts (by decide) (by decide)
    cases c <;> exact hQ.behind (by decide) (by decide) hinner

/-- **The text of restrictions** has what their columns and the placeholders have. -/
theorem templates (c : Connective) : ∀ (rs : List Restriction) {n : Nat},
    (∀ t ∈ Restriction.testsAll rs, Q t.1.toList) →
      n + (Restriction.templates (Restriction.separator c) rs).literals.length ≤ bound →
        Q (renderFrom d n (Restriction.templates (Restriction.separator c) rs))
  | [], _, _, _ => hQ.nil
  | [r], n, hr, h => by
    rw [Restriction.testsAll_singleton] at hr
    exact template r hr h
  | r :: r' :: rest, n, hr, h => by
    rw [Restriction.testsAll] at hr
    obtain ⟨hfirst, hothers⟩ := List.forall_mem_append.1 hr
    rw [Restriction.templates_cons_cons, literals_append, literals_text, List.length_append] at h
    rw [Restriction.templates_cons_cons, renderFrom_append, renderFrom_text]
    have hleft := template r (n := n) hfirst (by omega)
    have hright := templates c (r' :: rest) (n := n + r.template.literals.length) hothers (by omega)
    have hseam : Seam (Restriction.separator c).toList := by cases c <;> decide
    exact hQ.between hleft hseam hright

end

/-- The WHERE clause can follow another text. -/
theorem whereText {select : Select}
    (htests : ∀ t ∈ Restriction.testsAll select.restrictions, Q t.1.toList)
    (hbound : (Restriction.testLiterals (Restriction.testsAll select.restrictions)).length ≤ bound) :
    Q (select.whereText d).toList ∧ Opens (select.whereText d).toList := by
  rw [Select.whereText, Select.condition?]
  split
  · exact ⟨hQ.nil, opens_nil⟩
  · rename_i text htext
    have htemplates := hQ.templates .and select.restrictions (n := 0) htests
      (by rw [Restriction.literals_templates]; omega)
    have hseam : Seam " WHERE ".toList := by decide
    rw [String.toList_append]
    refine ⟨hQ.behind hseam.links hseam.separates.ends ?_, hseam.opens _⟩
    split at htext
    · cases htext
    · cases htext
      rwa [String.toList_ofList]

end Admits

/-! ## Words -/

/-- Every word of the text satisfies `P`. -/
def Spoken (P : List Char → Prop) (cs : List Char) : Prop := ∀ w ∈ words cs, P w

namespace Spoken

variable {P : List Char → Prop} {xs ys : List Char}

theorem word (hw : IsWord xs) (h : P xs) : Spoken P xs := by
  simpa [Spoken, words_word hw] using h

theorem append (hx : Spoken P xs) (hy : Spoken P ys) (h : Apart ys) : Spoken P (xs ++ ys) := by
  rw [Spoken, words_append h]
  exact List.forall_mem_append.2 ⟨hx, hy⟩

theorem append_of_ends (hx : Spoken P xs) (hy : Spoken P ys) (h : Ends xs) :
    Spoken P (xs ++ ys) := by
  rw [Spoken, words_append_of_ends h]
  exact List.forall_mem_append.2 ⟨hx, hy⟩

theorem mono {Q : List Char → Prop} (h : Spoken P xs) (hPQ : ∀ w, P w → Q w) : Spoken Q xs :=
  fun w hw => hPQ w (h w hw)

section Keywords

variable (hk : ∀ w ∈ keywords.map String.toList, P w)

include hk

theorem fixed {s : String} (h : ∀ w ∈ words s.toList, w ∈ keywords.map String.toList) :
    Spoken P s.toList :=
  fun w hw => hk w (h w hw)

/-- What the keywords satisfy, the words of a text satisfy if those of its parts do. -/
theorem composes : Composes (Spoken P) where
  links := by
    intro cs hlinks w hw
    obtain ⟨l, hl, hword⟩ := List.mem_filterMap.1 hw
    cases l with
    | mark c => cases hword
    | word v =>
      cases hword
      have hlink : (links.map String.toList).contains w = true := List.all_eq_true.1 hlinks _ hl
      obtain ⟨k, hmem, rfl⟩ := List.mem_map.1 (List.contains_iff_mem.1 hlink)
      exact hk _ (List.mem_map_of_mem (List.mem_filter.1 hmem).1)
  append hx hy h := hx.append hy h.apart
  append_of_closes hx hy h := hx.append_of_ends hy h.ends

theorem orderText {terms : List (String × Direction)} (h : ∀ t ∈ terms, Spoken P t.1.toList) :
    Spoken P (Select.orderText terms).toList := by
  unfold Select.orderText
  split
  · exact (composes hk).nil
  · rw [String.toList_append]
    exact (fixed hk (by decide)).append_of_ends ((composes hk).terms h) (by decide)

theorem window {d : Dialect} {ordered : Bool} {w : Window}
    (h : ∀ s ∈ w.numerals, Spoken P s.toList) : Spoken P (w.clause d ordered).toList := by
  have hfetch := (composes hk).fetchText h
  rcases w.clause_cases d ordered with heq | heq | heq | ⟨limit, hlimit, heq⟩ <;> rw [heq]
  · exact (composes hk).nil
  · exact hfetch
  · rw [String.toList_append]
    exact (fixed hk (by decide)).append hfetch w.apart_fetchText
  · exact (composes hk).limitText (h limit hlimit) (h _ (by simp [Window.numerals]))

end Keywords

end Spoken

theorem apart_orderText (terms : List (String × Direction)) :
    Apart (Select.orderText terms).toList := by
  unfold Select.orderText
  split
  · exact apart_nil
  · rw [String.toList_append]
    exact Separates.apart_append (by decide)

theorem Window.apart_clause (d : Dialect) (ordered : Bool) (w : Window) :
    Apart (w.clause d ordered).toList := by
  rcases w.clause_cases d ordered with h | h | h | ⟨limit, -, h⟩ <;> rw [h]
  · exact apart_nil
  all_goals
    simp only [fetchText, limitText, String.toList_append, List.append_assoc]
    exact Separates.apart_append (by decide)

end GuardedQuery
