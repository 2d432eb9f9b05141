import GuardedQuery.Proofs.Sql.Formula
import GuardedQuery.Proofs.Statement.Tests

/-!
# Restrictions read back

The text of a restriction is read as the formula of the same shape (`operand_template`), in every
context: whatever stands before it, whatever parameters were bound before it and whatever follows,
if only the next character separates. Parts of a group are read one after the other into a chain of
conjunctions or disjunctions (`operand_templates`).
-/

namespace GuardedQuery

open Text Template

/-! ## Comparisons -/

namespace Input

variable {d : Dialect} {n : Nat} {q : List Literal}

/-- No operator is the beginning of another. -/
theorem operator?_lex (op : Operator) (rest : List Lexeme) :
    operator? ⟨n, q, lex op.sql.toList ++ rest⟩ = some (op, ⟨n, q, rest⟩) := by
  obtain c | negated | - | negated := op
  · cases c <;> rfl
  · cases negated <;> rfl
  · rfl
  · cases negated <;> rfl

theorem literal?_placeholder (v : Literal) {tail : List Char} (ht : Apart tail) :
    literal? d ⟨n, v :: q, lex (d.placeholder (n + 1) ++ tail)⟩ =
      some (v, ⟨n + 1, q, lex tail⟩) := by
  rw [lex_word_append (d.isWord_placeholder _) ht, literal?, if_pos rfl]

/-- The text of placeholders with commas between, and the parenthesis behind. -/
def listTail (ls : List Literal) : Template :=
  separated ", " (ls.map fun l => [.bind l]) ++ [.text ")"]

theorem renderFrom_listTail_singleton (l : Literal) :
    renderFrom d n (listTail [l]) = d.placeholder (n + 1) ++ [')'] := by
  simp [listTail, separated]

theorem renderFrom_listTail_cons (l l' : Literal) (ls : List Literal) :
    renderFrom d n (listTail (l :: l' :: ls)) =
      d.placeholder (n + 1) ++ ',' :: ' ' :: renderFrom d (n + 1) (listTail (l' :: ls)) := by
  simp [listTail, separated]

theorem literals?_listTail (l : Literal) (ls : List Literal) (tail : List Char) :
    ∃ rest, lex (renderFrom d n (listTail (l :: ls)) ++ tail) =
        .word (d.placeholder (n + 1)) :: rest ∧
      literals? d (n + 1) (ls ++ q) rest = some (ls, ⟨n + 1 + ls.length, q, lex tail⟩) := by
  induction ls generalizing l n with
  | nil =>
    refine ⟨.mark ')' :: lex tail, ?_, by simp [literals?]⟩
    rw [renderFrom_listTail_singleton, List.append_assoc, List.singleton_append,
      lex_append_mark rfl rfl, lex_word (d.isWord_placeholder _), List.singleton_append]
  | cons l' ls ih =>
    obtain ⟨rest, hlex, hread⟩ := ih (n := n + 1) l'
    refine ⟨.mark ',' :: .word (d.placeholder (n + 1 + 1)) :: rest, ?_, ?_⟩
    · rw [renderFrom_listTail_cons, List.append_assoc, List.cons_append, List.cons_append,
        lex_append_mark rfl rfl, lex_word (d.isWord_placeholder _), lex_blank rfl, hlex,
        List.singleton_append]
    · rw [List.cons_append, literals?, if_pos rfl, hread, List.length_cons,
        show n + 1 + (ls.length + 1) = n + 1 + 1 + ls.length by omega]
      rfl

theorem list?_bindAll {ls : List Literal} (hne : ls ≠ []) (tail : List Char) :
    list? d ⟨n, ls ++ q, lex (renderFrom d n (bindAll ls) ++ tail)⟩ =
      some (ls, ⟨n + ls.length, q, lex tail⟩) := by
  obtain ⟨l, ls, rfl⟩ := List.exists_cons_of_ne_nil hne
  obtain ⟨rest, hlex, hread⟩ := literals?_listTail (d := d) (n := n) (q := q) l ls tail
  have hopen : lex (renderFrom d n (bindAll (l :: ls)) ++ tail) =
      .mark '(' :: .word (d.placeholder (n + 1)) :: rest := by
    rw [← hlex]
    exact lex_mark rfl rfl _
  rw [hopen, List.cons_append, List.length_cons,
    show n + (ls.length + 1) = n + 1 + ls.length by omega]
  simp [list?, literal?, hread]

/-- **A rendered comparison is read as one.** -/
theorem comparison?_testTemplate {column : String} {p : Predicate} (hcolumn : IsName column)
    (hlist : Restriction.HasList p) {tail : List Char} (ht : Apart tail) :
    comparison? d
        ⟨n, p.literals ++ q, lex (renderFrom d n (Restriction.testTemplate column p) ++ tail)⟩ =
      some ((column, p), ⟨n + p.literals.length, q, lex tail⟩) := by
  -- what the operator is followed by, for each kind of predicate
  have key : ∀ args : Template,
      Restriction.testTemplate column p = .text (column ++ " " ++ p.operator.sql) :: args →
      Apart (renderFrom d n args ++ tail) →
      predicate? d p.operator ⟨n, p.literals ++ q, lex (renderFrom d n args ++ tail)⟩ =
        some (p, ⟨n + p.literals.length, q, lex tail⟩) →
      comparison? d
          ⟨n, p.literals ++ q, lex (renderFrom d n (Restriction.testTemplate column p) ++ tail)⟩ =
        some ((column, p), ⟨n + p.literals.length, q, lex tail⟩) := by
    intro args hargs hapart hpredicate
    have hlex : lex (renderFrom d n (Restriction.testTemplate column p) ++ tail) =
        .word column.toList :: (lex p.operator.sql.toList ++ lex (renderFrom d n args ++ tail)) := by
      rw [hargs, renderFrom_text, String.toList_append, String.toList_append, List.append_assoc,
        List.append_assoc, List.append_assoc, ← lex_append hapart]
      exact (lex_append_blank rfl).trans (by rw [lex_word hcolumn.isWord]; rfl)
    simp only [comparison?, hlex, operator?_lex, hpredicate, String.ofList_toList, bind,
      Option.bind_some, pure]
  have hbind : ∀ l : Literal, lex (renderFrom d n [.text " ", .bind l] ++ tail) =
      lex (d.placeholder (n + 1) ++ tail) := fun l => by
    rw [renderFrom_text, renderFrom_bind, renderFrom_nil, List.append_nil]
    exact lex_blank rfl _
  cases p with
  | compare c v =>
    refine key [.text " ", .bind v] rfl (apart_cons.2 rfl) ?_
    have hread := literal?_placeholder (d := d) (n := n) (q := q) v ht
    rw [hbind]
    show (literal? d ⟨n, v :: q, lex (d.placeholder (n + 1) ++ tail)⟩).map _ = _
    rw [hread]
    rfl
  | member negated ls =>
    refine key (.text " " :: bindAll ls) rfl (apart_cons.2 rfl) ?_
    have hne : ls ≠ [] := fun h => hlist negated (by rw [h])
    have hread := list?_bindAll (d := d) (n := n) (q := q) hne tail
    show (list? d ⟨n, ls ++ q, lex (' ' :: (renderFrom d n (bindAll ls) ++ tail))⟩).map _ = _
    rw [lex_blank rfl, hread]
    rfl
  | like pattern =>
    refine key [.text " ", .bind (.text pattern)] rfl (apart_cons.2 rfl) ?_
    have hread := literal?_placeholder (d := d) (n := n) (q := q) (.text pattern) ht
    rw [hbind, Predicate.operator, predicate?, Predicate.literals, List.singleton_append, hread]
    rfl
  | null negated =>
    exact key [] rfl ht rfl

end Input

/-! ## Formulas of restrictions -/

namespace Connective

/-- What joins the parts of a group. -/
def op {α : Type} : Connective → Formula α → Formula α → Formula α
  | .or => .or
  | _ => .and

/-- What is done to the joined parts. -/
def wrap {α : Type} : Connective → Formula α → Formula α
  | .not, f => .not f
  | _, f => f

/-- The formula of a group with some parts, of which there must be one. -/
def chain? {α : Type} (k : Connective) : List (Formula α) → Option (Formula α)
  | [] => none
  | f :: fs => some (k.wrap (fs.foldl k.op f))

end Connective

namespace Restriction

mutual

/-- The formula of a restriction in which every group has a part. -/
def formula? : Restriction → Option (Formula (String × Predicate))
  | .test column p => some (.atom (column, p))
  | .group c parts => (formulas? parts).bind c.chain?

/-- The formulas of some restrictions. -/
def formulas? : List Restriction → Option (List (Formula (String × Predicate)))
  | [] => some []
  | r :: rest => r.formula?.bind fun f => (formulas? rest).map (f :: ·)

end

theorem formulas?_cons {r : Restriction} {rest : List Restriction}
    {gs : List (Formula (String × Predicate))} (h : formulas? (r :: rest) = some gs) :
    ∃ f fs, r.formula? = some f ∧ formulas? rest = some fs ∧ gs = f :: fs := by
  obtain ⟨f, hf, h⟩ := Option.bind_eq_some_iff.1 h
  obtain ⟨fs, hfs, rfl⟩ := Option.map_eq_some_iff.1 h
  exact ⟨f, fs, hf, hfs, rfl⟩

theorem formula?_group {c : Connective} {parts : List Restriction}
    {f : Formula (String × Predicate)} (h : (group c parts).formula? = some f) :
    ∃ g gs, formulas? parts = some (g :: gs) ∧ f = c.wrap (gs.foldl c.op g) := by
  obtain ⟨gs, hgs, h⟩ := Option.bind_eq_some_iff.1 h
  cases gs with
  | nil => cases h
  | cons g gs =>
    cases h
    exact ⟨g, gs, hgs, rfl⟩

/-! ## Reading -/

/-- The tests can be read: columns are names, and lists are not empty. -/
def Readable (ts : List (String × Predicate)) : Prop := ∀ t ∈ ts, IsName t.1 ∧ HasList t.2

/-- The context in which the next part of a group stands behind the joined parts before it. -/
def context (k : Connective) (before : Option (Formula (String × Predicate))) : Formula.Context :=
  match k with
  | .or => ⟨before, none, 0⟩
  | _ => ⟨none, before, 0⟩

/-- The text between parts is the word of the connective. -/
theorem lex_separator (k : Connective) (ys : List Char) :
    lex ((separator k).toList ++ ys) =
      .word (match k with | .or => "OR" | _ => "AND").toList :: lex ys := by
  have hword : ∀ w : List Char, IsWord w → lex (' ' :: (w ++ ' ' :: ys)) = .word w :: lex ys := by
    intro w hw
    rw [lex_blank rfl, lex_append_blank rfl, lex_word hw, List.singleton_append]
  cases k
  · exact hword ['A', 'N', 'D'] (by decide)
  · exact hword ['O', 'R'] (by decide)
  · exact hword ['A', 'N', 'D'] (by decide)

theorem apart_separator (k : Connective) (ys : List Char) : Apart ((separator k).toList ++ ys) := by
  cases k <;> exact apart_cons.2 rfl

/-- The connective takes what stands before it into the context of the next part. -/
theorem operator_separator {d : Dialect} {k : Connective}
    {before : Option (Formula (String × Predicate))} {f : Formula (String × Predicate)}
    {outer : List Formula.Context} {n : Nat} {q : List Literal} {rest : List Lexeme} :
    Formula.operator d (context k before).disjunction ((context k before).complete f) outer
        ⟨n, q, .word (match k with | .or => "OR" | _ => "AND").toList :: rest⟩ =
      Formula.operand d (context k (some (Formula.joined k.op before f))) outer ⟨n, q, rest⟩ := by
  cases k
  · exact Formula.operator_and
  · exact Formula.operator_or
  · exact Formula.operator_and

/-- At the end of a group all its parts are joined. -/
theorem joined_context (k : Connective) (before : Option (Formula (String × Predicate)))
    (f : Formula (String × Predicate)) :
    Formula.joined .or (context k before).disjunction ((context k before).complete f) =
      Formula.joined k.op before f := by
  cases k <;> rfl

/-- The context of an operand in a group, seen from outside of its parentheses. -/
def opened (k : Connective) (c : Formula.Context) : Formula.Context :=
  match k with
  | .not => { c with negations := c.negations + 1 }
  | _ => c

theorem operand_opening {d : Dialect} (k : Connective) {c : Formula.Context}
    {outer : List Formula.Context} {n : Nat} {q : List Literal} {ys : List Char} :
    Formula.operand d c outer ⟨n, q, lex ((opening k).toList ++ ys)⟩ =
      Formula.operand d (context k none) (opened k c :: outer) ⟨n, q, lex ys⟩ := by
  have hopen : lex ('(' :: ys) = .mark '(' :: lex ys := lex_mark rfl rfl _
  have hnot : lex ("NOT".toList ++ ' ' :: '(' :: ys) = .word "NOT".toList :: .mark '(' :: lex ys := by
    rw [lex_append_blank rfl, lex_word (by decide), hopen, List.singleton_append]
  cases k
  · exact (congrArg _ (congrArg _ hopen)).trans Formula.operand_open
  · exact (congrArg _ (congrArg _ hopen)).trans Formula.operand_open
  · exact (congrArg _ (congrArg _ hnot)).trans (Formula.operand_not.trans Formula.operand_open)

theorem operator_closing {d : Dialect} (k : Connective) {c : Formula.Context}
    {outer : List Formula.Context} {disjunction : Option (Formula (String × Predicate))}
    {conjunction : Formula (String × Predicate)} {n : Nat} {q : List Literal} {tail : List Char} :
    Formula.operator d disjunction conjunction (opened k c :: outer) ⟨n, q, lex (')' :: tail)⟩ =
      Formula.operator d c.disjunction
        (c.complete (k.wrap (Formula.joined .or disjunction conjunction))) outer
        ⟨n, q, lex tail⟩ := by
  have hclose : lex (')' :: tail) = .mark ')' :: lex tail := lex_mark rfl rfl _
  rw [hclose, Formula.operator_close]
  cases k <;> rfl

mutual

/-- **The text of a restriction is read as its formula**, in any context. -/
theorem operand_template {d : Dialect} : ∀ (r : Restriction) {f : Formula (String × Predicate)},
    r.formula? = some f → Readable r.tests →
    ∀ (c : Formula.Context) (outer : List Formula.Context) (n : Nat) (q : List Literal)
      (tail : List Char), Apart tail →
      Formula.operand d c outer
          ⟨n, testLiterals r.tests ++ q, lex (renderFrom d n r.template ++ tail)⟩ =
        Formula.operator d c.disjunction (c.complete f) outer
          ⟨n + (testLiterals r.tests).length, q, lex tail⟩
  | .test column p, f, hf, hr, c, outer, n, q, tail, ht => by
    cases hf
    obtain ⟨hcolumn, hlist⟩ := hr (column, p) (by simp [tests])
    have hlits : testLiterals (tests (.test column p)) = p.literals := by simp [testLiterals, tests]
    rw [hlits]
    exact Formula.operand_comparison (Input.comparison?_testTemplate hcolumn hlist ht)
  | .group k parts, f, hf, hr, c, outer, n, q, tail, ht => by
    obtain ⟨g, gs, hgs, rfl⟩ := formula?_group hf
    obtain ⟨disjunction, conjunction, hread, hjoined⟩ :=
      operand_templates k parts hgs hr none (opened k c :: outer) n q (')' :: tail) (by simp; rfl)
    have htext : renderFrom d n (template (.group k parts)) ++ tail =
        (opening k).toList ++
          (renderFrom d n (templates (separator k) parts) ++ ')' :: tail) := by
      simp [template, renderFrom_append]
    rw [htext, operand_opening, tests, hread, operator_closing, hjoined]
    rfl

/-- Parts of a group are read one after the other and joined to what stands before them. -/
theorem operand_templates {d : Dialect} (k : Connective) : ∀ (rs : List Restriction)
    {f : Formula (String × Predicate)} {fs : List (Formula (String × Predicate))},
    formulas? rs = some (f :: fs) → Readable (testsAll rs) →
    ∀ (before : Option (Formula (String × Predicate))) (outer : List Formula.Context) (n : Nat)
      (q : List Literal) (tail : List Char), Apart tail →
      ∃ disjunction conjunction,
        Formula.operand d (context k before) outer
            ⟨n, testLiterals (testsAll rs) ++ q,
              lex (renderFrom d n (templates (separator k) rs) ++ tail)⟩ =
          Formula.operator d disjunction conjunction outer
            ⟨n + (testLiterals (testsAll rs)).length, q, lex tail⟩ ∧
        Formula.joined .or disjunction conjunction = fs.foldl k.op (Formula.joined k.op before f)
  | [], f, fs, hf, hr, before, outer, n, q, tail, ht => by cases hf
  | [r], f, fs, hf, hr, before, outer, n, q, tail, ht => by
    obtain ⟨g, gs, hg, hgs, heq⟩ := formulas?_cons hf
    cases hgs
    cases heq
    rw [testsAll_singleton] at hr ⊢
    exact ⟨_, _, operand_template r hg hr (context k before) outer n q tail ht,
      joined_context k before f⟩
  | r :: r' :: rest, f, fs, hf, hr, before, outer, n, q, tail, ht => by
    obtain ⟨g, gs, hg, hgs, heq⟩ := formulas?_cons hf
    obtain ⟨f', fs', -, -, rfl⟩ := formulas?_cons hgs
    cases heq
    have hlits : testLiterals (testsAll (r :: r' :: rest)) =
        testLiterals r.tests ++ testLiterals (testsAll (r' :: rest)) := by
      simp [testLiterals, testsAll]
    have htext : renderFrom d n (templates (separator k) (r :: r' :: rest)) ++ tail =
        renderFrom d n r.template ++ ((separator k).toList ++
          (renderFrom d (n + (testLiterals r.tests).length) (templates (separator k) (r' :: rest)) ++
            tail)) := by
      simp [templates, renderFrom_append, literals_template]
    obtain ⟨disjunction, conjunction, hread, hjoined⟩ :=
      operand_templates k (r' :: rest) hgs (fun t ht' => hr t (List.mem_append_right _ ht'))
        (some (Formula.joined k.op before f)) outer (n + (testLiterals r.tests).length) q tail ht
    refine ⟨disjunction, conjunction, ?_, hjoined⟩
    rw [hlits, htext, List.append_assoc,
      operand_template r hg (fun t ht' => hr t (List.mem_append_left _ ht')) (context k before) outer
        n _ _ (apart_separator k _),
      lex_separator, operator_separator, hread, List.length_append, Nat.add_assoc]

end

end Restriction

end GuardedQuery
