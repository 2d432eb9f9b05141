import GuardedQuery.Proofs.Condition.Truth
import GuardedQuery.Proofs.Statement.Text

/-!
# Literals decide nothing

Blanking a request replaces every literal in it by a fixed one and keeps all else: names, operators
and the lengths of lists (`Literal.map_blank_eq_iff`). Checking and blanking commute (`check_blank`),
and a template renders as its blanked form does (`renderFrom_blank`), so requests with equal blanks
have the same error or the same text: `Payload.compile_blind`.
-/

namespace GuardedQuery

open Template

/-! ## Blanking requests -/

/-- Stands for any literal. -/
def Literal.blank (_ : Literal) : Literal := .bool false

/-- The predicate without its literals. -/
def Predicate.blank : Predicate → Predicate
  | .compare c v => .compare c v.blank
  | .member negated vs => .member negated (vs.map Literal.blank)
  | .like _ => .like ""
  | .null negated => .null negated

theorem Literal.map_blank_eq_iff {vs ws : List Literal} :
    vs.map blank = ws.map blank ↔ vs.length = ws.length := by
  have hblank : blank = fun _ => Literal.bool false := rfl
  rw [hblank, List.map_const', List.map_const', List.replicate_inj]
  simp

namespace Node

mutual

def blank : Node String → Node String
  | .condition key p => .condition key p.blank
  | .group c nodes => .group c (blankAll nodes)

def blankAll : List (Node String) → List (Node String)
  | [] => []
  | n :: rest => n.blank :: blankAll rest

end

end Node

def Group.blank (g : Group String) : Group String := ⟨g.connective, Node.blankAll g.nodes⟩

/-- The override without the literals of its scope. -/
def Override.blank (o : Override) : Override := { o with scope := o.scope.map Group.blank }

/-- The payload without the literals of its filter. -/
def Payload.blank (p : Payload String) : Payload String :=
  { p with filter := p.filter.map Group.blank }

/-! ## Blanking what is made of them -/

namespace Restriction

mutual

def blank : Restriction → Restriction
  | .test column p => .test column p.blank
  | .group c parts => .group c (blankAll parts)

def blankAll : List Restriction → List Restriction
  | [] => []
  | r :: rest => r.blank :: blankAll rest

end

theorem blankAll_append (rs ss : List Restriction) :
    blankAll (rs ++ ss) = blankAll rs ++ blankAll ss := by
  induction rs with
  | nil => rfl
  | cons r rs ih => rw [List.cons_append, blankAll, blankAll, ih, List.cons_append]

theorem isEmpty_blankAll (rs : List Restriction) : (blankAll rs).isEmpty = rs.isEmpty := by
  cases rs <;> rfl

end Restriction

namespace Template

/-- The template without its literals. -/
def blank : Template → Template
  | [] => []
  | .text s :: t => .text s :: blank t
  | .bind l :: t => .bind l.blank :: blank t

@[simp] theorem blank_text (s : String) (t : Template) : blank (.text s :: t) = .text s :: t.blank := rfl

@[simp] theorem blank_bind (l : Literal) (t : Template) :
    blank (.bind l :: t) = .bind l.blank :: t.blank := rfl

@[simp] theorem blank_append (t u : Template) : blank (t ++ u) = t.blank ++ u.blank := by
  induction t with
  | nil => rfl
  | cons piece t ih => cases piece <;> simp [blank, ih]

/-- Literals are not written. -/
theorem renderFrom_blank (d : Dialect) (n : Nat) (t : Template) :
    renderFrom d n t.blank = renderFrom d n t := by
  induction t generalizing n with
  | nil => rfl
  | cons piece t ih => cases piece <;> simp [blank, ih]

theorem length_literals_blank (t : Template) : t.blank.literals.length = t.literals.length := by
  induction t with
  | nil => rfl
  | cons piece t ih => cases piece <;> simp [blank, ih]

theorem blank_separated (separator : String) (ts : List Template) :
    (separated separator ts).blank = separated separator (ts.map blank) := by
  induction ts with
  | nil => rfl
  | cons t rest ih =>
    cases rest with
    | nil => rfl
    | cons u rest =>
      show blank (t ++ .text separator :: separated separator (u :: rest)) =
        t.blank ++ .text separator :: separated separator ((u :: rest).map blank)
      rw [blank_append, blank, ih]

theorem blank_bindAll (ls : List Literal) : (bindAll ls).blank = bindAll (ls.map Literal.blank) := by
  rw [bindAll, bindAll, blank, blank_append, blank_separated, List.map_map, List.map_map]
  rfl

end Template

/-! ## Checking and rendering -/

namespace Restriction

theorem ofCondition_blank (columns : List Column) (key : String) (p : Predicate) :
    ofCondition columns key p.blank = (ofCondition columns key p).map blank := by
  unfold ofCondition
  cases Target.column columns .filter key with
  | error e => rfl
  | ok c =>
    cases p with
    | compare c v => rfl
    | member negated vs => cases vs <;> rfl
    | like pattern => rfl
    | null negated => rfl

mutual

theorem ofNode_blank (columns : List Column) (max depth : Nat) : ∀ n : Node String,
    ofNode columns max depth n.blank = (ofNode columns max depth n).map (Option.map blank)
  | .condition key p => by
    rw [Node.blank, ofNode, ofNode, ofCondition_blank]
    cases ofCondition columns key p <;> rfl
  | .group c nodes => by
    rw [Node.blank, ofNode, ofNode, ofNodes_blank columns max (depth + 1) nodes]
    split
    · rfl
    · rcases ofNodes columns max (depth + 1) nodes with e | _ | ⟨r, rest⟩ <;> rfl

/-- **Checking commutes with blanking**: no literal is looked at. -/
theorem ofNodes_blank (columns : List Column) (max depth : Nat) : ∀ nodes : List (Node String),
    ofNodes columns max depth (Node.blankAll nodes) =
      (ofNodes columns max depth nodes).map blankAll
  | [] => rfl
  | n :: rest => by
    rw [Node.blankAll, ofNodes, ofNodes, ofNode_blank columns max depth n,
      ofNodes_blank columns max depth rest]
    rcases ofNode columns max depth n with e | part
    · rfl
    · rcases ofNodes columns max depth rest with e | parts
      · rfl
      · cases part <;> rfl

end

theorem ofFilters_blank (columns : List Column) (max : Nat) (scope filter : Option (Group String)) :
    ofFilters columns max (scope.map Group.blank) (filter.map Group.blank) =
      (ofFilters columns max scope filter).map blankAll := by
  have hnodes : ((scope.map Group.blank).toList ++ (filter.map Group.blank).toList).map Group.toNode =
      Node.blankAll ((scope.toList ++ filter.toList).map Group.toNode) := by
    cases scope <;> cases filter <;> rfl
  rw [ofFilters, hnodes, ofNodes_blank, ofFilters]

theorem blank_testTemplate (column : String) (p : Predicate) :
    (testTemplate column p.blank).blank = (testTemplate column p).blank := by
  cases p with
  | compare c v => rfl
  | member negated vs =>
    simp only [testTemplate, Predicate.blank, Template.blank, blank_bindAll, List.map_map]
    rfl
  | like pattern => rfl
  | null negated => rfl

mutual

theorem blank_template : ∀ r : Restriction, r.blank.template.blank = r.template.blank
  | .test column p => blank_testTemplate column p
  | .group c parts => by
    rw [blank, template, template, Template.blank, Template.blank, blank_append, blank_append,
      blank_templates (separator c) parts]

/-- Blanked restrictions have the same text. -/
theorem blank_templates (separator : String) : ∀ rs : List Restriction,
    (templates separator (blankAll rs)).blank = (templates separator rs).blank
  | [] => rfl
  | [r] => blank_template r
  | r :: r' :: rest => by
    have ih := blank_templates separator (r' :: rest)
    rw [blankAll] at ih
    rw [blankAll, blankAll, templates_cons_cons, templates_cons_cons, blank_append, blank_append,
      Template.blank, Template.blank, ih, blank_template r]

end

theorem blank_clause (rs : List Restriction) : (clause (blankAll rs)).blank = (clause rs).blank := by
  rw [clause, clause, isEmpty_blankAll]
  split
  · rfl
  · rw [Template.blank, Template.blank, blank_templates]

end Restriction

/-! ## Compiling -/

namespace Payload

variable {a : Allowlist} {d : Dialect} {o : Override} {p : Payload String}

/-- The checked request without the literals of its restrictions. -/
def Checked.blank (c : Checked) : Checked :=
  { c with select := { c.select with restrictions := Restriction.blankAll c.select.restrictions } }

theorem check_blank (a : Allowlist) (o : Override) (fallback : Option String) (p : Payload String) :
    check a o.blank fallback p.blank = (check a o fallback p).map Checked.blank := by
  have hfind : ∀ requested, Target.find a requested p.joins o.blank =
      Target.find a requested p.joins o := fun _ => rfl
  have hwindow : p.blank.checkWindow = p.checkWindow := rfl
  unfold check
  dsimp only [Payload.blank, Override.blank] at hfind hwindow ⊢
  rw [hwindow]
  simp only [hfind, Restriction.ofFilters_blank]
  split
  · rfl
  · cases p.checkWindow with
    | error e => rfl
    | ok window =>
      cases Target.find a (o.table <|> p.source <|> fallback) p.joins o with
      | error e => rfl
      | ok target =>
        dsimp only [bind, Except.bind]
        cases Selection.ofKeys target.columns p.select with
        | error e => rfl
        | ok selection =>
          dsimp only
          cases Restriction.ofFilters target.columns a.maxDepth.toNat o.scope p.filter with
          | error e => rfl
          | ok restrictions =>
            dsimp only [Except.map]
            cases orderTerms target.columns p.order <;> rfl

/-- What a statement shows without its parameters. -/
def shown (s : Statement) : Dialect × String × Outline × Nat :=
  (s.dialect, s.sql, s.outline, s.parameterCount)

theorem shown_blank (d : Dialect) (c : Checked) :
    shown (c.blank.statement d) = shown (c.statement d) := by
  have htemplate : (c.blank.select.template d).blank = (c.select.template d).blank := by
    simp [Checked.blank, Select.template, Select.body, Restriction.blank_clause]
  have hsql : (c.blank.statement d).sql = (c.statement d).sql := by
    simp only [Checked.statement, Statement.sql_ofTemplate, Template.render]
    rw [← renderFrom_blank, htemplate, renderFrom_blank]
  have hcount : (c.blank.statement d).parameterCount = (c.statement d).parameterCount := by
    simp only [Checked.statement, Statement.parameterCount_ofTemplate]
    rw [← length_literals_blank, htemplate, length_literals_blank]
  have houtline : (c.blank.statement d).outline = (c.statement d).outline := by
    simp [Checked.statement, Checked.blank, Restriction.isEmpty_blankAll]
  rw [shown, shown, hsql, hcount, houtline]
  rfl

/-- Compiling shows the same as compiling without literals. -/
theorem compile_blank (a : Allowlist) (d : Dialect) (o : Override) (p : Payload String) :
    (compile a d o.blank p.blank).map shown = (compile a d o p).map shown := by
  rw [compile, compile, check_blank]
  cases check a o none p with
  | error e => rfl
  | ok c => exact congrArg Except.ok (shown_blank d c)

/-- The literals of a scope and a filter, from left to right. -/
def boundLiterals (scope filter : Option (Group String)) : List Literal :=
  (Group.conditions? scope ++ Group.conditions? filter).flatMap fun x => x.2.literals

/-- Every literal is bound once, in its place. -/
theorem parameters_compile {s : Statement} (hs : p.compile a d o = .ok s) :
    s.parameters = Parameter.number (boundLiterals o.scope p.filter) := by
  obtain ⟨c, hc, rfl⟩ := compile_ok hs
  obtain ⟨target, -, -, -, hrestrictions, -⟩ := check_ok hc
  obtain ⟨htests, -⟩ := Restriction.ofNodes_tests _ hrestrictions
  rw [List.map_append, Node.conditionsAll_append, Group.conditionsAll_toList,
    Group.conditionsAll_toList] at htests
  have hliterals := Restriction.testLiterals_of_testOf? htests
  simp only [Checked.statement, Statement.ofTemplate, Select.literals_template, hliterals]
  rfl

/-- **Literals decide nothing.** Two requests that differ in literals only have the same error, or
they have the same text and description, and each binds its own literals, those of the scope first,
from left to right. -/
theorem compile_blind (a : Allowlist) (d : Dialect) {o₁ o₂ : Override} {p₁ p₂ : Payload String}
    (ho : o₁.blank = o₂.blank) (hp : p₁.blank = p₂.blank) :
    (∃ e, p₁.compile a d o₁ = .error e ∧ p₂.compile a d o₂ = .error e) ∨
      ∃ s₁ s₂, p₁.compile a d o₁ = .ok s₁ ∧ p₂.compile a d o₂ = .ok s₂ ∧
        s₁.sql = s₂.sql ∧ s₁.dialect = s₂.dialect ∧ s₁.outline = s₂.outline ∧
        s₁.parameterCount = s₂.parameterCount ∧
        s₁.parameters = Parameter.number (boundLiterals o₁.scope p₁.filter) ∧
        s₂.parameters = Parameter.number (boundLiterals o₂.scope p₂.filter) := by
  have hshown : (p₁.compile a d o₁).map shown = (p₂.compile a d o₂).map shown := by
    rw [← compile_blank, ho, hp, compile_blank]
  cases h₁ : p₁.compile a d o₁ with
  | error e =>
    cases h₂ : p₂.compile a d o₂ with
    | error e' =>
      rw [h₁, h₂] at hshown
      cases hshown
      exact .inl ⟨e, rfl, rfl⟩
    | ok s₂ =>
      rw [h₁, h₂] at hshown
      cases hshown
  | ok s₁ =>
    cases h₂ : p₂.compile a d o₂ with
    | error e =>
      rw [h₁, h₂] at hshown
      cases hshown
    | ok s₂ =>
      rw [h₁, h₂] at hshown
      have heq : shown s₁ = shown s₂ := Except.ok.inj hshown
      simp only [shown, Prod.mk.injEq] at heq
      obtain ⟨hdialect, hsql, houtline, hcount⟩ := heq
      exact .inr ⟨s₁, s₂, rfl, rfl, hsql, hdialect, houtline, hcount, parameters_compile h₁,
        parameters_compile h₂⟩

/-- A request with some literals, one of them in a group of its own. -/
def requestOf (v w : Literal) (pattern : String) : Payload String :=
  ⟨["name"], none, [], some ⟨.not, [.group .or [], .group .or [.condition "id" (.member true [v, w])],
    .condition "name" (.like pattern), .condition "tenant_id" (.null false)]⟩, [], some 5, none⟩

/-- A scope with a literal. -/
def scopeOf (tenant : Literal) : Override :=
  ⟨some "items", [], some ⟨.and, [.condition "tenant_id" (.compare .equals tenant)]⟩⟩

theorem compile_blind_requestOf :
    (scopeOf (.int 7)).blank = (scopeOf (.text "0 OR 1=1")).blank ∧
      (requestOf (.int 1) (.int 2) "a%").blank =
        (requestOf (.bool true) (.text "'); --") "?").blank ∧
      ((∃ e, (requestOf (.int 1) (.int 2) "a%").compile .sample .mssql (scopeOf (.int 7)) = .error e ∧
          (requestOf (.bool true) (.text "'); --") "?").compile .sample .mssql
            (scopeOf (.text "0 OR 1=1")) = .error e) ∨
        ∃ s₁ s₂, (requestOf (.int 1) (.int 2) "a%").compile .sample .mssql (scopeOf (.int 7)) = .ok s₁ ∧
          (requestOf (.bool true) (.text "'); --") "?").compile .sample .mssql
            (scopeOf (.text "0 OR 1=1")) = .ok s₂ ∧
          s₁.sql = s₂.sql ∧ s₁.dialect = s₂.dialect ∧ s₁.outline = s₂.outline ∧
          s₁.parameterCount = s₂.parameterCount ∧
          s₁.parameters = Parameter.number [.int 7, .int 1, .int 2, .text "a%"] ∧
          s₂.parameters =
            Parameter.number [.text "0 OR 1=1", .bool true, .text "'); --", .text "?"]) :=
  ⟨rfl, rfl, compile_blind .sample .mssql rfl rfl⟩

end Payload

end GuardedQuery
