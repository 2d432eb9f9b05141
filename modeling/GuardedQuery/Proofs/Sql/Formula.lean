import Mathlib.Data.Nat.Init
import GuardedQuery.Proofs.Condition.Truth
import GuardedQuery.Proofs.Text.Lexeme
import GuardedQuery.Sql.Template

/-!
# Reading a condition

`Formula.read? d parameters text` reads a text as a boolean expression: `NOT` binds before `AND`,
`AND` before `OR`, and parentheses group. A comparison, which is a column, an operator and the
placeholders of the operator, is one atom; where an operand is expected, a word in front of an
operator is a column, whatever the word is. Placeholders stand for the parameters, in order, and all
parameters are read.

The reader keeps what stands before the operand in the same parentheses (`Context`) and a stack of
these for the parentheses that are open.
-/

namespace GuardedQuery

open Text

/-- A boolean expression. -/
inductive Formula (α : Type) where
  | atom (a : α)
  | not (f : Formula α)
  | and (f g : Formula α)
  | or (f g : Formula α)
  deriving DecidableEq

namespace Formula

variable {α : Type}

/-- The atoms from left to right. -/
def atoms : Formula α → List α
  | atom a => [a]
  | not f => f.atoms
  | and f g => f.atoms ++ g.atoms
  | or f g => f.atoms ++ g.atoms

/-- The value when the atoms, numbered from left to right beginning with `k`, have the values `σ`. -/
def value (σ : Nat → Truth) (k : Nat) : Formula α → Truth
  | atom _ => σ k
  | not f => (f.value σ k).not
  | and f g => (f.value σ k).and (g.value σ (k + f.atoms.length))
  | or f g => (f.value σ k).or (g.value σ (k + f.atoms.length))

end Formula

/-! ## Comparisons -/

/-- What a reader has in front of it: the lexemes, the parameters that they bind, and how many were
bound before. -/
structure Input where
  bound : Nat
  parameters : List Literal
  lexemes : List Lexeme

namespace Input

/-- Reads the placeholder of the next parameter. -/
def literal? (d : Dialect) : Input → Option (Literal × Input)
  | ⟨n, v :: vs, .word w :: rest⟩ =>
    if w = d.placeholder (n + 1) then some (v, ⟨n + 1, vs, rest⟩) else none
  | _ => none

/-- Reads further placeholders, a comma before each, and the parenthesis that closes their list. -/
def literals? (d : Dialect) (n : Nat) (vs : List Literal) :
    List Lexeme → Option (List Literal × Input)
  | .mark ')' :: rest => some ([], ⟨n, vs, rest⟩)
  | .mark ',' :: .word w :: rest =>
    match vs with
    | [] => none
    | v :: vs =>
      if w = d.placeholder (n + 1) then
        (literals? d (n + 1) vs rest).map fun (ls, input) => (v :: ls, input)
      else none
  | _ => none

/-- Reads a list of placeholders in parentheses. -/
def list? (d : Dialect) (input : Input) : Option (List Literal × Input) :=
  match input.lexemes with
  | .mark '(' :: rest => do
    let (v, input) ← literal? d { input with lexemes := rest }
    let (vs, input) ← literals? d input.bound input.parameters input.lexemes
    return (v :: vs, input)
  | _ => none

/-- Reads an operator. -/
def operator? (input : Input) : Option (Operator × Input) :=
  (Operator.all.find? fun op => (lex op.sql.toList).isPrefixOf input.lexemes).map fun op =>
    (op, { input with lexemes := input.lexemes.drop (lex op.sql.toList).length })

/-- Reads the placeholders of an operator. -/
def predicate? (d : Dialect) (op : Operator) (input : Input) : Option (Predicate × Input) :=
  match op with
  | .compare c => (literal? d input).map fun (v, input) => (.compare c v, input)
  | .member negated => (list? d input).map fun (vs, input) => (.member negated vs, input)
  | .like =>
    match literal? d input with
    | some (.text pattern, input) => some (.like pattern, input)
    | _ => none
  | .null negated => some (.null negated, input)

/-- Reads a comparison: a column, an operator and its placeholders. -/
def comparison? (d : Dialect) (input : Input) : Option ((String × Predicate) × Input) :=
  match input.lexemes with
  | .word column :: rest => do
    let (op, input) ← operator? { input with lexemes := rest }
    let (p, input) ← predicate? d op input
    return ((String.ofList column, p), input)
  | _ => none

/-! A comparison takes at least one lexeme, so that reading comes to an end. -/

theorem literal?_length {d : Dialect} {input input' : Input} {v : Literal}
    (h : literal? d input = some (v, input')) : input'.lexemes.length ≤ input.lexemes.length := by
  unfold literal? at h
  split at h
  · rw [Option.ite_none_right_eq_some, Option.some.injEq, Prod.mk.injEq] at h
    obtain ⟨-, -, rfl⟩ := h
    simp
  · cases h

theorem literals?_length {d : Dialect} {n : Nat} {vs : List Literal} {lexemes : List Lexeme}
    {ls : List Literal} {input : Input} (h : literals? d n vs lexemes = some (ls, input)) :
    input.lexemes.length ≤ lexemes.length := by
  fun_induction literals? d n vs lexemes generalizing ls with
  | case1 n vs rest =>
    cases h
    simp
  | case2 => cases h
  | case3 n rest v vs ih =>
    obtain ⟨⟨ls', input'⟩, hrest, heq⟩ := Option.map_eq_some_iff.1 h
    cases heq
    have := ih hrest
    simp only [List.length_cons]
    omega
  | case4 => cases h
  | case5 => cases h

theorem list?_length {d : Dialect} {input input' : Input} {ls : List Literal}
    (h : list? d input = some (ls, input')) : input'.lexemes.length ≤ input.lexemes.length := by
  unfold list? at h
  split at h
  · rename_i rest heq
    simp only [bind, pure, Option.bind_eq_some_iff, Option.some.injEq, Prod.mk.injEq] at h
    obtain ⟨⟨v, input₁⟩, hv, ⟨vs, input₂⟩, hvs, -, rfl⟩ := h
    have h₁ := literal?_length hv
    have h₂ := literals?_length hvs
    rw [heq, List.length_cons]
    exact Nat.le_succ_of_le (Nat.le_trans h₂ h₁)
  · cases h

theorem operator?_length {input input' : Input} {op : Operator}
    (h : operator? input = some (op, input')) : input'.lexemes.length ≤ input.lexemes.length := by
  obtain ⟨op', -, heq⟩ := Option.map_eq_some_iff.1 h
  cases heq
  simp

theorem predicate?_length {d : Dialect} {op : Operator} {input input' : Input} {p : Predicate}
    (h : predicate? d op input = some (p, input')) :
    input'.lexemes.length ≤ input.lexemes.length := by
  unfold predicate? at h
  split at h
  · obtain ⟨⟨v, input₁⟩, hv, heq⟩ := Option.map_eq_some_iff.1 h
    cases heq
    exact literal?_length hv
  · obtain ⟨⟨vs, input₁⟩, hvs, heq⟩ := Option.map_eq_some_iff.1 h
    cases heq
    exact list?_length hvs
  · split at h
    · rename_i hv
      cases h
      exact literal?_length hv
    · cases h
  · cases h
    exact Nat.le_refl _

theorem comparison?_length {d : Dialect} {input input' : Input} {x : String × Predicate}
    (h : comparison? d input = some (x, input')) :
    input'.lexemes.length < input.lexemes.length := by
  unfold comparison? at h
  split at h
  · rename_i column rest heq
    simp only [bind, pure, Option.bind_eq_some_iff, Option.some.injEq, Prod.mk.injEq] at h
    obtain ⟨⟨op, input₁⟩, hop, ⟨p, input₂⟩, hp, -, rfl⟩ := h
    have h₁ := operator?_length hop
    have h₂ := predicate?_length hp
    rw [heq, List.length_cons]
    exact Nat.lt_succ_of_le (Nat.le_trans h₂ h₁)
  · cases h

end Input

/-! ## Connectives -/

namespace Formula

/-- Puts `NOT` in front of a formula, some times. -/
def negate {α : Type} : Nat → Formula α → Formula α
  | 0, f => f
  | n + 1, f => negate n (.not f)

/-- Joins a formula to what stands before it, if anything does. -/
def joined {α : Type} (op : Formula α → Formula α → Formula α) :
    Option (Formula α) → Formula α → Formula α
  | none, f => f
  | some g, f => op g f

/-- What stands before an operand in the same parentheses. -/
structure Context where
  /-- Before the last `OR`. -/
  disjunction : Option (Formula (String × Predicate))
  /-- Between the last `OR` and the last `AND`. -/
  conjunction : Option (Formula (String × Predicate))
  /-- How many `NOT`s stand right before the operand. -/
  negations : Nat

/-- Nothing stands before the operand. -/
def Context.start : Context := ⟨none, none, 0⟩

/-- The conjunction that ends with an operand. -/
def Context.complete (c : Context) (f : Formula (String × Predicate)) :
    Formula (String × Predicate) :=
  joined .and c.conjunction (negate c.negations f)

mutual

/-- Reads on where an operand is expected. `outer` are the contexts of open parentheses. -/
def operand (d : Dialect) (c : Context) (outer : List Context) (input : Input) :
    Option (Formula (String × Predicate)) :=
  match _h : input.comparison? d with
  | some (x, input') => operator d c.disjunction (c.complete (.atom x)) outer input'
  | none =>
    match input with
    | ⟨n, vs, .mark '(' :: rest⟩ => operand d .start (c :: outer) ⟨n, vs, rest⟩
    | ⟨n, vs, .word w :: rest⟩ =>
      if w = "NOT".toList then
        operand d { c with negations := c.negations + 1 } outer ⟨n, vs, rest⟩
      else none
    | _ => none
termination_by input.lexemes.length
decreasing_by
  · exact Input.comparison?_length _h
  · simp
  · simp

/-- Reads on behind an operand, where an operator, a closing parenthesis or the end is expected. -/
def operator (d : Dialect) (disjunction : Option (Formula (String × Predicate)))
    (conjunction : Formula (String × Predicate)) (outer : List Context) (input : Input) :
    Option (Formula (String × Predicate)) :=
  match input with
  | ⟨_, [], []⟩ => if outer.isEmpty then some (joined .or disjunction conjunction) else none
  | ⟨n, vs, .mark ')' :: rest⟩ =>
    match outer with
    | [] => none
    | c :: outer =>
      operator d c.disjunction (c.complete (joined .or disjunction conjunction)) outer ⟨n, vs, rest⟩
  | ⟨n, vs, .word w :: rest⟩ =>
    if w = "AND".toList then operand d ⟨disjunction, some conjunction, 0⟩ outer ⟨n, vs, rest⟩
    else if w = "OR".toList then
      operand d ⟨some (joined .or disjunction conjunction), none, 0⟩ outer ⟨n, vs, rest⟩
    else none
  | _ => none
termination_by input.lexemes.length

end

/-- The boolean expression of a text whose placeholders stand for some parameters. -/
def read? (d : Dialect) (parameters : List Literal) (text : String) :
    Option (Formula (String × Predicate)) :=
  operand d .start [] ⟨0, parameters, lex text.toList⟩

/-! ## Steps of the reader -/

section
variable {d : Dialect} {c : Context} {outer : List Context} {n : Nat} {vs : List Literal}
  {rest : List Lexeme} {disjunction : Option (Formula (String × Predicate))}
  {conjunction : Formula (String × Predicate)}

theorem operand_comparison {input input' : Input} {x : String × Predicate}
    (h : input.comparison? d = some (x, input')) :
    operand d c outer input =
      operator d c.disjunction (c.complete (.atom x)) outer input' := by
  rw [operand]
  split
  · rename_i x' input'' h'
    rw [h, Option.some.injEq, Prod.mk.injEq] at h'
    rw [h'.1, h'.2]
  · rename_i h'
    rw [h] at h'
    cases h'

theorem operand_open :
    operand d c outer ⟨n, vs, .mark '(' :: rest⟩ = operand d .start (c :: outer) ⟨n, vs, rest⟩ := by
  rw [operand]
  rfl

/-- A parenthesis is no operator, so `NOT` in front of it is no column. -/
theorem operand_not :
    operand d c outer ⟨n, vs, .word "NOT".toList :: .mark '(' :: rest⟩ =
      operand d { c with negations := c.negations + 1 } outer ⟨n, vs, .mark '(' :: rest⟩ := by
  rw [operand]
  rfl

theorem operator_end : operator d disjunction conjunction [] ⟨n, [], []⟩ =
    some (joined .or disjunction conjunction) := by
  rw [operator]
  rfl

theorem operator_close : operator d disjunction conjunction (c :: outer) ⟨n, vs, .mark ')' :: rest⟩ =
    operator d c.disjunction (c.complete (joined .or disjunction conjunction)) outer
      ⟨n, vs, rest⟩ := by
  rw [operator]

theorem operator_and :
    operator d disjunction conjunction outer ⟨n, vs, .word "AND".toList :: rest⟩ =
      operand d ⟨disjunction, some conjunction, 0⟩ outer ⟨n, vs, rest⟩ := by
  rw [operator, if_pos rfl]

theorem operator_or :
    operator d disjunction conjunction outer ⟨n, vs, .word "OR".toList :: rest⟩ =
      operand d ⟨some (joined .or disjunction conjunction), none, 0⟩ outer ⟨n, vs, rest⟩ := by
  rw [operator, if_neg (by decide), if_pos rfl]

end

end Formula

end GuardedQuery
