import GuardedQuery.Literal

/-!
# Predicates

A predicate is an operator with its argument, so that a membership test without a list or a null
check with a value cannot be built. A membership test may hold an empty list; the compiler refuses
it.
-/

namespace GuardedQuery

/-- Comparison with one value. -/
inductive Comparison where
  | equals
  | notEquals
  | greater
  | less
  | greaterOrEqual
  | lessOrEqual
  deriving DecidableEq, Repr

/-- The operator of a predicate. -/
inductive Operator where
  | compare (c : Comparison)
  | member (negated : Bool)
  | like
  | null (negated : Bool)
  deriving DecidableEq, Repr

namespace Operator

/-- The name that clients use. -/
def name : Operator → String
  | .compare .equals => "EQUALS"
  | .compare .notEquals => "NOT_EQUALS"
  | .compare .greater => "GT"
  | .compare .less => "LT"
  | .compare .greaterOrEqual => "GTE"
  | .compare .lessOrEqual => "LTE"
  | .member false => "IN"
  | .member true => "NOT_IN"
  | .like => "LIKE"
  | .null false => "IS_NULL"
  | .null true => "IS_NOT_NULL"

/-- The SQL token. -/
def sql : Operator → String
  | .compare .equals => "="
  | .compare .notEquals => "<>"
  | .compare .greater => ">"
  | .compare .less => "<"
  | .compare .greaterOrEqual => ">="
  | .compare .lessOrEqual => "<="
  | .member false => "IN"
  | .member true => "NOT IN"
  | .like => "LIKE"
  | .null false => "IS NULL"
  | .null true => "IS NOT NULL"

/-- All operators, in the order in which messages list them. -/
def all : List Operator :=
  [.compare .equals, .compare .notEquals, .compare .greater, .compare .less,
   .compare .greaterOrEqual, .compare .lessOrEqual, .member false, .member true, .like, .null false,
   .null true]

end Operator

/-- An operator with its argument. -/
inductive Predicate where
  | compare (c : Comparison) (value : Literal)
  | member (negated : Bool) (values : List Literal)
  | like (pattern : String)
  | null (negated : Bool)
  deriving DecidableEq

/-- Why an operator does not fit its argument. -/
inductive PredicateError where
  | unexpectedValue (op : Operator)
  | listRequired (op : Operator)
  | emptyList (op : Operator)
  | patternRequired
  | valueRequired (op : Operator)
  | literal (op : Operator) (e : LiteralError)
  deriving DecidableEq, Repr

def PredicateError.message : PredicateError → String
  | .unexpectedValue op => op.name ++ " does not take a value"
  | .listRequired op => op.name ++ " requires a list value"
  | .emptyList op => op.name ++ " requires a non-empty list"
  | .patternRequired => "LIKE requires a string value"
  | .valueRequired op => op.name ++ " requires a non-null value"
  | .literal op e => op.name ++ ": " ++ e.message

namespace Predicate

def operator : Predicate → Operator
  | .compare c _ => .compare c
  | .member negated _ => .member negated
  | .like _ => .like
  | .null negated => .null negated

/-- The parameters that the predicate binds, in order. -/
def literals : Predicate → List Literal
  | .compare _ v => [v]
  | .member _ vs => vs
  | .like p => [.text p]
  | .null _ => []

/-- The literals of some JSON values, for an operator; the first error counts. -/
def literalsOfJson (op : Operator) : List Json → Except PredicateError (List Literal)
  | [] => .ok []
  | j :: rest =>
    match Literal.ofJson j with
    | .error e => .error (.literal op e)
    | .ok l => (literalsOfJson op rest).map (l :: ·)

/-- The predicate of an operator and the JSON form of its argument. A value of `null` is the same as
none. -/
def ofParts (op : Operator) (value : Option Json) : Except PredicateError Predicate :=
  let value := value.filter fun j => !j.isNull
  match op, value with
  | .null negated, none => .ok (.null negated)
  | .null _, some _ => .error (.unexpectedValue op)
  | .member _, some (.array []) => .error (.emptyList op)
  | .member negated, some (.array items) => (literalsOfJson op items).map (.member negated)
  | .member _, _ => .error (.listRequired op)
  | .like, some (.string pattern) => .ok (.like pattern)
  | .like, _ => .error .patternRequired
  | .compare _, none => .error (.valueRequired op)
  | .compare c, some j =>
    match Literal.ofJson j with
    | .error e => .error (.literal op e)
    | .ok l => .ok (.compare c l)

/-- The JSON form of the argument. -/
def argument? : Predicate → Option Json
  | .compare _ v => some v.toJson
  | .member _ vs => some (.array (vs.map Literal.toJson))
  | .like p => some (.string p)
  | .null _ => none

/-- Equality as values (`Literal.same`). -/
def same : Predicate → Predicate → Bool
  | .compare c v, .compare d w => c = d && v.same w
  | .member m vs, .member n ws =>
    m == n && vs.length == ws.length && (vs.zip ws).all fun (v, w) => v.same w
  | p, q => decide (p = q)

end Predicate

end GuardedQuery
