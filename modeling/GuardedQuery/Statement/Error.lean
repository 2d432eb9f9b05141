import GuardedQuery.Condition.Predicate
import GuardedQuery.Decode.Error
import GuardedQuery.Dialect

/-!
# Compilation errors

No statement is made when a request is malformed, when it names something outside the allowlist, or
when the dialect lacks what it needs.
-/

namespace GuardedQuery

open Decode (tick)

/-- Where in a request a rejected name stood. -/
inductive Position where
  | table
  | select
  | filter
  | sort
  | join
  | column
  deriving DecidableEq, Repr

def Position.text : Position → String
  | .table => "table"
  | .select => "select column"
  | .filter => "filter key"
  | .sort => "sort key"
  | .join => "join"
  | .column => "column"

/-- What is wrong with the structure of a request. -/
inductive Malformation where
  | emptySelect
  | zeroLimit
  | windowTooLarge
  | noTable
  | tooDeep (max : Nat)
  | emptyList (op : Operator)
  | noKeys
  | noParentKeys
  | noChildColumns
  | childOfView
  | childColumnNotPlain
  | nothingInserted
  | setTwice (key : String)
  | unspecified
  /-- A complaint of the caller in its own words. -/
  | note (text : String)
  deriving DecidableEq, Repr

def Malformation.message : Malformation → String
  | .emptySelect => "select must list at least one column"
  | .zeroLimit => "limit must be a positive integer"
  | .windowTooLarge => "limit and offset must fit in a signed 64-bit integer"
  | .noTable => "no table or view specified"
  | .tooDeep max => "condition tree exceeds the maximum depth of " ++ toString max
  | .emptyList op => op.name ++ " requires a non-empty list"
  | .noKeys => "key lookup requires at least one key"
  | .noParentKeys => "child fetch requires at least one key"
  | .noChildColumns => "child relation must list at least one column"
  | .childOfView => "child relation must target a base table"
  | .childColumnNotPlain => "child relation columns must be plain column names"
  | .nothingInserted => "insert must set at least one column"
  | .setTwice key => "column " ++ tick key ++ " is set twice"
  | .unspecified => "malformed payload"
  | .note text => text

/-- Why no statement was made. -/
inductive CompileError where
  | malformed (m : Malformation)
  /-- The key is the client's own; the allowlist is never shown. -/
  | denied (position : Position) (key : String)
  /-- The dialect cannot fold rows into JSON. -/
  | noAggregation (d : Dialect)
  deriving DecidableEq, Repr

def CompileError.message : CompileError → String
  | .malformed m => "malformed payload: " ++ m.message
  | .denied position key => tick key ++ " is not permitted as a " ++ position.text
  | .noAggregation d => "child aggregation is not supported by the " ++ d.name ++ " dialect"

end GuardedQuery
