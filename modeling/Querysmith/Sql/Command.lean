import Querysmith.Sql.Expr

namespace Querysmith.Sql

/-- How a name is written. Between double quotes it may turn out to be a text. -/
inductive Quoting where
  | plain
  | double
  | other
deriving DecidableEq

structure TableName where
  schema : Option String
  table : String
deriving DecidableEq

def TableName.text (n : TableName) : String :=
  match n.schema with
  | none => n.table
  | some s => s ++ "." ++ n.table

structure Reference where
  table : Option TableName
  column : String
  quoting : Quoting
  position : Nat
deriving DecidableEq

inductive Output where
  | all (table : Option String)
  | value (e : Expr Reference) (label : Option String) (written : String)

/-- A key to sort by, with the place of its first number. Rows without a value come first unless
the order is a descending one; the term may say otherwise. -/
structure SortTerm where
  key : Expr Reference
  descending : Bool
  nullsLast : Bool
  numberAt : Option Nat

structure Source where
  name : TableName
  label : Option String

/-- Behind the rows of a source there may be rows of values; only without them is there an order or
a limit. -/
structure Select where
  distinct : Bool
  outputs : List Output
  source : Option Source
  filter : Option (Expr Reference)
  values : List (List (Expr Reference))
  order : List SortTerm
  limit : Option (Expr Reference)
  offset : Option (Expr Reference)

inductive Command where
  | select (s : Select)
  | insert (table : TableName) (columns : Option (List String)) (values : List (Expr Reference))
  | update (table : TableName) (changes : List (String × Expr Reference))
      (filter : Option (Expr Reference))
  | delete (table : TableName) (filter : Option (Expr Reference))

end Querysmith.Sql
