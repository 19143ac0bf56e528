import Querysmith.Value

namespace Querysmith

structure Statement where
  sql : String
  params : List Value
deriving DecidableEq

/-- Every question mark counts, also one inside a literal. -/
def Statement.placeholderCount (s : Statement) : Nat :=
  s.sql.toList.count '?'

end Querysmith
