namespace Querysmith

inductive Operation where
  | select
  | insert
  | update
  | delete
deriving DecidableEq

def Operation.name : Operation → String
  | select => "select"
  | insert => "insert"
  | update => "update"
  | delete => "delete"

end Querysmith
