import Querysmith.Options
import Querysmith.Record
import Querysmith.Selection

namespace Querysmith

inductive Event where
  | compiled (operation : Operation) (sql : String)
  | rejected (operation : Operation) (error : Error)
deriving DecidableEq

inductive Request where
  | select (query : Query)
  | insert (table : String) (record : Record)
  | update (table : String) (changes : Record) (filter : Option Filter)
  | delete (table : String) (filter : Option Filter)
deriving DecidableEq

namespace Request

def operation : Request → Operation
  | select _ => .select
  | insert _ _ => .insert
  | update _ _ _ => .update
  | delete _ _ => .delete

def compile (mode : ListMode) : Request → Except Error Statement
  | select query => query.compile mode
  | insert table record => .ok (Statement.insert table record)
  | update table changes filter => Statement.update mode table changes filter
  | delete table filter => Statement.delete mode table filter

/-- Refusals are always told, statements on demand. -/
def events (o : CompileOptions) (r : Request) : List Event :=
  match r.compile o.listMode with
  | .ok s => if o.logQueries then [.compiled r.operation s.sql] else []
  | .error e => [.rejected r.operation e]

end Request

end Querysmith
