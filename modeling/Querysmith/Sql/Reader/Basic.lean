import Querysmith.Sql.Fault
import Querysmith.Sql.Token

namespace Querysmith.Sql

abbrev Read (α : Type) := List Lexeme → Except Fault (α × List Lexeme)

def Fault.atTokens : List Lexeme → Fault
  | [] => .incomplete
  | l :: _ =>
      match l.token with
      | .illegal => .unrecognized l.written l.position
      | _ => .unexpected l.written l.position

def unexpected {α : Type} (ls : List Lexeme) : Except Fault α :=
  .error (.atTokens ls)

def takeMark (m : Mark) : List Lexeme → Option (List Lexeme)
  | l :: rest => if l.isMark m then some rest else none
  | [] => none

def takeWord (w : String) : List Lexeme → Option (List Lexeme)
  | l :: rest => if l.isWord w then some rest else none
  | [] => none

def expectMark (m : Mark) (ls : List Lexeme) : Except Fault (List Lexeme) :=
  match takeMark m ls with
  | some rest => .ok rest
  | none => unexpected ls

def expectWord (w : String) (ls : List Lexeme) : Except Fault (List Lexeme) :=
  match takeWord w ls with
  | some rest => .ok rest
  | none => unexpected ls

def reserved : List String :=
  ["add", "all", "alter", "and", "as", "autoincrement", "between", "case", "check", "collate",
   "commit", "constraint", "create", "default", "deferrable", "delete", "distinct", "drop", "else",
   "escape", "except", "exists", "foreign", "from", "group", "having", "in", "index", "insert",
   "intersect", "into", "is", "isnull", "join", "limit", "not", "nothing", "notnull", "null", "on",
   "or", "order", "primary", "references", "returning", "select", "set", "table", "then", "to",
   "transaction", "union", "unique", "update", "using", "values", "when", "where"]

def isReserved (w : String) : Bool :=
  reserved.contains w.toLower

/-- A name for a column or a table; a text is one as well. -/
def takeName : List Lexeme → Option (String × List Lexeme)
  | l :: rest =>
      match l.token with
      | .word s => if isReserved s then none else some (s, rest)
      | .name s _ | .text s => some (s, rest)
      | _ => none
  | [] => none

def readName : Read String := fun ls =>
  match takeName ls with
  | some found => .ok found
  | none => unexpected ls

/-- One or more, separated by commas. The count bounds them and is never reached when it is the
number of tokens. -/
def readSeparated {α : Type} (read : Read α) : Nat → Read (List α)
  | 0, ls => unexpected ls
  | count + 1, ls => do
      let (a, ls) ← read ls
      match takeMark .comma ls with
      | some ls =>
          let (as, ls) ← readSeparated read count ls
          .ok (a :: as, ls)
      | none => .ok ([a], ls)

end Querysmith.Sql
