import Querysmith.Sql.Reader.Expr

namespace Querysmith.Sql

def positionOf (text : List Char) : List Lexeme → Nat
  | l :: _ => l.position
  | [] => text.length

def slice (text : List Char) (start stop : Nat) : String :=
  let cs := ((text.take stop).drop start).dropWhile isSpace
  String.ofList (cs.reverse.dropWhile isSpace).reverse

def readLabel : Read (Option String) := fun ls =>
  match takeWord "as" ls with
  | some ls => do
      let (name, ls) ← readName ls
      .ok (some name, ls)
  | none =>
      match takeName ls with
      | some (name, ls) => .ok (some name, ls)
      | none => .ok (none, ls)

def takeTableStar (ls : List Lexeme) : Option (String × List Lexeme) := do
  let (table, ls) ← takeName ls
  let ls ← takeMark .dot ls
  let ls ← takeMark .star ls
  some (table, ls)

def readOutput (text : List Char) : Read Output := fun ls =>
  match takeMark .star ls, takeTableStar ls with
  | some ls, _ => .ok (.all none, ls)
  | none, some (table, ls) => .ok (.all (some table), ls)
  | none, none => do
      let (e, after) ← readValue ls
      let (label, rest) ← readLabel after
      .ok (.value e label (slice text (positionOf text ls) (positionOf text after)), rest)

def readTableName : Read TableName := fun ls => do
  let (name, ls) ← readName ls
  match takeMark .dot ls with
  | some ls =>
      let (table, ls) ← readName ls
      .ok (⟨some name, table⟩, ls)
  | none => .ok (⟨none, name⟩, ls)

def readSource : Read (Option Source) := fun ls =>
  match takeWord "from" ls with
  | none => .ok (none, ls)
  | some ls => do
      let (name, ls) ← readTableName ls
      let (label, ls) ← readLabel ls
      .ok (some ⟨name, label⟩, ls)

def readOptional (word : String) : Read (Option (Expr Reference)) := fun ls =>
  match takeWord word ls with
  | none => .ok (none, ls)
  | some ls => do
      let (e, ls) ← readValue ls
      .ok (some e, ls)

def takeDirection (ls : List Lexeme) : Bool × List Lexeme :=
  match takeWord "desc" ls with
  | some ls => (true, ls)
  | none => (false, (takeWord "asc" ls).getD ls)

def readNulls (descending : Bool) : Read Bool := fun ls =>
  match takeWord "nulls" ls with
  | none => .ok (descending, ls)
  | some ls =>
      match takeWord "first" ls with
      | some ls => .ok (false, ls)
      | none => do .ok (true, ← expectWord "last" ls)

def isIntegerToken (l : Lexeme) : Bool :=
  match l.token with
  | .integer _ => true
  | _ => false

def readSortTerm : Read SortTerm := fun ls => do
  let (key, rest) ← readValue ls
  let (descending, rest) := takeDirection rest
  let (nullsLast, rest) ← readNulls descending rest
  .ok (⟨key, descending, nullsLast, (ls.find? isIntegerToken).map Lexeme.position⟩, rest)

def readOrder : Read (List SortTerm) := fun ls =>
  match takeWord "order" ls with
  | none => .ok ([], ls)
  | some ls => do
      let ls ← expectWord "by" ls
      readSeparated readSortTerm ls.length ls

/-- A limit, and an offset behind it. Of two numbers with a comma between them the first is the
offset. -/
def readLimit : Read (Option (Expr Reference) × Option (Expr Reference)) := fun ls => do
  let (first, ls) ← readOptional "limit" ls
  match first with
  | none => .ok ((none, none), ls)
  | some first =>
      match takeMark .comma ls with
      | some ls =>
          let (second, ls) ← readValue ls
          .ok ((some second, some first), ls)
      | none =>
          let (offset, ls) ← readOptional "offset" ls
          .ok ((some first, offset), ls)

def takeDistinct (ls : List Lexeme) : Bool × List Lexeme :=
  match takeWord "distinct" ls with
  | some ls => (true, ls)
  | none => (false, (takeWord "all" ls).getD ls)

def readRow : Read (List (Expr Reference)) := fun ls => do
  let ls ← expectMark .leftParen ls
  let (values, ls) ← readSeparated readValue ls.length ls
  let ls ← expectMark .rightParen ls
  .ok (values, ls)

def readRows : Read (List (List (Expr Reference))) := fun ls =>
  match takeWord "union" ls with
  | none => .ok ([], ls)
  | some ls => do
      let ls ← expectWord "all" ls
      let ls ← expectWord "values" ls
      readSeparated readRow ls.length ls

def readSelect (text : List Char) : Read Command := fun ls => do
  let (distinct, ls) := takeDistinct ls
  let (outputs, ls) ← readSeparated (readOutput text) ls.length ls
  let (source, ls) ← readSource ls
  let (filter, ls) ← readOptional "where" ls
  let (values, ls) ← readRows ls
  if values.isEmpty then do
    let (order, ls) ← readOrder ls
    let ((limit, offset), ls) ← readLimit ls
    .ok (.select ⟨distinct, outputs, source, filter, [], order, limit, offset⟩, ls)
  else .ok (.select ⟨distinct, outputs, source, filter, values, [], none, none⟩, ls)

def readColumns : Read (Option (List String)) := fun ls =>
  match takeMark .leftParen ls with
  | none => .ok (none, ls)
  | some ls => do
      let (columns, ls) ← readSeparated readName ls.length ls
      let ls ← expectMark .rightParen ls
      .ok (some columns, ls)

def readInsert : Read Command := fun ls => do
  let ls ← expectWord "into" ls
  let (table, ls) ← readTableName ls
  let (columns, ls) ← readColumns ls
  let ls ← expectWord "values" ls
  let (values, ls) ← readRow ls
  .ok (.insert table columns values, ls)

def readChange : Read (String × Expr Reference) := fun ls => do
  let (column, ls) ← readName ls
  let ls ← expectMark .equal ls
  let (e, ls) ← readValue ls
  .ok ((column, e), ls)

def readUpdate : Read Command := fun ls => do
  let (table, ls) ← readTableName ls
  let ls ← expectWord "set" ls
  let (changes, ls) ← readSeparated readChange ls.length ls
  let (filter, ls) ← readOptional "where" ls
  .ok (.update table changes filter, ls)

def readDelete : Read Command := fun ls => do
  let ls ← expectWord "from" ls
  let (table, ls) ← readTableName ls
  let (filter, ls) ← readOptional "where" ls
  .ok (.delete table filter, ls)

def readCommand (text : List Char) : Read Command := fun ls =>
  match takeWord "select" ls, takeWord "insert" ls, takeWord "update" ls, takeWord "delete" ls with
  | some ls, _, _, _ => readSelect text ls
  | _, some ls, _, _ => readInsert ls
  | _, _, some ls, _ => readUpdate ls
  | _, _, _, some ls => readDelete ls
  | _, _, _, _ => unexpected ls

structure Parsed where
  command : Command
  arity : Nat

def Parsed.ofTokens (command : Command) (ls : List Lexeme) : Except Fault Parsed :=
  match ls.find? Lexeme.isBeyond with
  | some l => .error (.tooManySlots l.position)
  | none => .ok ⟨command, slotCount ls⟩

/-- The first command of a text, unless the text has none, and the text behind its semicolon. -/
def Parsed.next (text : List Char) : Except Fault (Option Parsed × List Char) :=
  match (lexemes text).dropWhile (·.isMark .semicolon) with
  | [] => .ok (none, [])
  | ls => do
      let (command, rest) ← readCommand text ls
      let parsed ← Parsed.ofTokens command (ls.take (ls.length - rest.length))
      match rest with
      | [] => .ok (some parsed, [])
      | l :: _ =>
          if l.isMark .semicolon then .ok (some parsed, text.drop l.stop)
          else unexpected rest

end Querysmith.Sql
