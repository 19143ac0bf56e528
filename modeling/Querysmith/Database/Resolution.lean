import Querysmith.Sql.Command
import Querysmith.Sql.Fault

namespace Querysmith

open Sql

inductive Column where
  | id
  | value
deriving DecidableEq

def sameName (a b : String) : Bool :=
  a.toLower = b.toLower

namespace Column

def name : Column → String
  | id => "id"
  | value => "v"

def ofName? (s : String) : Option Column :=
  if sameName s "id" then some id
  else if sameName s "v" then some value
  else if sameName s "rowid" || sameName s "oid" || sameName s "_rowid_" then some id
  else none

def all : List Column := [id, value]

end Column

abbrev Scope := Option String

/-- What a name means that is no column: between double quotes it is a text. -/
def constant? {ν : Type} (r : Reference) : Option (Expr ν) :=
  match r.table, r.quoting with
  | none, .double => some (.cell (.text r.column))
  | none, .plain =>
      if sameName r.column "true" then some (.ofBool true)
      else if sameName r.column "false" then some (.ofBool false)
      else none
  | _, _ => none

def Sql.Reference.text (r : Reference) : String :=
  match r.table with
  | none => r.column
  | some t => t.text ++ "." ++ r.column

def Sql.Reference.unknown (r : Reference) : Fault :=
  .noSuchColumn r.text (some r.position)

def isMain : Option String → Bool
  | none => true
  | some s => sameName s "main"

def columnIn? (scope : Scope) (r : Reference) : Option Column :=
  match scope, r.table with
  | none, _ => none
  | some _, none => Column.ofName? r.column
  | some label, some t =>
      if isMain t.schema && sameName t.table label then Column.ofName? r.column else none

/-- A value that is answered, under a name, which may have been given to it. -/
structure Answered where
  label : String
  given : Bool
  value : Expr Column

def labelled? (answered : List Answered) (name : String) : Option (Expr Column) :=
  (answered.find? fun a => a.given && sameName a.label name).map Answered.value

/-- The given names of values are known where no column has the name. -/
def columnMeaning (scope : Scope) (answered : List Answered) (r : Reference) :
    Except Fault (Expr Column) :=
  match columnIn? scope r with
  | some c => .ok (.name c)
  | none =>
      match r.table.elim (labelled? answered r.column) (fun _ => none) with
      | some e => .ok e
      | none =>
          match constant? r with
          | some e => .ok e
          | none => .error r.unknown

def constantMeaning (r : Reference) : Except Fault (Expr Empty) :=
  match constant? r with
  | some e => .ok e
  | none => .error r.unknown

structure SortKey where
  key : Expr Column
  descending : Bool
  nullsLast : Bool

/-- What is answered of the rows that pass the filter, in which order, and how much of it. The rows
of values come behind all that. -/
structure Retrieval where
  scope : Scope
  distinct : Bool
  outputs : List Answered
  filter : Option (Expr Column)
  values : List (List (Expr Empty))
  order : List SortKey
  limit : Option (Expr Empty)
  offset : Option (Expr Empty)

inductive Plan where
  | select (r : Retrieval)
  | insert (columns : List Column) (values : List (Expr Empty))
  | update (changes : List (Column × Expr Column)) (filter : Option (Expr Column))
  | delete (filter : Option (Expr Column))

namespace Plan

def checkTable (n : TableName) : Except Fault Unit :=
  if isMain n.schema && sameName n.table "t" then .ok () else .error (.noSuchTable n.text)

def resolveOptional {μ : Type} (meaning : Reference → Except Fault (Expr μ)) :
    Option (Expr Reference) → Except Fault (Option (Expr μ))
  | none => .ok none
  | some e => (e.resolve meaning).map some

def resolveAll {μ : Type} (meaning : Reference → Except Fault (Expr μ)) :
    List (Expr Reference) → Except Fault (List (Expr μ))
  | [] => .ok []
  | e :: es => do
      let e ← e.resolve meaning
      .ok (e :: (← resolveAll meaning es))

structure Written where
  value : Expr Reference
  label : Option String
  text : String

def Written.ofColumn (table : String) (c : Column) : Written :=
  ⟨.name ⟨some ⟨none, table⟩, c.name, .other, 0⟩, none, c.name⟩

def expand (scope : Scope) : Output → Except Fault (List Written)
  | .all table =>
      match scope, table with
      | none, none => .error .noTables
      | none, some t => .error (.noSuchTable t)
      | some label, none => .ok (Column.all.map (Written.ofColumn label))
      | some label, some t =>
          if sameName t label then .ok (Column.all.map (Written.ofColumn label))
          else .error (.noSuchTable t)
  | .value e label written => .ok [⟨e, label, written⟩]

def expandAll (scope : Scope) : List Output → Except Fault (List Written)
  | [] => .ok []
  | o :: os => do
      let found ← expand scope o
      .ok (found ++ (← expandAll scope os))

/-- A column keeps its name, every other value is named by its text. -/
def answered (w : Written) (e : Expr Column) : Answered :=
  match w.label, e with
  | some l, e => ⟨l, true, e⟩
  | none, .name c => ⟨c.name, false, .name c⟩
  | none, e => ⟨w.text, false, e⟩

def resolveOutputs (scope : Scope) : List Written → Except Fault (List Answered)
  | [] => .ok []
  | w :: ws => do
      let e ← w.value.resolve (columnMeaning scope [])
      .ok (answered w e :: (← resolveOutputs scope ws))

def written? : Expr Reference → Option Int
  | .cell (.integer i) => if i.toInt.natAbs < 0x80000000 then some i.toInt else none
  | .unary .plus e => written? e
  | .unary .minus e => (written? e).map (- ·)
  | _ => none

/-- An order by a number is one by the value of that number, counted from one. Numbers that no
select can reach are told apart by their place in the text. -/
def numbered (answered : List Answered) (index : Nat) (t : SortTerm) (n : Int) :
    Except Fault (Expr Column) :=
  if n < 1 ∨ 65535 < n then .error (.termOutOfRange index answered.length t.numberAt)
  else
    match answered[n.toNat - 1]? with
    | some a => .ok a.value
    | none => .error (.termOutOfRange index answered.length none)

def resolveTerm (scope : Scope) (answered : List Answered) (index : Nat) (t : SortTerm) :
    Except Fault SortKey := do
  let named := match t.key with
    | .name r => if r.table.isNone then labelled? answered r.column else none
    | _ => none
  let key ← match named, written? t.key with
    | some e, _ => .ok e
    | none, some n => numbered answered index t n
    | none, none => t.key.resolve (columnMeaning scope answered)
  .ok ⟨key, t.descending, t.nullsLast⟩

def resolveTerms (scope : Scope) (answered : List Answered) :
    Nat → List SortTerm → Except Fault (List SortKey)
  | _, [] => .ok []
  | index, t :: ts => do
      let key ← resolveTerm scope answered index t
      .ok (key :: (← resolveTerms scope answered (index + 1) ts))

def sourceScope : Option Source → Except Fault Scope
  | none => .ok none
  | some s => do
      checkTable s.name
      .ok (some (s.label.getD s.name.table))

def maxColumns : Nat := 2000

def checkWidth (width : Nat) : List (List (Expr Empty)) → Except Fault Unit
  | [] => .ok ()
  | next :: _ => if next.length = width then .ok () else .error .unlikeRows

/-- The last row comes first. -/
def resolveRows : List (List (Expr Reference)) → Except Fault (List (List (Expr Empty)))
  | [] => .ok []
  | row :: rows => do
      let rows ← resolveRows rows
      let row ← resolveAll constantMeaning row
      checkWidth row.length rows
      .ok (row :: rows)

def checkColumns (n : Nat) : Except Fault Unit :=
  if n ≤ maxColumns then .ok () else .error .tooManyColumns

/-- Tables and stars come before all other names, rows of values before those of columns, and limits
as well. -/
def ofSelect (s : Select) : Except Fault Plan := do
  let scope ← sourceScope s.source
  let outputs ← expandAll scope s.outputs
  checkColumns outputs.length
  let values ← resolveRows s.values
  let limit ← resolveOptional constantMeaning s.limit
  let offset ← resolveOptional constantMeaning s.offset
  let answered ← resolveOutputs scope outputs
  checkWidth answered.length values
  let filter ← resolveOptional (columnMeaning scope answered) s.filter
  let order ← resolveTerms scope answered 1 s.order
  .ok (.select ⟨scope, s.distinct, answered, filter, values, order, limit, offset⟩)

def insertColumns (table : String) : List String → Except Fault (List Column)
  | [] => .ok []
  | name :: names =>
      match Column.ofName? name with
      | none => .error (.columnNotInTable table name)
      | some c => do .ok (c :: (← insertColumns table names))

def ofInsert (table : TableName) (names : Option (List String)) (values : List (Expr Reference)) :
    Except Fault Plan := do
  checkTable table
  match names with
  | none =>
      let values ← resolveAll constantMeaning values
      if values.length = Column.all.length then .ok (.insert Column.all values)
      else .error (.valuesForTable table.text Column.all.length values.length)
  | some names =>
      let columns ← insertColumns table.text names
      let values ← resolveAll constantMeaning values
      if values.length = columns.length then .ok (.insert columns values)
      else .error (.valuesForColumns values.length columns.length)

def resolveChanges (scope : Scope) :
    List (String × Expr Reference) → Except Fault (List (Column × Expr Column))
  | [] => .ok []
  | (name, e) :: changes => do
      let e ← e.resolve (columnMeaning scope [])
      match Column.ofName? name with
      | none => .error (.noSuchColumn name none)
      | some c => .ok ((c, e) :: (← resolveChanges scope changes))

def ofCommand : Command → Except Fault Plan
  | .select s => ofSelect s
  | .insert table columns values => ofInsert table columns values
  | .update table changes filter => do
      checkTable table
      let changes ← resolveChanges (some table.table) changes
      .ok (.update changes (← resolveOptional (columnMeaning (some table.table) []) filter))
  | .delete table filter => do
      checkTable table
      .ok (.delete (← resolveOptional (columnMeaning (some table.table) []) filter))

end Plan

end Querysmith
