import Querysmith.Database.Reading
import Querysmith.Database.Resolution
import Querysmith.Database.Table

namespace Querysmith

open Sql

structure Effect where
  table : Table
  changed : Nat
  inserted : Option Int
  rows : ResultSet

namespace Column

def cell (r : TableRow) : Column → Cell
  | id => .integer r.key
  | value => r.value

def isNumeric (c : Column) : Bool :=
  c = id

end Column

namespace Plan

variable {ν : Type}

def rowEnvironment (params : List Cell) (r : TableRow) : Environment Column :=
  ⟨params, Column.cell r, Column.isNumeric⟩

def emptyEnvironment (params : List Cell) : Environment Column :=
  ⟨params, fun _ => .null, Column.isNumeric⟩

def constantEnvironment (params : List Cell) : Environment Empty :=
  ⟨params, Empty.elim, Empty.elim⟩

def passes (env : Environment ν) : Option (Expr ν) → Bool
  | none => true
  | some e => (e.eval env).truth = some true

def count? (params : List Cell) : Option (Expr Empty) → Except DatabaseFault (Option Int)
  | none => .ok none
  | some e =>
      match (e.eval (constantEnvironment params)).integer? with
      | some i => .ok (some i.toInt)
      | none => .error .notInteger

structure SortCell where
  cell : Cell
  descending : Bool
  nullsLast : Bool

def SortCell.order (a b : SortCell) : Ordering :=
  match a.cell, b.cell with
  | .null, .null => .eq
  | .null, _ => if a.nullsLast then .gt else .lt
  | _, .null => if a.nullsLast then .lt else .gt
  | c, d => if a.descending then d.order c else c.order d

def isBefore : List SortCell → List SortCell → Bool
  | a :: as, b :: bs =>
      match a.order b with
      | .eq => isBefore as bs
      | .lt => true
      | .gt => false
  | _, _ => true

def sorted (order : List SortKey) (rows : List (Environment Column)) : List (Environment Column) :=
  let keys (env : Environment Column) : List SortCell :=
    order.map fun k => ⟨k.key.eval env, k.descending, k.nullsLast⟩
  rows.mergeSort fun a b => isBefore (keys a) (keys b)

/-- A negative limit is none, and a negative offset is zero. -/
def page {α : Type} (limit : Option Int) (offset : Int) (rows : List α) : List α :=
  let rows := rows.drop offset.toNat
  match limit with
  | some n => if n < 0 then rows else rows.take n.toNat
  | none => rows

/-- A limit of zero makes the offset needless. -/
def limits (params : List Cell) (limit offset : Option (Expr Empty)) :
    Except DatabaseFault (Option Int × Int) := do
  match ← count? params limit with
  | some 0 => .ok (some 0, 0)
  | n => .ok (n, (← count? params offset).getD 0)

def contexts (params : List Cell) (t : Table) : Scope → List (Environment Column)
  | none => [emptyEnvironment params]
  | some _ => t.rows.map (rowEnvironment params)

def sameCells (as bs : List Cell) : Bool :=
  (as.zip bs).all fun (a, b) => a.order b = .eq

def withoutRepeats (answer : Environment Column → List Cell) :
    List (Environment Column) → List (Environment Column)
  | [] => []
  | env :: rest =>
      env :: (withoutRepeats answer rest).filter fun other => !sameCells (answer env) (answer other)

def answer (params : List Cell) (t : Table) (r : Retrieval) : Except DatabaseFault ResultSet := do
  let (limit, offset) ← limits params r.limit r.offset
  let cells (env : Environment Column) := r.outputs.map fun o => o.value.eval env
  let chosen := (contexts params t r.scope).filter fun env => passes env r.filter
  let chosen := if r.distinct then withoutRepeats cells chosen else chosen
  let answered := (page limit offset (sorted r.order chosen)).map cells
  let values := r.values.map fun row => row.map fun e => e.eval (constantEnvironment params)
  ResultSet.ofCells (r.outputs.map Answered.label) (answered ++ values)

def firstFor? (c : Column) : List (Column × Cell) → Option Cell
  | [] => none
  | (d, cell) :: rest => if d = c then some cell else firstFor? c rest

def lastFor? (c : Column) (cells : List (Column × Cell)) : Option Cell :=
  firstFor? c cells.reverse

/-- Without an identifier the row gets a new one. Of several cells for one column the last
identifier counts, but the first value. -/
def insertion (t : Table) (drawn : Int64) (cells : List (Column × Cell)) :
    Except DatabaseFault Effect :=
  let v := (firstFor? .value cells).getD .null
  match (lastFor? .id cells).getD .null with
  | .null =>
      match t.newKey? drawn with
      | none => .error .full
      | some key => .ok ⟨t.place key v, 1, some key.toInt, .empty⟩
  | cell =>
      match cell.integer? with
      | none => .error .notInteger
      | some key =>
          if t.has key then .error .idTaken
          else .ok ⟨t.place key v, 1, some key.toInt, .empty⟩

def changed (cells : List (Column × Cell)) (r : TableRow) : Except DatabaseFault TableRow :=
  let v := (lastFor? .value cells).getD r.value
  match lastFor? .id cells with
  | none => .ok ⟨r.key, v⟩
  | some cell =>
      match cell.integer? with
      | none => .error .notInteger
      | some key => .ok ⟨key, v⟩

def changedRow (params : List Cell) (changes : List (Column × Expr Column)) (r : TableRow) :
    Except DatabaseFault TableRow :=
  changed (changes.map fun (c, e) => (c, e.eval (rowEnvironment params r))) r

/-- Rows are changed one after the other; an identifier that another row has at that time is
refused. -/
def updateRows (params : List Cell) (changes : List (Column × Expr Column)) :
    Table → List TableRow → Except DatabaseFault Table
  | t, [] => .ok t
  | t, r :: rest => do
      let s ← changedRow params changes r
      if s.key ≠ r.key ∧ t.has s.key then .error .idTaken
      else updateRows params changes ((t.delete (·.key = r.key)).place s.key s.value) rest

def updating (params : List Cell) (t : Table) (changes : List (Column × Expr Column))
    (filter : Option (Expr Column)) : Except DatabaseFault Effect := do
  let chosen := t.rows.filter fun r => passes (rowEnvironment params r) filter
  let t ← updateRows params changes t chosen
  .ok ⟨t, chosen.length, none, .empty⟩

def deletion (params : List Cell) (t : Table) (filter : Option (Expr Column)) : Effect :=
  let chosen (r : TableRow) : Bool := passes (rowEnvironment params r) filter
  ⟨t.delete chosen, t.rows.countP chosen, none, .empty⟩

def run (params : List Cell) (t : Table) (drawn : Int64) : Plan → Except DatabaseFault Effect
  | .select r => do
      let rows ← answer params t r
      .ok ⟨t, 0, none, rows⟩
  | .insert columns values =>
      let env := constantEnvironment params
      insertion t drawn (columns.zip (values.map fun e => e.eval env))
  | .update changes filter => updating params t changes filter
  | .delete filter => .ok (deletion params t filter)

end Plan

end Querysmith
