import Querysmith.Cell.Basic
import Querysmith.Error
import Querysmith.ResultSet

namespace Querysmith.ResultSet

def cellValue (row : List Cell) (i : Nat) : Except DatabaseFault Value :=
  match row[i]? with
  | some c => .ok c.value
  | none => .error (.noSuchCell i)

def cellValues (row : List Cell) : List Nat → Except DatabaseFault (List Value)
  | [] => .ok []
  | i :: places => do
      let v ← cellValue row i
      .ok (v :: (← cellValues row places))

def addCells (width : Nat) (s : ResultSet) : List (List Cell) → Except DatabaseFault ResultSet
  | [] => .ok s
  | row :: rows => do
      let values ← cellValues row (List.range width)
      addCells width (s.addRow values) rows

def ofCells (columns : List String) (rows : List (List Cell)) : Except DatabaseFault ResultSet :=
  addCells columns.length (empty.setColumns columns) rows

end Querysmith.ResultSet
