import Querysmith.OrderedMap
import Querysmith.Value

namespace Querysmith

structure Header where
  names : List String
  places : OrderedMap String Nat
deriving DecidableEq

namespace Header

/-- The places are entered from the first to the last, so a repeated name gets its last one. -/
def ofNames (names : List String) : Header :=
  ⟨names, .ofList names.zipIdx⟩

instance : Coe (List String) Header := ⟨ofNames⟩

def index? (h : Header) (name : String) : Option Nat :=
  match h.places.get? name with
  | some i => some i
  | none => h.names.findIdx? fun n => n = name

end Header

structure Row where
  header : Header
  values : List Value
deriving DecidableEq

namespace Row

def ofNames (names : List String) (values : List Value) : Row :=
  ⟨names, values⟩

def columns (r : Row) : List String :=
  r.header.names

def index? (r : Row) (name : String) : Option Nat :=
  r.header.index? name

def get? (r : Row) (name : String) : Option Value :=
  match r.index? name with
  | some i => r.values[i]?
  | none => none

/-- Every column that has a value, under its name. A repeated name keeps its first place and takes
its last value. -/
def fields (r : Row) : OrderedMap String Json :=
  .ofList (r.columns.zip (r.values.map Value.toJson))

def toJson (r : Row) : Json :=
  .object r.fields.entries

end Row

structure ResultSet where
  header : Option Header
  rows : List Row
  rowsAffected : Nat
deriving DecidableEq

namespace ResultSet

def empty : ResultSet := ⟨none, [], 0⟩

def withCapacity (_ : Nat) : ResultSet := empty

def columns (s : ResultSet) : Option (List String) :=
  s.header.map Header.names

def setColumns (s : ResultSet) (names : List String) : ResultSet :=
  { s with header := some names }

/-- Rows are dropped as long as there are no column names. -/
def addRow (s : ResultSet) (values : List Value) : ResultSet :=
  match s.header with
  | none => s
  | some header =>
      { s with rows := s.rows ++ [⟨header, values⟩], rowsAffected := s.rowsAffected + 1 }

theorem addRow_of_none {s : ResultSet} (h : s.header = none) (values : List Value) :
    s.addRow values = s := by
  rw [addRow, h]

theorem addRow_of_some {s : ResultSet} {header : Header} (h : s.header = some header)
    (values : List Value) :
    s.addRow values =
      { s with rows := s.rows ++ [⟨header, values⟩], rowsAffected := s.rowsAffected + 1 } := by
  rw [addRow, h]

def size (s : ResultSet) : Nat :=
  s.rows.length

def isEmpty (s : ResultSet) : Bool :=
  s.rows.isEmpty

def toJson (s : ResultSet) : Json :=
  .array (s.rows.map Row.toJson)

inductive Step where
  | columns (names : List String)
  | add (values : List Value)
deriving DecidableEq

def step (s : ResultSet) : Step → ResultSet
  | .columns names => s.setColumns names
  | .add values => s.addRow values

def run (s : ResultSet) (steps : List Step) : ResultSet :=
  steps.foldl step s

end ResultSet

end Querysmith
