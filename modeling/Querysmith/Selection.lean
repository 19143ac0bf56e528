import Querysmith.Error
import Querysmith.Filter.Json
import Querysmith.Operation
import Querysmith.Statement
import Querysmith.TableName

namespace Querysmith

inductive Columns where
  | text (s : String)
  | names (columns : List String)
deriving DecidableEq

def Columns.render (l : Columns) : String :=
  let written := match l with
    | text s => s
    | names columns => ", ".intercalate columns
  if written = "" then "*" else written

structure Selection where
  table : String
  fields : Option Columns := none
  filter : Option Filter := none
  order : Option String := none
  limit : Option UInt64 := none
  offset : Option UInt64 := none
deriving DecidableEq

inductive Query where
  | sql (text : String)
  | selection (s : Selection)
deriving DecidableEq

namespace Selection

def fieldsText (s : Selection) : String :=
  match s.fields with
  | none => "*"
  | some l => l.render

def orderText (s : Selection) : String :=
  match s.order with
  | none => ""
  | some o => if o = "" then "" else " order by " ++ o

/-- Zero means the same as no number. -/
def countText (keyword : String) : Option UInt64 → String
  | none => ""
  | some n => if n = 0 then "" else keyword ++ toString n.toNat

def sqlText (s : Selection) (table : String) (filter : Fragment) : String :=
  "select " ++ s.fieldsText ++ " from " ++ table ++ filter.text ++ s.orderText ++
    countText " limit " s.limit ++ countText " offset " s.offset

def compile (mode : ListMode) (s : Selection) : Except Error Statement :=
  match safeName? s.table with
  | none => .error (.missingTable Operation.select.name)
  | some table =>
      let filter := filterFragment mode s.filter
      .ok ⟨s.sqlText table filter, filter.params⟩

theorem compile_eq_ok_iff {mode : ListMode} {x : Selection} {s : Statement} :
    x.compile mode = .ok s ↔ ∃ name, safeName? x.table = some name ∧
      s = ⟨x.sqlText name (filterFragment mode x.filter),
        (filterFragment mode x.filter).params⟩ := by
  rw [compile]
  cases safeName? x.table with
  | none => simp
  | some name => simp [eq_comm]

theorem compile_eq_error_iff {mode : ListMode} {x : Selection} {e : Error} :
    x.compile mode = .error e ↔
      safeName? x.table = none ∧ e = .missingTable Operation.select.name := by
  rw [compile]
  cases safeName? x.table with
  | none => simp [eq_comm (a := e)]
  | some name => simp

def optionalText : Json → Except SelectionFault (Option String)
  | .null => .ok none
  | .string s => .ok (some s)
  | j => .error (.notText j)

def optionalCount : Json → Except SelectionFault (Option UInt64)
  | .null => .ok none
  | .number (.integer n _ _) =>
      if n < 0 then .error (.negative n) else .ok (some (UInt64.ofNat n.toNat))
  | j => .error (.notCount j)

def names? : List Json → Option (List String)
  | [] => some []
  | .string s :: rest => (names? rest).map (s :: ·)
  | _ :: _ => none

def optionalFields : Json → Except SelectionFault (Option Columns)
  | .null => .ok none
  | .string s => .ok (some (.text s))
  | .array items =>
      match names? items with
      | some columns => .ok (some (.names columns))
      | none => .error .notFieldList
  | _ => .error .notFieldList

def optionalFilter : Json → Except SelectionFault (Option Filter)
  | .null => .ok none
  | j => (Filter.ofJson j).mapError .filter |>.map some

/-- Takes one field of an object over; unknown keys mean nothing. -/
def readField (s : Selection) (key : String) (j : Json) : Except SelectionFault Selection :=
  if key = "table" then (optionalText j).map fun t => { s with table := t.getD "" }
  else if key = "fields" then (optionalFields j).map fun l => { s with fields := l }
  else if key = "where" then (optionalFilter j).map fun f => { s with filter := f }
  else if key = "order" then (optionalText j).map fun t => { s with order := t }
  else if key = "limit" then (optionalCount j).map fun n => { s with limit := n }
  else if key = "offset" then (optionalCount j).map fun n => { s with offset := n }
  else .ok s

def readFields : Selection → List (String × Json) → Except SelectionFault Selection
  | s, [] => .ok s
  | s, (key, j) :: rest =>
      match s.readField key j with
      | .ok s => readFields s rest
      | .error fault => .error fault

end Selection

namespace Query

def compile (mode : ListMode) : Query → Except Error Statement
  | sql text => .ok ⟨text, []⟩
  | selection s => s.compile mode

def ofJson : Json → Except Error Query
  | .string text => .ok (sql text)
  | .object fields =>
      match Selection.readFields ⟨"", none, none, none, none, none⟩ fields with
      | .ok s => .ok (selection s)
      | .error fault => .error (.invalidArgument (.selection fault))
  | _ => .error (.invalidArgument .neitherTextNorObject)

end Query

end Querysmith
