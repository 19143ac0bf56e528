import Querysmith.Error
import Querysmith.Filter.Basic
import Querysmith.Operation
import Querysmith.Statement
import Querysmith.TableName

namespace Querysmith

abbrev Record := OrderedMap String Value

namespace Record

def ofJson : Json → Except Error Record
  | .null => .ok .empty
  | .object fields => .ok (OrderedMap.ofList (fields.map fun e => (e.1, Value.ofJson e.2)))
  | j => .error (.invalidArgument (.recordNotObject j))

def bindables (r : Record) : List Value :=
  r.values.map Value.bindable

def assignments (r : Record) : String :=
  ", ".intercalate (r.keys.map (· ++ " = ?"))

end Record

namespace Statement

/-- A table name that is cut to nothing leaves a gap; the statement then fails when it runs. -/
def insert (table : String) (r : Record) : Statement :=
  ⟨"insert into " ++ (safeName? table).getD "" ++ " (" ++ ", ".intercalate r.keys ++ ") values (" ++
    marks ", " r.size ++ ")", r.bindables⟩

theorem sql_insert (table : String) (r : Record) :
    (insert table r).sql = "insert into " ++ (safeName? table).getD "" ++ " (" ++
      ", ".intercalate r.keys ++ ") values (" ++ marks ", " r.size ++ ")" := rfl

theorem params_insert (table : String) (r : Record) : (insert table r).params = r.bindables := rfl

/-- The table is checked before the changes. Values are converted where they are written and bound
as they are where they are compared. -/
def update (mode : ListMode) (table : String) (changes : Record) (filter : Option Filter) :
    Except Error Statement :=
  match safeName? table with
  | none => .error (.missingTable Operation.update.name)
  | some table =>
      if changes.isEmpty then .error .noFieldsToUpdate
      else
        let filter := filterFragment mode filter
        .ok ⟨"update " ++ table ++ " set " ++ changes.assignments ++ filter.text,
          changes.bindables ++ filter.params⟩

def delete (mode : ListMode) (table : String) (filter : Option Filter) : Except Error Statement :=
  match safeName? table with
  | none => .error (.missingTable Operation.delete.name)
  | some table =>
      let filter := filterFragment mode filter
      .ok ⟨"delete from " ++ table ++ filter.text, filter.params⟩

variable {mode : ListMode} {table : String} {changes : Record} {filter : Option Filter}

theorem update_eq_ok_iff {s : Statement} :
    update mode table changes filter = .ok s ↔
      ∃ name, safeName? table = some name ∧ changes.isEmpty = false ∧
        s = ⟨"update " ++ name ++ " set " ++ changes.assignments ++
            (filterFragment mode filter).text,
          changes.bindables ++ (filterFragment mode filter).params⟩ := by
  rw [update]
  cases safeName? table with
  | none => simp
  | some name =>
      cases changes.isEmpty with
      | true => simp
      | false => simp [eq_comm]

theorem update_eq_error_iff {e : Error} :
    update mode table changes filter = .error e ↔
      safeName? table = none ∧ e = .missingTable Operation.update.name ∨
        safeName? table ≠ none ∧ changes.isEmpty = true ∧ e = .noFieldsToUpdate := by
  rw [update]
  cases safeName? table with
  | none => simp [eq_comm (a := e)]
  | some name =>
      cases changes.isEmpty with
      | true => simp [eq_comm (a := e)]
      | false => simp

theorem delete_eq_ok_iff {s : Statement} :
    delete mode table filter = .ok s ↔ ∃ name, safeName? table = some name ∧
      s = ⟨"delete from " ++ name ++ (filterFragment mode filter).text,
        (filterFragment mode filter).params⟩ := by
  rw [delete]
  cases safeName? table with
  | none => simp
  | some name => simp [eq_comm]

theorem delete_eq_error_iff {e : Error} :
    delete mode table filter = .error e ↔
      safeName? table = none ∧ e = .missingTable Operation.delete.name := by
  rw [delete]
  cases safeName? table with
  | none => simp [eq_comm (a := e)]
  | some name => simp

end Statement

end Querysmith
