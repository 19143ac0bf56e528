import Querysmith.Error
import Querysmith.Filter.Basic

namespace Querysmith

def fieldValue? (key : String) (members : List (String × Json)) : Option Json :=
  (OrderedMap.ofList members).get? key

def Condition.ofJson : Json → Condition
  | .array items => .oneOf (items.map Value.ofJson)
  | j => .equals (Value.ofJson j)

theorem Condition.ofJson_of_ne_array {j : Json} (h : ∀ items, j ≠ .array items) :
    ofJson j = .equals (Value.ofJson j) := by
  cases j with
  | array items => exact absurd rfl (h items)
  | null | bool | number | string | object => rfl

namespace Filter

def ofFields (members : List (String × Json)) : Filter :=
  .fields (OrderedMap.ofList (members.map fun e => (e.1, Condition.ofJson e.2)))

def clauseParams? : Option Json → Except FilterFault (List Value)
  | none | some .null => .ok []
  | some (.array items) => .ok (items.map Value.ofJson)
  | some j => .error (.paramsNotArray j)

/-- An object with a text under the key clause is that clause; every other object is taken as
conditions, one for each of its keys. -/
def ofJson : Json → Except FilterFault Filter
  | .null => .ok all
  | .string s => if s = "" then .ok all else .error (.notObject (.string s))
  | .object members =>
      match fieldValue? "clause" members with
      | some (.string text) =>
          if text = "" then .ok (ofFields members)
          else (clauseParams? (fieldValue? "params" members)).map (.clause text)
      | _ => .ok (ofFields members)
  | j => .error (.notObject j)

end Filter

end Querysmith
