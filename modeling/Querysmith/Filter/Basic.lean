import Querysmith.OrderedMap
import Querysmith.Filter.Literal

namespace Querysmith

/-- How the elements of a membership test reach the statement: written into its text, or bound. -/
inductive ListMode where
  | inline
  | parameterized
deriving DecidableEq

inductive Condition where
  | equals (v : Value)
  | oneOf (vs : List Value)
deriving DecidableEq

abbrev Conditions := OrderedMap String Condition

/-- Either conditions that all have to hold, or the text of a clause with its own parameters. -/
inductive Filter where
  | fields (conditions : Conditions)
  | clause (text : String) (params : List Value)
deriving DecidableEq

structure Fragment where
  text : String
  params : List Value
deriving DecidableEq

namespace Fragment

def empty : Fragment := ⟨"", []⟩

def isEmpty (f : Fragment) : Bool :=
  f.text.isEmpty

end Fragment

def marks (separator : String) (n : Nat) : String :=
  separator.intercalate (List.replicate n "?")

theorem toList_marks {α : Type} (separator : String) (xs : List α) :
    (marks separator xs.length).toList = separator.toList.intercalate (xs.map fun _ => ['?']) := by
  simp [marks, List.map_const']

namespace Condition

def text (mode : ListMode) (field : String) : Condition → String
  | equals _ => field ++ " = ?"
  | oneOf vs =>
      field ++ " IN (" ++
        (match mode with
          | .inline => literalList vs
          | .parameterized => marks "," vs.length) ++ ")"

def params (mode : ListMode) : Condition → List Value
  | equals v => [v]
  | oneOf vs =>
      match mode with
      | .inline => []
      | .parameterized => vs

end Condition

namespace Conditions

def texts (mode : ListMode) (es : List (String × Condition)) : List String :=
  es.map fun e => e.2.text mode e.1

def params (mode : ListMode) (es : List (String × Condition)) : List Value :=
  es.flatMap fun e => e.2.params mode

def fragment (mode : ListMode) (m : Conditions) : Fragment :=
  match m.entries with
  | [] => .empty
  | es => ⟨" where " ++ " and ".intercalate (texts mode es), params mode es⟩

theorem text_fragment (mode : ListMode) (m : Conditions) :
    (fragment mode m).text =
      if m.entries = [] then "" else " where " ++ " and ".intercalate (texts mode m.entries) := by
  rw [fragment]
  cases m.entries with
  | nil => rfl
  | cons e es => rfl

theorem params_fragment (mode : ListMode) (m : Conditions) :
    (fragment mode m).params = params mode m.entries := by
  rw [fragment]
  cases m.entries with
  | nil => rfl
  | cons e es => rfl

end Conditions

namespace Filter

def all : Filter :=
  .fields .empty

def equals (field : String) (v : Value) : Filter :=
  .fields (OrderedMap.empty.insert field (.equals v))

/-- No text means no filter, whatever the parameters are. -/
def ofClause (text : String) (params : List Value) : Filter :=
  if text = "" then all else .clause text params

/-- A clause stands in the statement as it is; nothing checks its parameters against its question
marks. -/
def fragment (mode : ListMode) : Filter → Fragment
  | fields m => Conditions.fragment mode m
  | clause text params => if text = "" then .empty else ⟨" where " ++ text, params⟩

end Filter

def filterFragment (mode : ListMode) : Option Filter → Fragment
  | none => .empty
  | some f => f.fragment mode

end Querysmith
