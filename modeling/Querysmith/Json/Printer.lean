import Querysmith.Json.Basic
import Querysmith.Json.Text
import Querysmith.Decimal.Layout

namespace Querysmith.Json

/-- A leading digit from the fifth place behind the point to the sixteenth before it needs no
exponent; every other double gets one. Whole numbers keep a fraction. -/
def doubleLayout : Decimal.Layout where
  tie := .toEven
  positional := fun place => -5 ≤ place && place < 16
  marksWhole := true

def Number.text : Number → String
  | .integer n _ _ => toString n
  | .double x _ => doubleLayout.format x

def brackets (items : List String) : String :=
  "[" ++ ",".intercalate items ++ "]"

def braces (fields : List String) : String :=
  "\x7b" ++ ",".intercalate fields ++ "\x7d"

mutual

def compact : Json → String
  | .null => "null"
  | .bool b => if b then "true" else "false"
  | .number n => n.text
  | .string s => quote s
  | .array items => brackets (compactItems items)
  | .object fields => braces (compactFields fields)

def compactItems : List Json → List String
  | [] => []
  | j :: rest => compact j :: compactItems rest

def compactFields : List (String × Json) → List String
  | [] => []
  | (k, j) :: rest => (quote k ++ ":" ++ compact j) :: compactFields rest

end

def margin (level : Nat) : String :=
  String.ofList (List.replicate (2 * level) ' ')

def block (opening closing : String) (level : Nat) (members : List String) : String :=
  match members with
  | [] => opening ++ closing
  | _ =>
      let lines := members.map (margin (level + 1) ++ ·)
      opening ++ "\n" ++ ",\n".intercalate lines ++ "\n" ++ margin level ++ closing

mutual

def indented (level : Nat) : Json → String
  | .array items => block "[" "]" level (indentedItems (level + 1) items)
  | .object fields => block "\x7b" "\x7d" level (indentedFields (level + 1) fields)
  | j => compact j

def indentedItems (level : Nat) : List Json → List String
  | [] => []
  | j :: rest => indented level j :: indentedItems level rest

def indentedFields (level : Nat) : List (String × Json) → List String
  | [] => []
  | (k, j) :: rest => (quote k ++ ": " ++ indented level j) :: indentedFields level rest

end

def pretty (j : Json) : String :=
  indented 0 j

end Querysmith.Json
