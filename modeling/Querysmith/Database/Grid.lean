import Querysmith.Database.Transaction

namespace Querysmith

/-- A query whose answer is made of its parameters, one for each cell, row by row. Without rows it
still has the parameters of one. -/
structure Grid where
  columns : List String
  rows : Nat

namespace Grid

def doubled (cs : List Char) : List Char :=
  cs.flatMap fun c => if c = '"' then ['"', '"'] else [c]

def quotedName (name : String) : String :=
  String.ofList ('"' :: (doubled name.toList ++ ['"']))

def columnText (name : String) : String :=
  "? as " ++ quotedName name

def rowText (g : Grid) : String :=
  "(" ++ ", ".intercalate (g.columns.map fun _ => "?") ++ ")"

def endText (g : Grid) : String :=
  match g.rows with
  | 0 => " limit 0"
  | 1 => ""
  | more + 2 =>
      " union all values " ++ ", ".intercalate ((List.range (more + 1)).map fun _ => g.rowText)

def text (g : Grid) : String :=
  "select " ++ ", ".intercalate (g.columns.map columnText) ++ g.endText

def statement (g : Grid) (params : List Value) : Statement :=
  ⟨g.text, params⟩

def query (g : Grid) (params : List Value) : Except Error ResultSet :=
  (Database.fresh.query (g.statement params)).1

end Grid

end Querysmith
