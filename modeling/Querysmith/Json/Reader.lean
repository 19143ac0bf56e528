import Querysmith.OrderedMap
import Querysmith.Text.Reading
import Querysmith.Json.Text
import Querysmith.Json.Numeral

namespace Querysmith.Json

open Text

variable {α : Type}

def readField (read : List Char → Option (α × List Char)) (cs : List Char) :
    Option ((String × α) × List Char) :=
  match skipBlanks cs with
  | '"' :: rest => do
      let (key, rest) ← readChars .plain rest
      match skipBlanks rest with
      | ':' :: rest =>
          let (a, rest) ← read rest
          some ((String.ofList key, a), rest)
      | _ => none
  | _ => none

def readValue : Nat → List Char → Option (Json × List Char)
  | depth, cs =>
      match skipBlanks cs with
      | [] => none
      | c :: rest =>
          if c = 'n' then readWord ['u', 'l', 'l'] .null rest
          else if c = 't' then readWord ['r', 'u', 'e'] (.bool true) rest
          else if c = 'f' then readWord ['a', 'l', 's', 'e'] (.bool false) rest
          else if c = '"' then
            (readChars .plain rest).map fun r => (.string (String.ofList r.1), r.2)
          else if c = '[' then
            match depth with
            | 0 => none
            | depth + 1 =>
                (readList ']' (readValue depth) rest).map fun r => (.array r.1, r.2)
          else if c = '\x7b' then
            match depth with
            | 0 => none
            | depth + 1 =>
                (readList '\x7d' (readField (readValue depth)) rest).map fun r =>
                  (.object (OrderedMap.ofList r.1).entries, r.2)
          else (readNumber (c :: rest)).map fun r => (.number r.1, r.2)

def maxDepth : Nat := 127

/-- A document is one value with blanks around it. A repeated key of an object keeps its first
place and takes its last value. -/
def parse? (text : String) : Option Json :=
  match readValue maxDepth text.toList with
  | some (j, rest) => if (skipBlanks rest).isEmpty then some j else none
  | none => none

end Querysmith.Json
