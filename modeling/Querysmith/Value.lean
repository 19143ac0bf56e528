import Querysmith.Json.Basic
import Querysmith.Json.Printer
import Querysmith.Timestamp.Text

namespace Querysmith

inductive Value where
  | int (i : Int64)
  | float (x : Float)
  | text (s : String)
  | bool (b : Bool)
  | timestamp (t : Timestamp)
  | null
  | json (j : Json)
  | blob (bytes : List UInt8)
deriving DecidableEq

instance : Inhabited Value := ⟨.null⟩

namespace Value

def isNull : Value → Bool
  | null => true
  | _ => false

def isComposite : Value → Bool
  | json (.object _) | json (.array _) => true
  | _ => false

def isQuoted : Value → Bool
  | text _ | timestamp _ => true
  | _ => false

def int? : Value → Option Int64
  | int i => some i
  | _ => none

def text? : Value → Option String
  | text s => some s
  | _ => none

def bool? : Value → Option Bool
  | bool b => some b
  | int i => if i = 1 then some true else if i = 0 then some false else none
  | _ => none

def float? : Value → Option Float
  | float x => some x
  | _ => none

def timestamp? : Value → Option Timestamp
  | timestamp t => some t
  | text s => Timestamp.read? s
  | _ => none

def blob? : Value → Option (List UInt8)
  | blob bytes => some bytes
  | _ => none

def ofOption {α : Type} (f : α → Value) : Option α → Value
  | some a => f a
  | none => null

/-- Integers that a signed word cannot hold become doubles. -/
def ofNumber : Json.Number → Value
  | .integer n _ _ =>
      if n < 0x8000000000000000 then int (Int64.ofInt n) else float n.toNat.toUInt64.toFloat
  | .double x _ => float x

def ofJson : Json → Value
  | .null => null
  | .bool b => bool b
  | .number n => ofNumber n
  | .string s => text s
  | j => json j

def toJson : Value → Json
  | int i => Json.ofInt64 i
  | float x => Json.ofFloat x
  | text s => .string s
  | bool b => .bool b
  | timestamp t => .string t.text
  | null => .null
  | json j => j
  | blob bytes => .array (bytes.map Json.ofByte)

/-- Arrays and objects become their text; every other value is bound as it is. -/
def bindable : Value → Value
  | json (.object fields) => text (Json.object fields).compact
  | json (.array items) => text (Json.array items).compact
  | v => v

end Value

end Querysmith
