

namespace Querysmith.Json

def escape (c : Char) : List Char :=
  if c = '"' then ['\\', '"']
  else if c = '\\' then ['\\', '\\']
  else if c = '\x08' then ['\\', 'b']
  else if c = '\x0c' then ['\\', 'f']
  else if c = '\n' then ['\\', 'n']
  else if c = '\r' then ['\\', 'r']
  else if c = '\t' then ['\\', 't']
  else if c.toNat < 0x20 then
    ['\\', 'u', '0', '0', Nat.digitChar (c.toNat / 16), Nat.digitChar (c.toNat % 16)]
  else [c]

def quote (s : String) : String :=
  String.ofList ('"' :: s.toList.flatMap escape ++ ['"'])

def unescape? (c : Char) : Option Char :=
  if c = '"' ∨ c = '\\' ∨ c = '/' then some c
  else if c = 'b' then some '\x08'
  else if c = 'f' then some '\x0c'
  else if c = 'n' then some '\n'
  else if c = 'r' then some '\r'
  else if c = 't' then some '\t'
  else none

def hexValue? (c : Char) : Option Nat :=
  if '0' ≤ c ∧ c ≤ '9' then some (c.toNat - 48)
  else if 'a' ≤ c ∧ c ≤ 'f' then some (c.toNat - 87)
  else if 'A' ≤ c ∧ c ≤ 'F' then some (c.toNat - 55)
  else none

def isLeadUnit (n : Nat) : Bool :=
  0xD800 ≤ n && n < 0xDC00

def isTrailUnit (n : Nat) : Bool :=
  0xDC00 ≤ n && n < 0xE000

/-- Where a reader stands inside a string. A code escape still lacks `left` digits after the next
one; an escaped lead unit has to be followed by an escaped trail unit. -/
inductive Place where
  | plain
  | escaped
  | code (lead : Option Nat) (left value : Nat)
  | trailSlash (lead : Nat)
  | trailMark (lead : Nat)

inductive CodeUnit where
  | char (c : Char)
  | lead (n : Nat)

def codeUnit? (lead : Option Nat) (n : Nat) : Option CodeUnit :=
  match lead with
  | none =>
      if isLeadUnit n then some (.lead n)
      else if isTrailUnit n then none
      else some (.char (Char.ofNat n))
  | some l =>
      if isTrailUnit n then
        some (.char (Char.ofNat (0x10000 + (l - 0xD800) * 0x400 + (n - 0xDC00))))
      else none

def readChars : Place → List Char → Option (List Char × List Char)
  | _, [] => none
  | .plain, c :: rest =>
      if c = '"' then some ([], rest)
      else if c = '\\' then readChars .escaped rest
      else if c.toNat < 0x20 then none
      else (readChars .plain rest).map fun r => (c :: r.1, r.2)
  | .escaped, c :: rest =>
      if c = 'u' then readChars (.code none 3 0) rest
      else match unescape? c with
        | some e => (readChars .plain rest).map fun r => (e :: r.1, r.2)
        | none => none
  | .code lead left value, c :: rest =>
      match hexValue? c with
      | none => none
      | some d =>
          match left with
          | left + 1 => readChars (.code lead left (16 * value + d)) rest
          | 0 =>
              match codeUnit? lead (16 * value + d) with
              | none => none
              | some (.lead l) => readChars (.trailSlash l) rest
              | some (.char e) => (readChars .plain rest).map fun r => (e :: r.1, r.2)
  | .trailSlash lead, c :: rest => if c = '\\' then readChars (.trailMark lead) rest else none
  | .trailMark lead, c :: rest =>
      if c = 'u' then readChars (.code (some lead) 3 0) rest else none

end Querysmith.Json
