import Querysmith.Text.Blank
import Querysmith.Timestamp.Basic

namespace Querysmith.Timestamp

def padded (width n : Nat) : List Char :=
  let ds := Nat.toDigits 10 n
  List.replicate (width - ds.length) '0' ++ ds

/-- Years of four digits stand alone; all others carry a sign. -/
def yearText (year : Int) : List Char :=
  if year < 0 then '-' :: padded 4 year.natAbs
  else if year ≤ 9999 then padded 4 year.toNat
  else '+' :: padded 4 year.toNat

def fractionText (nanos : Nat) : List Char :=
  if nanos = 0 then []
  else if nanos % 1000000 = 0 then '.' :: padded 3 (nanos / 1000000)
  else if nanos % 1000 = 0 then '.' :: padded 6 (nanos / 1000)
  else '.' :: padded 9 nanos

def dateText (d : Date) : List Char :=
  yearText d.year ++ '-' :: padded 2 d.month ++ '-' :: padded 2 d.day

def timeText (t : TimeOfDay) : List Char :=
  padded 2 t.hour ++ ':' :: padded 2 t.minute ++ ':' ::
    padded 2 (t.second + t.nanos / 1_000_000_000) ++ fractionText (t.nanos % 1_000_000_000)

def chars (t : Timestamp) : List Char :=
  dateText t.date ++ ' ' :: timeText t.time

def text (t : Timestamp) : String :=
  String.ofList t.chars

def skipBlanks (cs : List Char) : List Char :=
  cs.dropWhile Text.isWhiteSpace

def takeUpTo (width : Nat) (cs : List Char) : Option (Nat × List Char) :=
  match (cs.takeWhile Char.isDigit).take width with
  | [] => none
  | ds => some (Nat.ofDigitChars 10 ds 0, cs.drop ds.length)

def takeAll (cs : List Char) : Option (Nat × List Char) :=
  takeUpTo cs.length cs

def takeYear (cs : List Char) : Option (Int × List Char) :=
  match skipBlanks cs with
  | '-' :: rest => (takeAll rest).map fun r => (-r.1, r.2)
  | '+' :: rest => (takeAll rest).map fun r => (r.1, r.2)
  | cs => (takeUpTo 4 cs).map fun r => (r.1, r.2)

def takeField (cs : List Char) : Option (Nat × List Char) :=
  takeUpTo 2 (skipBlanks cs)

def expect (c : Char) : List Char → Option (List Char)
  | [] => none
  | d :: rest => if d = c then some rest else none

/-- Digits after the ninth do not count. -/
def takeFraction (cs : List Char) : Option (Nat × List Char) :=
  match cs with
  | '.' :: rest =>
      match rest.takeWhile Char.isDigit with
      | [] => none
      | ds =>
          let used := ds.take 9
          some (Nat.ofDigitChars 10 used 0 * Nat.pow 10 (9 - used.length), rest.drop ds.length)
  | _ => some (0, cs)

def ofFields? (year : Int) (month day hour minute second nanos : Nat) : Option Timestamp := do
  let date ← Date.of? year month day
  let time ← if second = 60 then TimeOfDay.of? hour minute 59 (1_000_000_000 + nanos)
    else TimeOfDay.of? hour minute second nanos
  some ⟨date, time⟩

/-- The fields up to the second, whose values are checked by `ofFields?` only, and the rest. -/
structure Fields where
  year : Int
  month : Nat
  day : Nat
  hour : Nat
  minute : Nat
  second : Nat

def takeFields (cs : List Char) : Option (Fields × List Char) := do
  let (year, cs) ← takeYear cs
  let cs ← expect '-' cs
  let (month, cs) ← takeField cs
  let cs ← expect '-' cs
  let (day, cs) ← takeField cs
  let (hour, cs) ← takeField cs
  let cs ← expect ':' cs
  let (minute, cs) ← takeField cs
  let cs ← expect ':' cs
  let (second, cs) ← takeField cs
  some (⟨year, month, day, hour, minute, second⟩, cs)

def Fields.timestamp? (f : Fields) (nanos : Nat) : Option Timestamp :=
  ofFields? f.year f.month f.day f.hour f.minute f.second nanos

def readWhole (cs : List Char) : Option Timestamp :=
  match takeFields cs with
  | some (f, []) => f.timestamp? 0
  | _ => none

def readFraction (cs : List Char) : Option Timestamp :=
  match takeFields cs with
  | some (f, rest) =>
      match takeFraction rest with
      | some (nanos, []) => f.timestamp? nanos
      | _ => none
  | none => none

def read? (s : String) : Option Timestamp :=
  (readWhole s.toList).or (readFraction s.toList)

end Querysmith.Timestamp
