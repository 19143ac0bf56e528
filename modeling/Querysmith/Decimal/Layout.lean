import Querysmith.Decimal.Shortest

namespace Querysmith.Decimal

structure Layout where
  tie : Tie
  positional : Int → Bool
  marksWhole : Bool

/-- Digits without zeros at their end; the place is that of the first. -/
structure Digits where
  digits : List Char
  place : Int

def dropTrailingZeros (ds : List Char) : List Char :=
  (ds.reverse.dropWhile (· = '0')).reverse

def GridPoint.toDigits (d : GridPoint) : Digits :=
  let ds := Nat.toDigits 10 d.coefficient
  ⟨dropTrailingZeros ds, d.exponent + ds.length - 1⟩

def zeros (n : Nat) : List Char :=
  List.replicate n '0'

def Digits.positional (d : Digits) (marksWhole : Bool) : List Char :=
  if d.place < 0 then ['0', '.'] ++ zeros (-d.place - 1).toNat ++ d.digits
  else
    let width := d.place.toNat + 1
    let whole := d.digits.take width ++ zeros (width - d.digits.length)
    match d.digits.drop width with
    | [] => if marksWhole then whole ++ ['.', '0'] else whole
    | fraction => whole ++ ['.'] ++ fraction

def Digits.scientific (d : Digits) : List Char :=
  let mantissa := match d.digits with
    | [] => ['0']
    | [c] => [c]
    | c :: fraction => c :: '.' :: fraction
  let sign := if d.place < 0 then '-' else '+'
  mantissa ++ ['e', sign] ++ Nat.toDigits 10 d.place.natAbs

def Layout.unsigned (l : Layout) (b : Magnitude) : List Char :=
  if b.significand = 0 then if l.marksWhole then ['0', '.', '0'] else ['0']
  else
    let d := (b.shortest l.tie).toDigits
    if l.positional d.place then d.positional l.marksWhole else d.scientific

def Layout.format (l : Layout) (x : Float) : String :=
  String.ofList ((if isNegative x then ['-'] else []) ++ l.unsigned (magnitude x))

end Querysmith.Decimal
