

namespace Querysmith.Sql

def isSpace (c : Char) : Bool :=
  c = ' ' || (9 ≤ c.toNat && c.toNat ≤ 13)

/-- A number without its sign, its leading digits times a power of ten. Texts with a point or an
exponent are not whole, whatever they amount to. -/
structure Numeral where
  significand : Nat
  exponent : Int
  isWhole : Bool
deriving DecidableEq

namespace Numeral

def sign (cs : List Char) : Bool × List Char :=
  match cs with
  | '-' :: rest => (true, rest)
  | '+' :: rest => (false, rest)
  | _ => (false, cs)

def boundedDigits (ds : List Char) : Nat :=
  min (Nat.ofDigitChars 10 ds 0) 10000

def readExponent (cs : List Char) : Option (Int × List Char) :=
  match cs with
  | c :: rest =>
      if c = 'e' ∨ c = 'E' then
        let (negative, rest) := sign rest
        match rest.takeWhile Char.isDigit with
        | [] => none
        | ds =>
            let e : Int := boundedDigits ds
            some (if negative then -e else e, rest.dropWhile Char.isDigit)
      else none
  | [] => none

def readFraction (cs : List Char) : Option (List Char × List Char) :=
  match cs with
  | '.' :: rest => some (rest.takeWhile Char.isDigit, rest.dropWhile Char.isDigit)
  | _ => none

/-- From here on one more digit might not fit a word. -/
def fullSignificand : Nat := (0x10000000000000000 - 10) / 10

def takeDigits (significand : Nat) : List Char → Nat × List Char
  | [] => (significand, [])
  | d :: ds =>
      if significand < fullSignificand then takeDigits (10 * significand + (d.toNat - 48)) ds
      else (significand, d :: ds)

/-- Digits that the significand does not take count as zeros. -/
def ofDigits (whole fraction : List Char) (e : Int) (isWhole : Bool) : Numeral :=
  let (significand, left) := takeDigits 0 whole
  let (significand, dropped) := takeDigits significand fraction
  ⟨significand, e + left.length - (fraction.length - dropped.length : Nat), isWhole⟩

def ofNat (n : Nat) : Numeral :=
  ofDigits (Nat.toDigits 10 n) [] 0 true

def read? (cs : List Char) : Option (Numeral × List Char) :=
  let whole := cs.takeWhile Char.isDigit
  let behind := cs.dropWhile Char.isDigit
  let fraction := readFraction behind
  let (digits, rest) := fraction.getD ([], behind)
  if whole.isEmpty && digits.isEmpty then none
  else
    match readExponent rest with
    | some (e, rest) => some (ofDigits whole digits e false, rest)
    | none => some (ofDigits whole digits 0 fraction.isNone, rest)

def wholePart (m : Numeral) : Nat :=
  m.significand * Nat.pow 10 m.exponent.toNat

def toFloat (m : Numeral) : Float :=
  if m.significand = 0 then 0
  else if 0 ≤ m.exponent then Float.ofScientific m.significand false m.exponent.toNat
  else Float.ofScientific m.significand true m.exponent.natAbs

def signedFloat (negative : Bool) (m : Numeral) : Float :=
  if negative then -m.toFloat else m.toFloat

end Numeral

end Querysmith.Sql
