import Querysmith.Sql.Numeral

namespace Querysmith.Sql

inductive Mark where
  | leftParen
  | rightParen
  | comma
  | semicolon
  | dot
  | star
  | plus
  | minus
  | slash
  | percent
  | equal
  | unequal
  | less
  | atMost
  | greater
  | atLeast
  | ampersand
  | bar
  | tilde
  | shiftLeft
  | shiftRight
  | other
deriving DecidableEq

inductive Token where
  | blank
  | word (s : String)
  | name (s : String) (double : Bool)
  | text (s : String)
  | integer (n : Int)
  | real (x : Float)
  | blob (bytes : List UInt8)
  | misseparated (shown : String)
  | oversized (digits : String)
  | parameter (label : String)
  | slot (number : Nat)
  /-- A place with a number that no parameter can have. -/
  | noSlot
  | mark (m : Mark)
  | illegal

structure Lexeme where
  token : Token
  position : Nat
  written : String

namespace Lexeme

def isMark (m : Mark) (l : Lexeme) : Bool :=
  match l.token with
  | .mark n => n = m
  | _ => false

def isWord (w : String) (l : Lexeme) : Bool :=
  match l.token with
  | .word s => s.toLower = w
  | _ => false

def stop (l : Lexeme) : Nat :=
  l.position + l.written.length

end Lexeme

/-- A run of blanks may go on with characters that cannot begin it. -/
def isBlankStart (c : Char) : Bool :=
  isSpace c && c ≠ '\x0b'

def isNameStart (c : Char) : Bool :=
  c.isAlpha || c = '_' || 128 ≤ c.toNat

def isNamePart (c : Char) : Bool :=
  c.isAlphanum || c = '_' || c = '$' || 128 ≤ c.toNat

def isHexDigit (c : Char) : Bool :=
  c.isDigit || ('a' ≤ c.toLower && c.toLower ≤ 'f')

def hexDigit (c : Char) : Nat :=
  if c.isDigit then c.toNat - 48 else c.toLower.toNat - 87

def hexNumber (cs : List Char) : Nat :=
  cs.foldl (fun n c => 16 * n + hexDigit c) 0

def hexBytes : List Char → List UInt8
  | a :: b :: rest => UInt8.ofNat (16 * hexDigit a + hexDigit b) :: hexBytes rest
  | _ => []

def spanOf (p : Char → Bool) (cs : List Char) : Nat :=
  (cs.takeWhile p).length

def readQuoted (quote : Char) : List Char → Option (List Char × Nat)
  | [] => none
  | [c] => if c = quote then some ([], 1) else none
  | c :: d :: rest =>
      if c = quote then
        if d = quote then (readQuoted quote rest).map fun (s, n) => (quote :: s, n + 2)
        else some ([], 1)
      else (readQuoted quote (d :: rest)).map fun (s, n) => (c :: s, n + 1)

def scanQuoted (quote : Char) (cs : List Char) : Token × Nat :=
  match readQuoted quote cs with
  | some (s, n) =>
      if quote = '\'' then (.text (String.ofList s), n)
      else (.name (String.ofList s) (quote = '"'), n)
  | none => (.illegal, cs.length)

def scanBracketed (cs : List Char) : Token × Nat :=
  let s := cs.takeWhile (· ≠ ']')
  if s.length < cs.length then (.name (String.ofList s) false, s.length + 1)
  else (.illegal, cs.length)

def scanBlob (cs : List Char) : Token × Nat :=
  let digits := cs.takeWhile isHexDigit
  if (cs.drop digits.length).head? = some '\'' ∧ digits.length % 2 = 0 then
    (.blob (hexBytes digits), digits.length + 2)
  else (.illegal, min (spanOf (· ≠ '\'') cs + 2) (cs.length + 1))

def scanWord (c : Char) (cs : List Char) : Token × Nat :=
  let word : Token × Nat :=
    (.word (String.ofList (c :: cs.takeWhile isNamePart)), spanOf isNamePart cs)
  match cs with
  | '\'' :: rest => if c = 'x' ∨ c = 'X' then scanBlob rest else word
  | _ => word

def spoiled (t : Token) (n : Nat) (cs : List Char) : Token × Nat :=
  match spanOf isNamePart (cs.drop n) with
  | 0 => (t, n)
  | more => (.illegal, n + more)

def closedUp (cs : List Char) : List Char :=
  cs.filter (· ≠ '_')

def lastMisplaced? (digit : Char → Bool) (cs : List Char) : Option Nat :=
  (List.range cs.length).reverse.find? fun i =>
    cs[i]? = some '_' && !(cs[i - 1]?.any digit && cs[i + 1]?.any digit)

/-- A number is shown with the digits before its last misplaced separator closed up, and written
over what was there. -/
def separatedToken (digit : Char → Bool) (value : List Char → Token) (cs : List Char) : Token :=
  match lastMisplaced? digit cs with
  | some n =>
      let before := closedUp (cs.take n)
      .misseparated (String.ofList (before ++ cs.drop before.length))
  | none => value (closedUp cs)

def hexToken (cs : List Char) : Token :=
  let digits := cs.drop 2
  if (digits.dropWhile (· = '0')).length ≤ 16 then
    .integer (Int64.ofNat (hexNumber digits)).toInt
  else .oversized (String.ofList cs)

def decimalToken (cs : List Char) : Token :=
  if cs.all Char.isDigit then .integer (Nat.ofDigitChars 10 cs 0)
  else
    match Numeral.read? cs with
    | some (m, _) => .real m.toFloat
    | none => .illegal

def isDigitPart (c : Char) : Bool :=
  c.isDigit || c = '_'

def fractionSpan : List Char → Nat
  | '.' :: rest => spanOf isDigitPart rest + 1
  | _ => 0

def exponentSpan : List Char → Nat
  | e :: c :: rest =>
      if e = 'e' ∨ e = 'E' then
        if c.isDigit then spanOf isDigitPart rest + 2
        else if (c = '+' ∨ c = '-') ∧ rest.head?.any Char.isDigit then spanOf isDigitPart rest + 2
        else 0
      else 0
  | _ => 0

def decimalSpan (cs : List Char) : Nat :=
  let whole := spanOf isDigitPart cs
  let fraction := fractionSpan (cs.drop whole)
  whole + fraction + exponentSpan (cs.drop (whole + fraction))

def scanDecimal (c : Char) (cs : List Char) : Token × Nat :=
  let n := decimalSpan (c :: cs)
  spoiled (separatedToken Char.isDigit decimalToken ((c :: cs).take n)) (n - 1) cs

def scanNumber (c : Char) (cs : List Char) : Token × Nat :=
  match cs with
  | x :: d :: rest =>
      if c = '0' ∧ (x = 'x' ∨ x = 'X') ∧ isHexDigit d then
        let n := spanOf (fun h => isHexDigit h || h = '_') rest + 2
        spoiled (separatedToken isHexDigit hexToken (c :: cs.take n)) n cs
      else scanDecimal c cs
  | _ => scanDecimal c cs

def scanDot (cs : List Char) : Token × Nat :=
  if cs.head?.any Char.isDigit then scanDecimal '.' cs else (.mark .dot, 0)

def labelSpan : List Char → Nat
  | ':' :: ':' :: rest => labelSpan rest + 2
  | c :: rest => if isNamePart c then labelSpan rest + 1 else 0
  | [] => 0

def scanSuffix (label : List Char) (cs : List Char) : Token × Nat :=
  match cs with
  | '(' :: rest =>
      let suffix := rest.takeWhile fun c => !isSpace c && c ≠ ')'
      if (rest.drop suffix.length).head? = some ')' then
        (.parameter (String.ofList (label ++ '(' :: suffix ++ [')'])), suffix.length + 2)
      else (.illegal, suffix.length + 1)
  | _ => (.parameter (String.ofList label), 0)

/-- A place for a parameter is a question mark, numbered or not, or a label behind a sign. Labels
that are numbers are kept for other uses. -/
def scanParameter (c : Char) (cs : List Char) : Token × Nat :=
  if c = '?' then
    (.parameter (String.ofList (c :: cs.takeWhile Char.isDigit)), spanOf Char.isDigit cs)
  else
    let n := labelSpan cs
    let label := cs.take n
    if !label.any isNamePart then (.illegal, n)
    else
      let (token, more) := scanSuffix (c :: label) (cs.drop n)
      if c = '#' ∧ label.head?.any Char.isDigit then (.mark .other, n + more)
      else (token, n + more)

def commentSpan : List Char → Nat
  | '*' :: '/' :: _ => 2
  | _ :: rest => commentSpan rest + 1
  | [] => 0

def scanMinus (cs : List Char) : Token × Nat :=
  match cs with
  | '-' :: rest => (.blank, spanOf (· ≠ '\n') rest + 1)
  | '>' :: '>' :: _ => (.mark .other, 2)
  | '>' :: _ => (.mark .other, 1)
  | _ => (.mark .minus, 0)

def scanSlash (cs : List Char) : Token × Nat :=
  match cs with
  | '*' :: c :: rest => (.blank, commentSpan (c :: rest) + 1)
  | _ => (.mark .slash, 0)

def scanComparison (c : Char) (cs : List Char) : Token × Nat :=
  match c, cs with
  | '=', '=' :: _ => (.mark .equal, 1)
  | '=', _ => (.mark .equal, 0)
  | '<', '=' :: _ => (.mark .atMost, 1)
  | '<', '>' :: _ => (.mark .unequal, 1)
  | '<', '<' :: _ => (.mark .shiftLeft, 1)
  | '<', _ => (.mark .less, 0)
  | '>', '=' :: _ => (.mark .atLeast, 1)
  | '>', '>' :: _ => (.mark .shiftRight, 1)
  | '>', _ => (.mark .greater, 0)
  | '!', '=' :: _ => (.mark .unequal, 1)
  | '|', '|' :: _ => (.mark .other, 1)
  | '|', _ => (.mark .bar, 0)
  | _, _ => (.illegal, 0)

def mark? (c : Char) : Option Mark :=
  match c with
  | '(' => some .leftParen
  | ')' => some .rightParen
  | ',' => some .comma
  | ';' => some .semicolon
  | '*' => some .star
  | '+' => some .plus
  | '%' => some .percent
  | '&' => some .ampersand
  | '~' => some .tilde
  | _ => none

def scanMark (c : Char) (cs : List Char) : Token × Nat :=
  match c with
  | '-' => scanMinus cs
  | '/' => scanSlash cs
  | '.' => scanDot cs
  | _ =>
      match mark? c with
      | some m => (.mark m, 0)
      | none => scanComparison c cs

def scan (c : Char) (cs : List Char) : Token × Nat :=
  if isBlankStart c then (.blank, spanOf isSpace cs)
  else if c = '\ufeff' then (.blank, 0)
  else if isNameStart c then scanWord c cs
  else if c.isDigit then scanNumber c cs
  else if c = '\'' ∨ c = '"' ∨ c = '\x60' then scanQuoted c cs
  else if c = '[' then scanBracketed cs
  else if c = '?' ∨ c = ':' ∨ c = '@' ∨ c = '$' ∨ c = '#' then scanParameter c cs
  else scanMark c cs

def lexFrom (position : Nat) : List Char → List Lexeme
  | [] => []
  | c :: cs =>
      let (token, n) := scan c cs
      let rest := lexFrom (position + n + 1) (cs.drop n)
      match token with
      | .blank => rest
      | token => ⟨token, position, String.ofList (c :: cs.take n)⟩ :: rest
termination_by cs => cs.length

structure Slots where
  count : Nat
  labels : List (String × Nat)

def maxSlot : Nat := 32766

/-- The number of a place, and the numbers given after it. A question mark takes the next number, a
label that was there before keeps its own. Places that take the next number may come to be behind
the greatest one; `Lexeme.isBeyond` tells them. -/
def Slots.number? (s : Slots) (label : String) : Option (Nat × Slots) :=
  match label.toList with
  | ['?'] => some (s.count + 1, { s with count := s.count + 1 })
  | '?' :: ds =>
      let n := Nat.ofDigitChars 10 ds 0
      if 0 < n ∧ n ≤ maxSlot then some (n, { s with count := max s.count n }) else none
  | _ =>
      match s.labels.lookup label with
      | some n => some (n, s)
      | none => some (s.count + 1, ⟨s.count + 1, (label, s.count + 1) :: s.labels⟩)

def numberSlots : Slots → List Lexeme → List Lexeme
  | _, [] => []
  | slots, l :: rest =>
      match l.token with
      | .parameter label =>
          match slots.number? label with
          | some (n, slots) => { l with token := .slot n } :: numberSlots slots rest
          | none => { l with token := .noSlot } :: numberSlots slots rest
      | _ => l :: numberSlots slots rest

/-- A text ends at its first character zero. -/
def lexemes (text : List Char) : List Lexeme :=
  numberSlots ⟨0, []⟩ (lexFrom 0 (text.takeWhile (· ≠ '\x00')))

def Lexeme.isBeyond (l : Lexeme) : Bool :=
  match l.token with
  | .slot n => maxSlot < n
  | _ => false

def slotCount (ls : List Lexeme) : Nat :=
  ls.foldl (fun n l =>
    match l.token with
    | .slot k => max n k
    | _ => n) 0

end Querysmith.Sql
