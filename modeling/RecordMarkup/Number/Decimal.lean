import RecordMarkup.Number.Float
import RecordMarkup.Text.Chars

namespace RecordMarkup.Number

inductive Decimal
  | finite (negative : Bool) (digits : Nat) (exponent : Int)
  | infinite (negative : Bool)
  deriving DecidableEq

/-- What stands in the place of a number and is none. Among decimals it may carry a payload, and may
be signalling: then it must not be compared. -/
inductive NaN
  | double
  | decimal (negative signalling : Bool) (payload : Nat)
  deriving DecidableEq

namespace NaN

def chars : NaN → List Char
  | double => "nan".toList
  | decimal negative signalling payload =>
    signed negative <| (if signalling then ['s'] else []) ++ "NaN".toList ++
      (if payload = 0 then [] else decimalDigits payload)

def text (n : NaN) : String := .ofList n.chars

def isSignalling : NaN → Bool
  | decimal _ signalling _ => signalling
  | double => false

end NaN

namespace Decimal

def exponentStyle : ExponentStyle := ⟨'E', 1⟩

def chars : Decimal → List Char
  | finite negative digits exponent =>
    let digits := decimalDigits digits
    let point := digits.length + exponent
    signed negative <|
      if exponent ≤ 0 ∧ -6 < point then positional digits point
      else scientific exponentStyle digits (point - 1)
  | infinite negative => signed negative "Infinity".toList

def text (d : Decimal) : String := .ofList d.chars

def isZero : Decimal → Bool
  | finite _ digits _ => digits = 0
  | _ => false

def largestExponent : Int := 999999999999999999

def smallestExponent : Int := -1999999999999999997

def inRange : Decimal → Bool
  | finite _ digits exponent =>
    (decimalDigits digits).length + exponent - 1 ≤ largestExponent && smallestExponent ≤ exponent
  | infinite _ => true

def takeDigits : List Char → Nat → Nat → Nat × Nat × List Char
  | [], value, count => (value, count, [])
  | c :: cs, value, count =>
    match Text.digitValue? c with
    | some d => takeDigits cs (10 * value + d) (count + 1)
    | none => (value, count, c :: cs)

def takeSign : List Char → Bool × List Char
  | '-' :: cs => (true, cs)
  | '+' :: cs => (false, cs)
  | cs => (false, cs)

def exponent? : List Char → Option Int
  | [] => some 0
  | c :: cs =>
    if c = 'e' ∨ c = 'E' then
      let (negative, cs) := takeSign cs
      match takeDigits cs 0 0 with
      | (_, 0, _) => none
      | (value, _, []) => some (if negative then -value else value)
      | _ => none
    else none

def finite? (negative : Bool) (cs : List Char) : Option Decimal :=
  let (whole, wholeCount, rest) := takeDigits cs 0 0
  let (digits, fractionCount, rest) :=
    match rest with
    | '.' :: rest =>
      let (digits, count, rest) := takeDigits rest whole 0
      (digits, count, rest)
    | rest => (whole, 0, rest)
  if wholeCount + fractionCount = 0 then none
  else (exponent? rest).map fun exponent => finite negative digits (exponent - fractionCount)

def nan? (negative signalling : Bool) (cs : List Char) : Option NaN :=
  match takeDigits cs 0 0 with
  | (payload, _, []) => some (.decimal negative signalling payload)
  | _ => none

def ofText? (s : String) : Option (Decimal ⊕ NaN) :=
  let cs := s.toList.dropWhile Text.isBlank
  let cs := (cs.reverse.dropWhile Text.isBlank).reverse
  let (negative, cs) := takeSign (cs.filter (· ≠ '_'))
  match cs.map Char.toLower with
  | ['i', 'n', 'f'] => some (.inl (infinite negative))
  | ['i', 'n', 'f', 'i', 'n', 'i', 't', 'y'] => some (.inl (infinite negative))
  | 'n' :: 'a' :: 'n' :: payload => (nan? negative false payload).map .inr
  | 's' :: 'n' :: 'a' :: 'n' :: payload => (nan? negative true payload).map .inr
  | _ => (finite? negative cs).map .inl

def ofInt (n : Int) : Decimal := finite (n < 0) n.natAbs 0

/-- `± significand · 2 ^ exponent` as a decimal with as few places as it has; at most `bound` factors
of two are cancelled. -/
def ofBinary (negative : Bool) : Nat → Nat → Int → Decimal
  | 0, significand, exponent => finite negative (significand * power 5 (-exponent)) exponent
  | bound + 1, significand, exponent =>
    if 0 ≤ exponent then finite negative (significand * power 2 exponent) 0
    else if significand % 2 = 0 then ofBinary negative bound (significand / 2) (exponent + 1)
    else finite negative (significand * power 5 (-exponent)) exponent

def ofFloat (x : Float) : Decimal ⊕ NaN :=
  match FloatParts.of x with
  | .finite negative significand exponent =>
    .inl (if significand = 0 then finite negative 0 0
      else ofBinary negative 1075 significand exponent)
  | .infinite negative => .inl (infinite negative)
  | .nan => .inr (.decimal false false 0)

end Decimal

end RecordMarkup.Number
