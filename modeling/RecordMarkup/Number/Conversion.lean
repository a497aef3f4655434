import RecordMarkup.Number.Decimal
import RecordMarkup.Number.Float

namespace RecordMarkup.Number

def stripZeros : Nat → Nat → Int → Nat × Int
  | 0, digits, exponent => (digits, exponent)
  | bound + 1, digits, exponent =>
    if digits ≠ 0 ∧ digits % 10 = 0 then stripZeros bound (digits / 10) (exponent + 1)
    else (digits, exponent)

/-- A number as `± digits · 10 ^ exponent` where `digits` has no factor ten, and zero as `+ 0`. -/
inductive Exact
  | finite (negative : Bool) (digits : Nat) (exponent : Int)
  | infinite (negative : Bool)
  deriving DecidableEq

namespace Exact

def normal (negative : Bool) (digits : Nat) (exponent : Int) : Exact :=
  if digits = 0 then finite false 0 0
  else
    let (digits, exponent) := stripZeros (decimalDigits digits).length digits exponent
    finite negative digits exponent

def ofInt (n : Int) : Exact := normal (n < 0) n.natAbs 0

def ofFloat? (x : Float) : Option Exact :=
  match FloatParts.of x with
  | .finite negative significand exponent =>
    some <|
      if 0 ≤ exponent then normal negative (significand * power 2 exponent) 0
      else normal negative (significand * power 5 (-exponent)) exponent
  | .infinite negative => some (infinite negative)
  | .nan => none

def ofDecimal : Decimal → Exact
  | .finite negative digits exponent => normal negative digits exponent
  | .infinite negative => infinite negative

end Exact

/-- All numbers of more digits before the point are infinite as doubles, and all with more zeros
after it are zero. -/
def widestPoint : Int := 400

def nearestFloat (negative : Bool) (digits : Nat) (exponent : Int) : Float :=
  let point := (decimalDigits digits).length + exponent
  let x : Float :=
    if digits = 0 ∨ point < -widestPoint then 0
    else if widestPoint < point then 1 / 0
    else Float.ofScientific digits (exponent < 0) exponent.natAbs
  if negative then -x else x

def Decimal.toFloat : Decimal → Float
  | .finite negative digits exponent => nearestFloat negative digits exponent
  | .infinite negative => if negative then -1 / 0 else 1 / 0

def isMargin (c : Char) : Bool := Text.isBlank c && !(0x1C ≤ c.toNat && c.toNat ≤ 0x1F)

def dropSeparators (afterDigit : Bool) : List Char → Option (List Char)
  | [] => some []
  | '_' :: c :: cs =>
    if afterDigit && c.isDigit then (dropSeparators true cs).map (c :: ·) else none
  | '_' :: [] => none
  | c :: cs => (dropSeparators c.isDigit cs).map (c :: ·)

def asciiDigit (c : Char) : Char :=
  match Text.digitValue? c with
  | some d => Char.ofNat (0x30 + d)
  | none => c

def floatOfText? (s : String) : Option Float := do
  let cs := s.toList.dropWhile isMargin
  let cs := (cs.reverse.dropWhile isMargin).reverse
  let (negative, cs) := Decimal.takeSign (← dropSeparators false (cs.map asciiDigit))
  match cs.map Char.toLower with
  | ['i', 'n', 'f'] => some (Decimal.toFloat (.infinite negative))
  | ['i', 'n', 'f', 'i', 'n', 'i', 't', 'y'] => some (Decimal.toFloat (.infinite negative))
  | ['n', 'a', 'n'] => some (0 / 0)
  | _ => (Decimal.finite? negative cs).map Decimal.toFloat

def floatOfInt? (n : Int) : Option Float :=
  let x := nearestFloat (n < 0) n.natAbs 0
  if x.isInf then none else some x

end RecordMarkup.Number
