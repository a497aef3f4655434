/-!
Doubles and their decimal texts.

`shortest` finds the shortest decimal that reads back as a double: of the decimals
`digits · 10 ^ exponent` that round to the double, one with the largest exponent, and of those the
nearest. All comparisons are exact: lengths are counted in quarters of the distance between two doubles.
-/

namespace RecordMarkup.Number

def decimalDigits (n : Nat) : List Char := Nat.toDigits 10 n

def digitLimit : Nat := 4300

def exceedsLimit (n : Int) : Bool := Nat.pow 10 digitLimit ≤ n.natAbs

def zeros (n : Nat) : List Char := List.replicate n '0'

/-- The digits with the decimal point after the first `point` of them; zeros fill the gap between
the digits and a point outside them. -/
def positional (digits : List Char) (point : Int) : List Char :=
  if point ≤ 0 then '0' :: '.' :: (zeros (-point).toNat ++ digits)
  else if digits.length ≤ point then digits ++ zeros (point - digits.length).toNat
  else digits.take point.toNat ++ '.' :: digits.drop point.toNat

structure ExponentStyle where
  mark : Char
  minDigits : Nat

def ExponentStyle.write (style : ExponentStyle) (exponent : Int) : List Char :=
  let digits := decimalDigits exponent.natAbs
  style.mark :: (if exponent < 0 then '-' else '+') ::
    (zeros (style.minDigits - digits.length) ++ digits)

def scientific (style : ExponentStyle) (digits : List Char) (exponent : Int) : List Char :=
  positional digits 1 ++ style.write exponent

def signed (negative : Bool) (text : List Char) : List Char :=
  if negative then '-' :: text else text

/-- What a double stands for: `± significand · 2 ^ exponent`, an infinity, or no number. -/
inductive FloatParts
  | finite (negative : Bool) (significand : Nat) (exponent : Int)
  | infinite (negative : Bool)
  | nan
  deriving DecidableEq

/-- A power of a whole number; an exponent below zero counts as zero. -/
def power (base : Nat) (exponent : Int) : Nat := base.pow exponent.toNat

def hiddenBit : Nat := Nat.pow 2 52

def FloatParts.ofBits (bits : UInt64) : FloatParts :=
  let n := bits.toNat
  let negative := decide (Nat.pow 2 63 ≤ n)
  let biased : Nat := n / hiddenBit % Nat.pow 2 11
  let fraction := n % hiddenBit
  if biased = 0x7FF then
    if fraction = 0 then .infinite negative else .nan
  else if biased = 0 then .finite negative fraction (-1074)
  else .finite negative (hiddenBit + fraction) ((biased : Int) - 1075)

def FloatParts.of (x : Float) : FloatParts := ofBits x.toBits

def integral? (significand : Nat) (exponent : Int) : Option Nat :=
  if 0 ≤ exponent then some (significand * power 2 exponent)
  else if significand % power 2 (-exponent) = 0 then some (significand / power 2 (-exponent))
  else none

/-- Below the least significand of full length, doubles lie twice as dense. -/
def quartersBelow (significand : Nat) (exponent : Int) : Nat :=
  if significand = hiddenBit ∧ -1074 < exponent then 1 else 2

/-- The point `digits · 10 ^ grid` rounds to the double; the ends of the interval do so if the
significand is even. -/
def readsBack (significand : Nat) (exponent : Int) (digits : Nat) (grid : Int) : Bool :=
  let scale (quarters : Nat) := quarters * power 2 (exponent - 2) * power 10 (-grid)
  let point := digits * power 2 (2 - exponent) * power 10 grid
  let low := scale (4 * significand - quartersBelow significand exponent)
  let high := scale (4 * significand + 2)
  if significand % 2 = 0 then low ≤ point && point ≤ high else low < point && point < high

/-- The point of a decimal grid that is nearest to the double among those that read back; a tie
goes to the even one. -/
def onGrid? (significand : Nat) (exponent grid : Int) : Option Nat :=
  let value := 4 * significand * power 2 (exponent - 2) * power 10 (-grid)
  let unit := power 2 (2 - exponent) * power 10 grid
  let below := value / unit
  match readsBack significand exponent below grid, readsBack significand exponent (below + 1) grid with
  | true, false => some below
  | false, true => some (below + 1)
  | false, false => none
  | true, true =>
    let middle := (2 * below + 1) * unit
    if 2 * value < middle ∨ (2 * value = middle ∧ below % 2 = 0) then some below
    else some (below + 1)

def exactDecimal (significand : Nat) (exponent : Int) : Nat × Int :=
  if 0 ≤ exponent then (significand * power 2 exponent, 0)
  else (significand * power 5 (-exponent), exponent)

def searchGrids (significand : Nat) (exponent : Int) : Nat → Int → Nat × Int
  | 0, _ => exactDecimal significand exponent
  | tries + 1, grid =>
    match onGrid? significand exponent grid with
    | some digits => (digits, grid)
    | none => searchGrids significand exponent tries (grid - 1)

/-- No power of ten above this one reads back: `0.30103` is a little more than `log 2 / log 10`. -/
def coarsestGrid (significand : Nat) (exponent : Int) : Int :=
  (Nat.log2 significand + 1 + exponent) * 30103 / 100000 + 1

/-- Digits and exponent of the shortest decimal for `significand · 2 ^ exponent`, which is not
zero. Seventeen digits always suffice, so the search meets them in time. -/
def shortest (significand : Nat) (exponent : Int) : Nat × Int :=
  searchGrids significand exponent 24 (coarsestGrid significand exponent)

def plainFinite (negative : Bool) (significand : Nat) (exponent : Int) : List Char :=
  signed negative <|
    match integral? significand exponent with
    | some n => decimalDigits n
    | none =>
      let (digits, grid) := shortest significand exponent
      let digits := decimalDigits digits
      positional digits (digits.length + grid)

def plainFloat (x : Float) : String :=
  match FloatParts.of x with
  | .finite negative significand exponent => .ofList (plainFinite negative significand exponent)
  | .infinite negative => if negative then "-inf" else "inf"
  | .nan => "NaN"

def isFraction (x : Float) : Bool :=
  match FloatParts.of x with
  | .finite _ significand exponent => (integral? significand exponent).isNone
  | _ => false

def literalExponent : ExponentStyle := ⟨'e', 2⟩

/-- From `0.0001` up to sixteen digits before the point a literal double is positional, and always
has a digit after the point. -/
def literalFinite (negative : Bool) (significand : Nat) (exponent : Int) : List Char :=
  signed negative <|
    if significand = 0 then ['0', '.', '0']
    else
      let (digits, grid) := shortest significand exponent
      let digits := decimalDigits digits
      let point := digits.length + grid
      if -4 < point ∧ point ≤ 16 then
        positional digits point ++ (if digits.length ≤ point then ['.', '0'] else [])
      else scientific literalExponent digits (point - 1)

def literalFloat (x : Float) : String :=
  match FloatParts.of x with
  | .finite negative significand exponent => .ofList (literalFinite negative significand exponent)
  | .infinite negative => if negative then "-inf" else "inf"
  | .nan => "nan"

end RecordMarkup.Number
