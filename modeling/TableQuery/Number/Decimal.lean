import TableQuery.Number.Binary64

/-!
# Decimal numbers

A decimal is a whole number times a power of ten. It rounds to a binary number, and `shortest`
goes back: the fewest digits that read back to the same binary number and, among those, the
nearest. Two layouts print a decimal: the plain one never writes an exponent, the scientific one
puts the point after the first digit.
-/

namespace TableQuery

/-- The number `digits * 10 ^ exponent`. -/
structure Decimal where
  digits : Nat
  exponent : Int
  deriving DecidableEq

namespace Decimal

/-- The digits, most significant first. -/
def digitChars (d : Decimal) : List Char := Nat.toDigits 10 d.digits

/-- The power of ten just above the number: it lies between `10 ^ (scale - 1)` and `10 ^ scale`. -/
def scale (d : Decimal) : Int := d.digitChars.length + d.exponent

/-- The numerator of the number as a fraction. -/
def num (d : Decimal) : Nat := d.digits * Nat.pow 10 d.exponent.toNat

/-- The denominator of the number as a fraction. -/
def den (d : Decimal) : Nat := Nat.pow 10 (-d.exponent).toNat

/-- Beyond this power of ten a number overflows every format, and below its inverse a number
vanishes in every format, so no larger power is ever computed. -/
def scaleLimit : Int := 400

/-- The nearest significand and exponent of a binary format; none when the number is too large. -/
def round (format : BinaryFormat) (d : Decimal) : Option (Nat × Int) :=
  if d.digits = 0 ∨ d.scale < -scaleLimit then some (0, format.minExponent)
  else if scaleLimit < d.scale then none
  else format.round d.num d.den

/-- The double-precision number nearest to a decimal of the given sign. -/
def toBinary64 (negative : Bool) (d : Decimal) : Binary64 :=
  match d.round .double with
  | some (significand, exponent) => .pack negative significand exponent
  | none => .infinite negative

/-- The single-precision number nearest to a decimal, held in double precision. -/
def toSingle (negative : Bool) (d : Decimal) : Binary64 :=
  match d.round .single with
  | some (significand, exponent) =>
    .ofRatio negative (significand * Nat.pow 2 exponent.toNat) (Nat.pow 2 (-exponent).toNat)
  | none => .infinite negative

/-! ## The fewest digits that read back -/

/-- Which of two neighbouring decimals is taken when the number lies halfway between them. -/
inductive Tie where
  | even
  | up

/-- The exponent `k` with `10 ^ k ≤ num / den < 10 ^ (k + 1)`, for positive `num` and `den`. -/
def decade (num den : Nat) : Int :=
  if den ≤ num then ((Nat.toDigits 10 (num / den)).length : Int) - 1
  else -((Nat.toDigits 10 ((den + num - 1) / num - 1)).length : Int)

/-- The decimals just below and just above `num / den` on the grid of `10 ^ exponent`, the nearer
one first. -/
def neighbours (tie : Tie) (num den : Nat) (exponent : Int) : List Decimal :=
  let num := num * Nat.pow 10 (-exponent).toNat
  let den := den * Nat.pow 10 exponent.toNat
  let below := num / den
  let twice := 2 * (num % den)
  let belowFirst :=
    if twice = den then
      match tie with
      | .even => below % 2 == 0
      | .up => false
    else decide (twice < den)
  if belowFirst then [⟨below, exponent⟩, ⟨below + 1, exponent⟩]
  else [⟨below + 1, exponent⟩, ⟨below, exponent⟩]

/-- The number `significand * 2 ^ exponent` as a decimal, exactly. -/
def exact (significand : Nat) (exponent : Int) : Decimal :=
  ⟨significand * Nat.pow 2 exponent.toNat * Nat.pow 5 (-exponent).toNat, min exponent 0⟩

/-- Seventeen digits always tell two double-precision numbers apart. -/
def maxDigits : Nat := 17

/-- The decimal of fewest digits that reads back to a number of this significand and exponent. -/
def shortest (tie : Tie) (significand : Nat) (exponent : Int) : Decimal :=
  if significand = 0 then ⟨0, 0⟩
  else
    let num := significand * Nat.pow 2 exponent.toNat
    let den := Nat.pow 2 (-exponent).toNat
    let top := decade num den
    let found := (List.range maxDigits).findSome? fun (count : Nat) =>
      (neighbours tie num den (top - count)).find? fun d =>
        decide (d.round .double = some (significand, exponent))
    found.getD (exact significand exponent)

/-- The digits without the zeros at their end, and the exponent that makes up for them. -/
def trimmed (d : Decimal) : List Char × Int :=
  let kept := (d.digitChars.reverse.dropWhile (· == '0')).reverse
  if kept.isEmpty then (['0'], 0)
  else (kept, d.exponent + (d.digitChars.length - kept.length : Nat))

/-! ## Layouts -/

/-- The number written without an exponent: `2.5`, `3`, `0.0001`. -/
def plain (d : Decimal) : List Char :=
  let (digits, exponent) := d.trimmed
  let point := digits.length + exponent
  if 0 ≤ exponent then digits ++ List.replicate exponent.toNat '0'
  else if 0 < point then digits.take point.toNat ++ '.' :: digits.drop point.toNat
  else '0' :: '.' :: (List.replicate (-point).toNat '0' ++ digits)

/-- An exponent is written with its sign and no leading zeros. -/
def exponentChars (exponent : Int) : List Char :=
  (if exponent < 0 then '-' else '+') :: Nat.toDigits 10 exponent.natAbs

/-- The number with one digit before the point and an exponent: `1e+16`, `1.5e-7`. -/
def scientific (d : Decimal) : List Char :=
  let (digits, exponent) := d.trimmed
  let power := exponent + (digits.length - 1 : Nat)
  match digits with
  | [] => []
  | [lead] => lead :: 'e' :: exponentChars power
  | lead :: rest => lead :: '.' :: (rest ++ 'e' :: exponentChars power)

end Decimal

namespace Binary64

/-- A minus sign in front of negative numbers. -/
def signed (negative : Bool) (text : List Char) : List Char :=
  if negative then '-' :: text else text

/-- The text of a number: plain digits, as few as read back. -/
def toText : Binary64 → String
  | nan _ => "NaN"
  | infinite negative => String.ofList (signed negative "inf".toList)
  | finite negative significand exponent _ =>
    String.ofList (signed negative (Decimal.shortest .up significand exponent).plain)

end Binary64

end TableQuery
