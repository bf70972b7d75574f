import TableQuery.Json
import TableQuery.Row

/-!
# Values as JSON

Values and rows as JSON, and values back. An integer that fits 64 bits stays an integer, and minus
zero is a floating-point number. Any other number is read into a significand of 64 bits, further
digits being dropped, which is then scaled by a power of ten; so long numbers need not be the
nearest ones. A floating-point number is written with the fewest digits that read back: plainly from
`1e-5` up to below `1e16`, and with an exponent beyond.
-/

namespace TableQuery

namespace JsonNumber

/-- The largest significand. -/
def maxSignificand : Nat := Nat.pow 2 64 - 1

/-- A significand with one more digit, if it still fits. -/
def extend? (significand : Nat) (digit : Char) : Option Nat :=
  let next := significand * 10 + (digit.toNat - '0'.toNat)
  if next ≤ maxSignificand then some next else none

/-- The significand of the digits that fit, and the number of digits left over. -/
def readDigits (significand : Nat) : List Char → Nat × Nat
  | [] => (significand, 0)
  | digit :: rest =>
    match extend? significand digit with
    | some next => readDigits next rest
    | none => (significand, rest.length + 1)

/-- The powers of ten up to this one are exact enough to scale by. -/
def maxPower : Nat := 308

/-- A power of ten as a binary number. -/
def power (exponent : Nat) : Binary64 := Decimal.toBinary64 false ⟨1, exponent⟩

/-- A number divided by a power of ten, in steps of at most the largest power; after a few steps
nothing is left to divide. -/
def divideByPower : Nat → Binary64 → Nat → Binary64
  | 0, _, _ => .zero false
  | steps + 1, x, exponent =>
    if exponent ≤ maxPower then x / power exponent
    else divideByPower steps (x / power maxPower) (exponent - maxPower)

/-- A significand scaled by a power of ten; none when the result is infinite. -/
def scaled? (significand : Nat) (exponent : Int) : Option Binary64 :=
  let x := Binary64.ofInt significand
  if significand = 0 then some x
  else if exponent < 0 then some (divideByPower 4 x exponent.natAbs)
  else if maxPower < exponent.natAbs then none
  else
    let product := x * power exponent.natAbs
    if product.isFinite then some product else none

/-- The value of a number; none when it is too large. -/
def value? (number : JsonNumber) : Option Value :=
  let (significand, dropped) := readDigits 0 number.whole
  let sign (x : Binary64) := if number.negative then -x else x
  if dropped = 0 ∧ number.fraction.isNone ∧ number.exponent.isNone then
    let integer : Int := if number.negative then -significand else significand
    if Literal.fitsInt64 integer && !(number.negative && significand == 0) then
      some (.int64 (Int64.ofInt integer))
    else some (.float64 (sign (Binary64.ofInt significand)))
  else
    let fraction := number.fraction.getD []
    let (significand, unread) := readDigits significand fraction
    let exponent := (dropped : Int) - (fraction.length - unread : Nat) + number.exponent.getD 0
    (scaled? significand exponent).map fun x => .float64 (sign x)

end JsonNumber

namespace Json

/-- A floating-point number; what is not finite is written as null. -/
def writeBinary64 : Binary64 → String
  | .finite negative significand exponent _ =>
    let d := Decimal.shortest .even significand exponent
    let (digits, power) := d.trimmed
    let scale := digits.length + power
    let text :=
      if significand = 0 then d.plain ++ ".0".toList
      else if -4 ≤ scale ∧ scale ≤ 16 then
        if 0 ≤ power then d.plain ++ ".0".toList else d.plain
      else d.scientific
    String.ofList (Binary64.signed negative text)
  | _ => "null"

/-- A value. -/
def writeValue : Value → String
  | .null => "null"
  | .int64 i => Literal.writeInt i.toInt
  | .float64 x => writeBinary64 x
  | .text s => writeString s

/-- The value that a tree stands for: null, a number or a string. -/
def value? : Json → Option Value
  | null => some .null
  | number n => n.value?
  | string points => (textOf? points).map .text
  | _ => none

end Json

/-- A row as JSON: an object of its cells in order. -/
def Row.toJson (row : Row) : String :=
  Json.writeObject (row.cells.map fun (name, value) => (name, Json.writeValue value))

/-- The value that a JSON text spells. -/
def Value.ofJson (text : String) : Result Value :=
  match (Json.read? text).bind Json.value? with
  | some value => .ok value
  | none => .error .settings

end TableQuery
