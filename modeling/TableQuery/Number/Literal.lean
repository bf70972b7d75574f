import TableQuery.Number.Decimal

/-!
# Numbers as written

The texts that spell an integer or a floating-point number. An integer is an optional sign and
digits. A floating-point number also has a point with digits on at least one side and an exponent,
or is one of the words `inf`, `infinity` and `nan` in any case.
-/

namespace TableQuery

namespace Literal

/-- An optional sign: whether it is a minus, and the rest. -/
def splitSign : List Char → Bool × List Char
  | '-' :: rest => (true, rest)
  | '+' :: rest => (false, rest)
  | rest => (false, rest)

/-- The natural number that a run of digits spells. -/
def readNat (digits : List Char) : Nat := Nat.ofDigitChars 10 digits 0

/-- The integer that a text spells, of any size. -/
def readInt? (text : List Char) : Option Int :=
  let (negative, digits) := splitSign text
  if digits.isEmpty || !digits.all Char.isDigit then none
  else some (if negative then -(readNat digits : Int) else readNat digits)

/-- Whether an integer has 64 bits. -/
def fitsInt64 (i : Int) : Bool :=
  decide (Int64.minValue.toInt ≤ i) && decide (i ≤ Int64.maxValue.toInt)

/-- The 64-bit integer that a text spells. -/
def readInt64? (text : List Char) : Option Int64 :=
  match readInt? text with
  | some i => if fitsInt64 i then some (Int64.ofInt i) else none
  | none => none

/-- The exponent at the end of a number; an absent one is zero. -/
def readExponent? : List Char → Option Int
  | [] => some 0
  | c :: rest => if c == 'e' || c == 'E' then readInt? rest else none

/-- A number as written: a decimal, or one of the words. -/
inductive Number where
  | decimal (negative : Bool) (value : Decimal)
  | infinite (negative : Bool)
  | nan (negative : Bool)
  deriving DecidableEq

/-- A decimal without its sign: digits, a point, digits, an exponent. -/
def readDecimal? (text : List Char) : Option Decimal :=
  let whole := text.takeWhile Char.isDigit
  let (fraction, tail) :=
    match text.dropWhile Char.isDigit with
    | '.' :: rest => (rest.takeWhile Char.isDigit, rest.dropWhile Char.isDigit)
    | rest => ([], rest)
  if whole.isEmpty && fraction.isEmpty then none
  else
    match readExponent? tail with
    | some exponent => some ⟨readNat (whole ++ fraction), exponent - fraction.length⟩
    | none => none

/-- The floating-point number that a text spells. -/
def readNumber? (text : List Char) : Option Number :=
  let (negative, body) := splitSign text
  match readDecimal? body with
  | some value => some (.decimal negative value)
  | none =>
    let word := String.ofList (body.map Char.toLower)
    if word == "inf" || word == "infinity" then some (.infinite negative)
    else if word == "nan" then some (.nan negative)
    else none

/-- The double-precision number nearest to a number as written. -/
def Number.toBinary64 : Number → Binary64
  | decimal negative value => value.toBinary64 negative
  | infinite negative => .infinite negative
  | nan negative => .nan negative

/-- The single-precision number nearest to a number as written. -/
def Number.toSingle : Number → Binary64
  | decimal negative value => value.toSingle negative
  | infinite negative => .infinite negative
  | nan negative => .nan negative

/-- The text of an integer: a minus sign if needed, and digits. -/
def writeInt (i : Int) : String :=
  String.ofList (Binary64.signed (decide (i < 0)) (Nat.toDigits 10 i.natAbs))

/-- The double-precision number that a text spells. -/
def readBinary64? (text : List Char) : Option Binary64 := (readNumber? text).map Number.toBinary64

end Literal

end TableQuery
