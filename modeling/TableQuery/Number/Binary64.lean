/-!
# Binary floating point

Numbers with a 53-bit significand, infinities, and signed not-a-number. Every finite number is a
whole multiple of `2 ^ -1074`, and `units` says which. Addition, comparison and the tests for
whole numbers are stated on units; each result is rounded once, to the nearest number, a tie going
to the even significand.
-/

namespace TableQuery

/-- The shape of a binary format: how many bits a significand has and between which exponents. -/
structure BinaryFormat where
  precision : Nat
  minExponent : Int
  maxExponent : Int

namespace BinaryFormat

/-- Double precision. -/
def double : BinaryFormat := ⟨53, -1074, 971⟩

/-- Single precision. -/
def single : BinaryFormat := ⟨24, -149, 104⟩

/-- The quotient `num / den`, rounded to the nearest whole number, a tie to the even one. -/
def nearestEven (num den : Nat) : Nat :=
  let quotient := num / den
  let twice := 2 * (num % den)
  if twice < den then quotient
  else if den < twice then quotient + 1
  else quotient + quotient % 2

/-- The exponent `k` with `2 ^ k ≤ num / den < 2 ^ (k + 1)`, for positive `num` and `den`. -/
def binade (num den : Nat) : Int :=
  let k : Int := (num.log2 : Int) - den.log2
  if den * Nat.pow 2 k.toNat ≤ num * Nat.pow 2 (-k).toNat then k else k - 1

/-- The significand and exponent nearest to `num / den`; none when it is too large. -/
def round (format : BinaryFormat) (num den : Nat) : Option (Nat × Int) :=
  if num = 0 then some (0, format.minExponent)
  else
    let exponent := max (binade num den - (format.precision - 1 : Nat)) format.minExponent
    let significand :=
      nearestEven (num * Nat.pow 2 (-exponent).toNat) (den * Nat.pow 2 exponent.toNat)
    let rounded :=
      if significand = Nat.pow 2 format.precision then
        (Nat.pow 2 (format.precision - 1), exponent + 1)
      else (significand, exponent)
    if rounded.2 ≤ format.maxExponent then some rounded else none

end BinaryFormat

/-- A significand and an exponent are canonical when the significand fills its 53 bits, or the
exponent is the least one. -/
abbrev Binary64.Canonical (significand : Nat) (exponent : Int) : Prop :=
  significand < Nat.pow 2 53 ∧ -1074 ≤ exponent ∧ exponent ≤ 971 ∧
    (Nat.pow 2 52 ≤ significand ∨ exponent = -1074)

/-- A double-precision number. A finite one is `significand * 2 ^ exponent` with a sign, which
zero has too; being canonical makes its representation unique. -/
inductive Binary64 where
  | nan (negative : Bool)
  | infinite (negative : Bool)
  | finite (negative : Bool) (significand : Nat) (exponent : Int)
      (canonical : Binary64.Canonical significand exponent)
  deriving DecidableEq

namespace Binary64

/-- Zero of either sign. -/
def zero (negative : Bool) : Binary64 := .finite negative 0 (-1074) (by decide)

/-- The default number is positive zero. -/
instance : Inhabited Binary64 := ⟨zero false⟩

/-- The finite number with these parts; infinite when they are not canonical. -/
def pack (negative : Bool) (significand : Nat) (exponent : Int) : Binary64 :=
  if canonical : Canonical significand exponent then
    .finite negative significand exponent canonical
  else .infinite negative

/-- The number nearest to `num / den`, infinite when that is too large. -/
def ofRatio (negative : Bool) (num den : Nat) : Binary64 :=
  match BinaryFormat.double.round num den with
  | some (significand, exponent) => pack negative significand exponent
  | none => .infinite negative

/-- The number nearest to `count * 2 ^ -1074`. -/
def ofUnits (negative : Bool) (count : Nat) : Binary64 :=
  ofRatio negative count (Nat.pow 2 1074)

/-- The number nearest to an integer. -/
def ofInt (i : Int) : Binary64 := ofRatio (decide (i < 0)) i.natAbs 1

/-- Whether the sign is set, also that of a zero. -/
def isNegative : Binary64 → Bool
  | nan negative => negative
  | infinite negative => negative
  | finite negative _ _ _ => negative

/-- Whether the number is neither infinite nor not-a-number. -/
def isFinite : Binary64 → Bool
  | finite .. => true
  | _ => false

/-- The size of a finite number in multiples of `2 ^ -1074`; zero for the others. -/
def magnitude : Binary64 → Nat
  | finite _ significand exponent _ => significand * Nat.pow 2 (exponent + 1074).toNat
  | _ => 0

/-- The signed count of `2 ^ -1074` in a finite number; zero for the others. -/
def units (x : Binary64) : Int := if x.isNegative then -(x.magnitude : Int) else x.magnitude

/-- The same number with the other sign. -/
def neg : Binary64 → Binary64
  | nan negative => nan (!negative)
  | infinite negative => infinite (!negative)
  | finite negative significand exponent canonical =>
    finite (!negative) significand exponent canonical

/-! ## Arithmetic -/

/-- The sum. The first not-a-number is handed on; opposite infinities give a negative one. A sum
of zero is positive unless both terms are negative. -/
def add : Binary64 → Binary64 → Binary64
  | nan negative, _ => nan negative
  | _, nan negative => nan negative
  | infinite a, infinite b => if a = b then infinite a else nan true
  | infinite a, _ => infinite a
  | _, infinite b => infinite b
  | x@(finite ..), y@(finite ..) =>
    let total := x.units + y.units
    if total = 0 then zero (x.isNegative && y.isNegative)
    else ofUnits (decide (total < 0)) total.natAbs

/-- The product. Zero times infinity gives a negative not-a-number. -/
def mul : Binary64 → Binary64 → Binary64
  | nan negative, _ => nan negative
  | _, nan negative => nan negative
  | infinite a, infinite b => infinite (a != b)
  | infinite a, y@(finite ..) => if y.magnitude = 0 then nan true else infinite (a != y.isNegative)
  | x@(finite ..), infinite b => if x.magnitude = 0 then nan true else infinite (x.isNegative != b)
  | x@(finite ..), y@(finite ..) =>
    ofRatio (x.isNegative != y.isNegative) (x.magnitude * y.magnitude) (Nat.pow 2 2148)

/-- The quotient. Zero by zero and infinity by infinity give a negative not-a-number. -/
def div : Binary64 → Binary64 → Binary64
  | nan negative, _ => nan negative
  | _, nan negative => nan negative
  | infinite _, infinite _ => nan true
  | infinite a, y@(finite ..) => infinite (a != y.isNegative)
  | x@(finite ..), infinite b => zero (x.isNegative != b)
  | x@(finite ..), y@(finite ..) =>
    if y.magnitude = 0 then
      if x.magnitude = 0 then nan true else infinite (x.isNegative != y.isNegative)
    else ofRatio (x.isNegative != y.isNegative) x.magnitude y.magnitude

/-- The minus sign stands for negation. -/
instance : Neg Binary64 := ⟨neg⟩

/-- The plus sign stands for the rounded sum. -/
instance : Add Binary64 := ⟨add⟩

/-- The star stands for the rounded product. -/
instance : Mul Binary64 := ⟨mul⟩

/-- The slash stands for the rounded quotient. -/
instance : Div Binary64 := ⟨div⟩

/-- The sum of a list from left to right. It starts from negative zero, the neutral element. -/
def sum (xs : List Binary64) : Binary64 := xs.foldl (· + ·) (zero true)

/-! ## Order -/

/-- The numeric order, in which both zeros are equal; none when a side is not a number. -/
def compare? : Binary64 → Binary64 → Option Ordering
  | nan _, _ => none
  | _, nan _ => none
  | infinite a, infinite b => some (compare b a)
  | infinite a, finite .. => some (if a then .lt else .gt)
  | finite .., infinite b => some (if b then .gt else .lt)
  | x@(finite ..), y@(finite ..) => some (compare x.units y.units)

/-- Where a number stands among the classes of the total order: negative not-a-number, negative
infinity, finite, infinity, not-a-number. -/
def band : Binary64 → Int
  | nan true => -2
  | infinite true => -1
  | finite .. => 0
  | infinite false => 1
  | nan false => 2

/-- The total order: by band, then by size, and negative zero below positive zero. -/
def totalCompare (x y : Binary64) : Ordering :=
  (compare x.band y.band).then <|
    (compare x.units y.units).then (compare y.isNegative x.isNegative)

/-- Numeric equality: zeros are equal, and what is not a number equals nothing. -/
def same (x y : Binary64) : Bool := x.compare? y == some .eq

/-! ## Whole numbers -/

/-- Whether the number is finite and has no fraction. -/
def isWhole (x : Binary64) : Bool := x.isFinite && x.magnitude % Nat.pow 2 1074 == 0

/-- The number without its fraction; zero when it is not finite. -/
def truncate (x : Binary64) : Int := x.units.tdiv (Nat.pow 2 1074)

/-- The nearest 64-bit integer toward zero: out of range gives the end of the range, and what is
not a number gives zero. -/
def toInt64 : Binary64 → Int64
  | nan _ => 0
  | infinite true => Int64.minValue
  | infinite false => Int64.maxValue
  | x@(finite ..) =>
    Int64.ofInt (max Int64.minValue.toInt (min x.truncate Int64.maxValue.toInt))

/-- Whether the number is finite and inside the range of 64-bit integers. -/
def isInt64Range (x : Binary64) : Bool :=
  let bound : Int := Nat.pow 2 (63 + 1074)
  x.isFinite && decide (-bound ≤ x.units) && decide (x.units < bound)

end Binary64

end TableQuery
