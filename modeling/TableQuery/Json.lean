import TableQuery.Number.Literal
import TableQuery.Text.CodePoint

/-!
# JSON texts

The tree of a JSON text. A number keeps its parts as they are written, and a string its code
points, for an escape may write half of a surrogate pair, which is no character; such a string may
stand where nobody reads it.
-/

namespace TableQuery

/-- A number of a JSON text: its digits, the digits after its point, and its exponent. -/
structure JsonNumber where
  negative : Bool
  whole : List Char
  fraction : Option (List Char)
  exponent : Option Int
  deriving DecidableEq

/-- A JSON text. -/
inductive Json where
  | null
  | bool (value : Bool)
  | number (value : JsonNumber)
  | string (points : List Nat)
  | array (items : List Json)
  | object (fields : List (List Nat × Json))

namespace Json

/-- The text of a list of code points, if all of them are characters. -/
def textOf? (points : List Nat) : Option String :=
  (points.mapM Text.scalar?).map String.ofList

/-- A text without the white space at its start. -/
def skipBlank (text : List Char) : List Char :=
  text.dropWhile fun c => c == ' ' || c == '\t' || c == '\n' || c == '\r'

/-! ## Strings -/

/-- A code unit of four hexadecimal digits. -/
def codeUnit? (text : List Char) : Option (Nat × List Char) :=
  let digits := (text.take 4).mapM Text.hexValue?
  match digits with
  | some [a, b, c, d] => some (((a * 16 + b) * 16 + c) * 16 + d, text.drop 4)
  | _ => none

/-- The code point after a code unit that starts a surrogate pair, if the other half follows. -/
def lowHalf? (high : Nat) : List Char → Option (Nat × List Char)
  | '\\' :: 'u' :: rest =>
    match codeUnit? rest with
    | some (low, rest) =>
      if 0xd800 ≤ high ∧ high < 0xdc00 ∧ 0xdc00 ≤ low ∧ low < 0xe000 then
        some (0x10000 + (high - 0xd800) * 0x400 + (low - 0xdc00), rest)
      else none
    | none => none
  | _ => none

/-- The code point that an escape stands for; the text starts after the backslash. -/
def escape? : List Char → Option (Nat × List Char)
  | [] => none
  | c :: rest =>
    match c with
    | '"' => some ('"'.toNat, rest)
    | '\\' => some ('\\'.toNat, rest)
    | '/' => some ('/'.toNat, rest)
    | 'b' => some (8, rest)
    | 'f' => some (12, rest)
    | 'n' => some (10, rest)
    | 'r' => some (13, rest)
    | 't' => some (9, rest)
    | 'u' => (codeUnit? rest).map fun (unit, rest) => (lowHalf? unit rest).getD (unit, rest)
    | _ => none

/-- The code points up to the closing quote; `bound` is more than the length of the text. -/
def stringFrom : Nat → List Char → Option (List Nat × List Char)
  | 0, _ => none
  | _ + 1, [] => none
  | _ + 1, '"' :: rest => some ([], rest)
  | bound + 1, '\\' :: rest => do
    let (point, rest) ← escape? rest
    let (points, rest) ← stringFrom bound rest
    return (point :: points, rest)
  | bound + 1, c :: rest => do
    if c.toNat < 0x20 then none
    else
      let (points, rest) ← stringFrom bound rest
      return (c.toNat :: points, rest)

/-- The code points of a string after its opening quote, and what follows it. -/
def string? (text : List Char) : Option (List Nat × List Char) :=
  stringFrom (text.length + 1) text

/-! ## Numbers -/

/-- A run of digits that has at least one, and what follows it. -/
def digits? (text : List Char) : Option (List Char × List Char) :=
  let digits := text.takeWhile Char.isDigit
  if digits.isEmpty then none else some (digits, text.dropWhile Char.isDigit)

/-- The digits after a point, if there is one. -/
def fraction? : List Char → Option (Option (List Char) × List Char)
  | '.' :: rest => (digits? rest).map fun (digits, rest) => (some digits, rest)
  | rest => some (none, rest)

/-- The exponent, if there is one. -/
def exponent? : List Char → Option (Option Int × List Char)
  | [] => some (none, [])
  | mark :: rest =>
    if mark = 'e' ∨ mark = 'E' then
      let (negative, rest) := Literal.splitSign rest
      (digits? rest).map fun (digits, rest) =>
        let size : Int := Literal.readNat digits
        (some (if negative then -size else size), rest)
    else some (none, mark :: rest)

/-- A number without its sign. A leading zero stands alone. -/
def number? (negative : Bool) (text : List Char) : Option (JsonNumber × List Char) := do
  let (whole, rest) ← digits? text
  if whole.head? = some '0' ∧ whole.length ≠ 1 then none
  else
    let (fraction, rest) ← fraction? rest
    let (exponent, rest) ← exponent? rest
    return (⟨negative, whole, fraction, exponent⟩, rest)

/-! ## Texts -/

mutual

/-- A value and what follows it; `bound` is more than the length of the text. -/
def valueFrom : Nat → List Char → Option (Json × List Char)
  | 0, _ => none
  | bound + 1, text =>
    match skipBlank text with
    | 'n' :: 'u' :: 'l' :: 'l' :: rest => some (.null, rest)
    | 't' :: 'r' :: 'u' :: 'e' :: rest => some (.bool true, rest)
    | 'f' :: 'a' :: 'l' :: 's' :: 'e' :: rest => some (.bool false, rest)
    | '"' :: rest => (string? rest).map fun (points, rest) => (.string points, rest)
    | '[' :: rest =>
      match skipBlank rest with
      | ']' :: rest => some (.array [], rest)
      | rest => (itemsFrom bound rest).map fun (items, rest) => (.array items, rest)
    | '\x7b' :: rest =>
      match skipBlank rest with
      | '\x7d' :: rest => some (.object [], rest)
      | rest => (fieldsFrom bound rest).map fun (fields, rest) => (.object fields, rest)
    | '-' :: rest => (number? true rest).map fun (value, rest) => (.number value, rest)
    | rest => (number? false rest).map fun (value, rest) => (.number value, rest)

/-- The items of an array up to its end. -/
def itemsFrom : Nat → List Char → Option (List Json × List Char)
  | 0, _ => none
  | bound + 1, text => do
    let (item, rest) ← valueFrom bound text
    match skipBlank rest with
    | ',' :: rest => (itemsFrom bound rest).map fun (items, rest) => (item :: items, rest)
    | ']' :: rest => return ([item], rest)
    | _ => none

/-- The fields of an object up to its end. -/
def fieldsFrom : Nat → List Char → Option (List (List Nat × Json) × List Char)
  | 0, _ => none
  | bound + 1, text =>
    match skipBlank text with
    | '"' :: rest => do
      let (name, rest) ← string? rest
      match skipBlank rest with
      | ':' :: rest =>
        let (value, rest) ← valueFrom bound rest
        match skipBlank rest with
        | ',' :: rest =>
          (fieldsFrom bound rest).map fun (fields, rest) => ((name, value) :: fields, rest)
        | '\x7d' :: rest => return ([(name, value)], rest)
        | _ => none
      | _ => none
    | _ => none

end

/-- The tree of a whole text. -/
def read? (text : String) : Option Json := do
  let chars := text.toList
  let (value, rest) ← valueFrom (2 * chars.length + 2) chars
  if (skipBlank rest).isEmpty then return value else none

/-! ## Writing -/

/-- A character inside a written string. -/
def escapeChar (c : Char) : List Char :=
  match c with
  | '"' => ['\\', '"']
  | '\\' => ['\\', '\\']
  | '\x08' => ['\\', 'b']
  | '\x0c' => ['\\', 'f']
  | '\n' => ['\\', 'n']
  | '\r' => ['\\', 'r']
  | '\t' => ['\\', 't']
  | _ =>
    if c.toNat < 0x20 then
      "\\u00".toList ++ [Nat.digitChar (c.toNat / 16), Nat.digitChar (c.toNat % 16)]
    else [c]

/-- A string with its quotes. -/
def writeString (text : String) : String :=
  String.ofList ('"' :: (text.toList.flatMap escapeChar ++ ['"']))

/-- A list of written values. -/
def writeArray (items : List String) : String := "[" ++ ",".intercalate items ++ "]"

/-- A list of names and written values. -/
def writeObject (fields : List (String × String)) : String :=
  let inner := fields.map fun (name, value) => writeString name ++ ":" ++ value
  "\x7b" ++ ",".intercalate inner ++ "\x7d"

end Json

end TableQuery
