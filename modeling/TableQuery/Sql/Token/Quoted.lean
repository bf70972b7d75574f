import TableQuery.Text.CodePoint

/-!
# Quoted texts

The ways in which a statement quotes a text: between two quotes with a doubled quote for one, with
backslash escapes, with three quotes on each side, with code points in hexadecimal, or between two
dollar signs with an optional tag. Each reader starts after the opening quote and gives the text and
what follows the closing one.
-/

namespace TableQuery.Sql

/-- Why and where reading stops: a message, and the text from that place on. -/
structure ScanFailure where
  message : String
  rest : List Char

/-- What has been read and what is left, or why reading stops. -/
abbrev Scan (α : Type) := Except ScanFailure (α × List Char)

namespace Quoted

/-- Puts a character in front of what was read. -/
def cons (c : Char) (read : List Char × List Char) : List Char × List Char := (c :: read.1, read.2)

/-- Reads up to a closing quote; a doubled quote stands for one. -/
def doubled (quote : Char) : List Char → Option (List Char × List Char)
  | [] => none
  | [c] => if c = quote then some ([], []) else none
  | c :: d :: rest =>
    if c = quote then
      if d = quote then (doubled quote rest).map (cons c) else some ([], d :: rest)
    else (doubled quote (d :: rest)).map (cons c)

/-- Reads up to three quotes in a row. -/
def tripled (quote : Char) : List Char → Option (List Char × List Char)
  | [] => none
  | c :: rest =>
    if [quote, quote, quote].isPrefixOf (c :: rest) then some ([], rest.drop 2)
    else (tripled quote rest).map (cons c)

/-- Reads through a closing mark, which is a tag between two dollar signs; what is read ends with
the mark but for its last sign. A dollar sign starts an attempt at the mark, whose state is what it
still has to find of the tag. An attempt takes the character that it fails at, a dollar sign too, so
none starts inside another. -/
def taggedFrom (tag : List Char) : Option (List Char) → List Char → Option (List Char × List Char)
  | _, [] => none
  | none, c :: rest =>
    (taggedFrom tag (if c = '$' then some tag else none) rest).map (cons c)
  | some [], c :: rest =>
    if c = '$' then some ([], rest) else (taggedFrom tag none rest).map (cons c)
  | some (t :: left), c :: rest =>
    (taggedFrom tag (if c = t then some left else none) rest).map (cons c)

/-- Reads up to a closing mark, which is a tag between two dollar signs. -/
def tagged (tag text : List Char) : Option (List Char × List Char) :=
  (taggedFrom tag none text).map fun (read, rest) =>
    (read.take (read.length - (tag.length + 1)), rest)

/-- The character that a letter after a backslash stands for. -/
def control (c : Char) : Char :=
  match c with
  | '0' => '\x00'
  | 'a' => '\x07'
  | 'b' => '\x08'
  | 'f' => '\x0c'
  | 'n' => '\n'
  | 'r' => '\r'
  | 't' => '\t'
  | 'Z' => '\x1a'
  | _ => c

/-- Reads up to a closing quote; a doubled quote stands for one, and a backslash changes the
character after it. -/
def slashed (quote : Char) : List Char → Option (List Char × List Char)
  | [] => none
  | [c] => if c = quote then some ([], []) else none
  | c :: d :: rest =>
    if c = quote then
      if d = quote then (slashed quote rest).map (cons c) else some ([], d :: rest)
    else if c = '\\' then (slashed quote rest).map (cons (control d))
    else (slashed quote (d :: rest)).map (cons c)

/-! ## Code points -/

/-- The ASCII character in the low eight bits of a number. -/
def lowByte? (n : Nat) : Option Char := if n % 256 < 128 then some (Char.ofNat (n % 256)) else none

/-- At most this many digits of a base, and what follows them. -/
def takeDigits (base limit : Nat) (text : List Char) : List Char × List Char :=
  let digits := (text.take limit).takeWhile fun c => (Text.digitValue? base c).isSome
  (digits, text.drop digits.length)

/-- A code point of exactly this many hexadecimal digits. -/
def codePoint? (count : Nat) (text : List Char) : Option (Char × List Char) :=
  if text.length < count then none
  else ((Text.readRadix? 16 (text.take count)).bind Text.scalar?).map fun c => (c, text.drop count)

/-- The character that an escape stands for; the text starts after the backslash. -/
def escape? : List Char → Option (Char × List Char)
  | [] => none
  | c :: rest =>
    match c with
    | 'b' => some ('\x08', rest)
    | 'f' => some ('\x0c', rest)
    | 'n' => some ('\n', rest)
    | 'r' => some ('\r', rest)
    | 't' => some ('\t', rest)
    | 'u' => codePoint? 4 rest
    | 'U' => codePoint? 8 rest
    | 'x' =>
      let (digits, after) := takeDigits 16 2 rest
      if digits.isEmpty then some ('x', rest)
      else ((Text.readRadix? 16 digits).bind lowByte?).map fun c => (c, after)
    | _ =>
      if (Text.digitValue? 8 c).isSome then
        let (digits, after) := takeDigits 8 2 rest
        ((Text.readRadix? 8 (c :: digits)).bind lowByte?).map fun c => (c, after)
      else some (c, rest)

/-- Reads up to a closing single quote with escapes, none of which may give the null character;
`bound` is at least the length of the text. -/
def escapedFrom : Nat → List Char → Option (List Char × List Char)
  | 0, _ => none
  | _, [] => none
  | bound + 1, '\'' :: '\'' :: rest => (escapedFrom bound rest).map (cons '\'')
  | _ + 1, '\'' :: rest => some ([], rest)
  | bound + 1, '\\' :: rest =>
    match escape? rest with
    | some (c, after) => if c = '\x00' then none else (escapedFrom bound after).map (cons c)
    | none => none
  | bound + 1, c :: rest => (escapedFrom bound rest).map (cons c)

/-- Reads up to a closing single quote with escapes. -/
def escaped (text : List Char) : Option (List Char × List Char) := escapedFrom text.length text

/-- Reads a code point of `count` more hexadecimal digits. -/
def hexScalar : Nat → Nat → List Char → Scan Char
  | 0, n, rest =>
    match Text.scalar? n with
    | some c => .ok (c, rest)
    | none =>
      .error ⟨"Invalid unicode character: " ++ String.ofList (Nat.toDigits 16 n), rest⟩
  | _ + 1, _, [] =>
    .error ⟨"Unexpected EOF while parsing hex digit in escaped unicode string.", []⟩
  | count + 1, n, c :: rest =>
    match Text.hexValue? c with
    | some d => hexScalar count (n * 16 + d) rest
    | none => .error ⟨("Invalid hex digit in escaped unicode string: ").push c, rest⟩

/-- Reads up to a closing single quote, with code points after a backslash; `bound` is at least the
length of the text. -/
def codedFrom : Nat → List Char → Scan (List Char)
  | 0, rest => .error ⟨"Unterminated unicode encoded string literal", rest⟩
  | _ + 1, [] => .error ⟨"Unterminated unicode encoded string literal", []⟩
  | bound + 1, '\'' :: '\'' :: rest => (codedFrom bound rest).map (cons '\'')
  | _ + 1, '\'' :: rest => .ok ([], rest)
  | bound + 1, '\\' :: '\\' :: rest => (codedFrom bound rest).map (cons '\\')
  | bound + 1, '\\' :: '+' :: rest =>
    (hexScalar 6 0 rest).bind fun (c, after) => (codedFrom bound after).map (cons c)
  | bound + 1, '\\' :: rest =>
    (hexScalar 4 0 rest).bind fun (c, after) => (codedFrom bound after).map (cons c)
  | bound + 1, c :: rest => (codedFrom bound rest).map (cons c)

/-- Reads up to a closing single quote, with code points after a backslash. -/
def coded (text : List Char) : Scan (List Char) := codedFrom text.length text

end Quoted

end TableQuery.Sql
