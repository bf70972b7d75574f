import TableQuery.Error
import TableQuery.Number.Literal
import TableQuery.Sql.Token
import TableQuery.Sql.Token.Quoted
import TableQuery.Text.Blank

/-!
# From text to tokens

A text is cut from its start: each step takes white space, a comment or one token. Of several
operators that fit, the longest is taken. What cannot be read is reported with the line and column
of the place, counted from one.
-/

namespace TableQuery

namespace Sql

/-- The texts of all operators and marks; of two that start alike the longer is first. -/
def symbols : List String :=
  ["||/", "||", "|/", "|", "->>", "->", "-", "<=>", "<=", "<>", "<<", "<@", "<", ">=", ">>", ">",
    "=>", "==", "=", "!~~*", "!~~", "!~*", "!~", "!!", "!=", "!", "~~*", "~~", "~*", "~", "::",
    ":=", ":", "&&", "&", "^@", "^", "//", "/", "+", "*", "%", "(", ")", ",", ";", "\\", "[", "]",
    "\x7b", "\x7d", "#-", "#>>", "#>", "@>", "@?"]

/-- Whether a character can start a word. -/
def isWordStart (c : Char) : Bool := Text.isLetter c || c == '_' || c == '#' || c == '@'

/-- Whether a character can stand inside a word. -/
def isWordPart (c : Char) : Bool := Text.isLetter c || c.isDigit || "@$#_".toList.contains c

/-- The word that starts with the given characters and goes on in the text. -/
def word (start text : List Char) : Token × List Char :=
  (.word (String.ofList (start ++ text.takeWhile isWordPart)) none, text.dropWhile isWordPart)

/-- What is left after a block comment; comments nest, and a mark may share its star with the
next. -/
def skipBlock : Nat → Char → List Char → Option (List Char)
  | _, _, [] => none
  | depth, last, c :: rest =>
    if last = '/' ∧ c = '*' then skipBlock (depth + 1) c rest
    else if last = '*' ∧ c = '/' then
      if depth ≤ 1 then some rest else skipBlock (depth - 1) c rest
    else skipBlock depth c rest

/-- The exponent at the start of a text, if digits follow its mark and sign. -/
def takeExponent (text : List Char) : List Char × List Char :=
  match text with
  | mark :: rest =>
    if mark = 'e' ∨ mark = 'E' then
      let (sign, rest) :=
        match rest with
        | '+' :: after => (['+'], after)
        | '-' :: after => (['-'], after)
        | _ => ([], rest)
      let digits := rest.takeWhile Char.isDigit
      if digits.isEmpty then ([], text)
      else (mark :: (sign ++ digits), rest.dropWhile Char.isDigit)
    else ([], text)
  | [] => ([], [])

/-- A number, a hexadecimal text after `0x`, or a point. -/
def number (text : List Char) : Token × List Char :=
  let whole := text.takeWhile Char.isDigit
  let rest := text.dropWhile Char.isDigit
  match decide (whole = ['0']), rest with
  | true, 'x' :: after =>
    let isHex c := (Text.hexValue? c).isSome
    (.other ("X'" ++ String.ofList (after.takeWhile isHex) ++ "'"), after.dropWhile isHex)
  | _, _ =>
    let (point, rest) :=
      match rest with
      | '.' :: after => (['.'], after)
      | _ => ([], rest)
    let digits := whole ++ point ++ rest.takeWhile Char.isDigit
    let rest := rest.dropWhile Char.isDigit
    if digits = ['.'] then (.symbol ".", rest)
    else
      let (exponent, rest) := takeExponent rest
      let digits := String.ofList (digits ++ exponent)
      match rest with
      | 'L' :: after => (.number digits true, after)
      | _ => (.number digits false, rest)

/-- A token whose text is written between quotes; `failure` tells where an open one is reported. -/
def enclosed (opening closing : String) (read : Option (List Char × List Char))
    (failure : ScanFailure) : Scan Token :=
  match read with
  | some (text, rest) => .ok (.other (opening ++ String.ofList text ++ closing), rest)
  | none => .error failure

/-- The message about a text without its closing quote. -/
def unterminated : String := "Unterminated string literal"

/-- A raw text after its prefix letter: two quotes are an empty one, three open a text that three
close. -/
def rawQuoted (quote : Char) (text : List Char) : Scan Token :=
  let marks (n : Nat) := String.ofList (List.replicate n quote)
  match (text.take 3).takeWhile (· == quote) with
  | [_] =>
    let body := text.drop 1
    enclosed ("R" ++ marks 1) (marks 1) (Quoted.doubled quote body) ⟨unterminated, body⟩
  | [_, _] => .ok (.other ("R" ++ marks 2), text.drop 2)
  | _ =>
    let body := text.drop 3
    enclosed ("R" ++ marks 3) (marks 3) (Quoted.tripled quote body) ⟨unterminated, body⟩

/-- A text with a prefix letter in front of its quote, if that is what the text starts with. -/
def prefixed? : List Char → Option (Scan Token)
  | start@(letter :: text@(mark :: rest)) =>
    let failure : ScanFailure := ⟨unterminated, text⟩
    match letter.toUpper, mark with
    | 'B', '\'' => some (enclosed "B'" "'" (Quoted.doubled '\'' rest) failure)
    | 'B', '"' => some (enclosed "B\"" "\"" (Quoted.doubled '"' rest) failure)
    | 'R', '\'' => some (rawQuoted '\'' text)
    | 'R', '"' => some (rawQuoted '"' text)
    | 'N', '\'' => some (enclosed "N'" "'" (Quoted.slashed '\'' rest) failure)
    | 'X', '\'' => some (enclosed "X'" "'" (Quoted.slashed '\'' rest) failure)
    | 'E', '\'' =>
      some (enclosed "E'" "'" (Quoted.escaped rest)
        ⟨"Unterminated encoded string literal", start⟩)
    | 'U', '&' =>
      match rest with
      | '\'' :: body =>
        some ((Quoted.coded body).map fun (text, rest) =>
          (.other ("U&'" ++ String.ofList text ++ "'"), rest))
      | _ => none
    | _, _ => none
  | _ => none

/-- What follows a dollar sign: a text between dollar signs, with or without a tag, or the name of
a placeholder. -/
def dollar (text : List Char) : Scan Token :=
  let isNamePart c := Text.isLetter c || Text.isNumeral c || c == '_'
  let tag := text.takeWhile isNamePart
  match text.dropWhile isNamePart with
  | '$' :: body =>
    let mark := String.ofList ('$' :: (tag ++ ['$']))
    let message :=
      if tag.isEmpty then "Unterminated dollar-quoted string"
      else "Unterminated dollar-quoted, expected $"
    enclosed mark mark (Quoted.tagged tag body) ⟨message, []⟩
  | rest => .ok (.other (String.ofList ('$' :: tag)), rest)

/-- What follows a hash or an at sign: the sign alone before a space or the end, else a word with
the next character taken as it is. -/
def marked (sign : List Char) : List Char → Token × List Char
  | [] => (.symbol (String.ofList sign), [])
  | c :: rest =>
    if c = ' ' then (.symbol (String.ofList sign), c :: rest) else word (sign ++ [c]) rest

/-- The token at the start of a text that is neither blank nor a comment. -/
def token (text : List Char) : Scan Token :=
  match prefixed? text with
  | some read => read
  | none =>
    match text with
    | [] => .error ⟨"", []⟩
    | c :: rest =>
      if c = '\'' then
        match Quoted.doubled c rest with
        | some (content, rest) => .ok (.quoted (String.ofList content), rest)
        | none => .error ⟨unterminated, text⟩
      else if c = '"' ∨ c = '`' then
        match Quoted.doubled c rest with
        | some (content, rest) => .ok (.word (String.ofList content) (some c), rest)
        | none =>
          .error ⟨("Expected close delimiter '").push c ++ "' before EOF.", text⟩
      else if c.isDigit ∨ c = '.' then .ok (number text)
      else if c = '?' then
        .ok (.other (String.ofList (c :: rest.takeWhile Text.isNumeral)),
          rest.dropWhile Text.isNumeral)
      else if c = '$' then dollar rest
      else
        match symbols.find? fun symbol => symbol.toList.isPrefixOf text with
        | some symbol =>
          .ok (.symbol (if symbol = "!=" then "<>" else symbol), text.drop symbol.length)
        | none =>
          if c = '@' ∧ rest.head? = some '@' then .ok (marked ['@', '@'] (rest.drop 1))
          else if c = '#' ∨ c = '@' then .ok (marked [c] rest)
          else if isWordStart c then .ok (word [c] rest)
          else .ok (.symbol (String.singleton c), rest)

/-- One step: white space or a comment, which gives nothing, or a token. -/
def step : List Char → Scan (Option Token)
  | '-' :: '-' :: rest => .ok (none, (rest.dropWhile (· != '\n')).drop 1)
  | '/' :: '*' :: rest =>
    match skipBlock 1 ' ' rest with
    | some rest => .ok (none, rest)
    | none => .error ⟨"Unexpected EOF while in a multi-line comment", []⟩
  | [] => .ok (none, [])
  | c :: rest =>
    if Text.isBlank c then .ok (none, rest)
    else (token (c :: rest)).map fun (t, rest) => (some t, rest)

/-- The tokens of a text, in order; `bound` is at least its length, for each step takes at least one
character. -/
def tokensFrom : Nat → List Char → Except ScanFailure (List Token)
  | 0, _ => .ok []
  | _ + 1, [] => .ok []
  | bound + 1, c :: rest => do
    let (found, rest) ← step (c :: rest)
    let tokens ← tokensFrom bound rest
    return found.toList ++ tokens

/-- The tokens of a text, in order. -/
def tokens (text : List Char) : Except ScanFailure (List Token) := tokensFrom text.length text

/-- The line and the column, from one, of the place after some text. -/
def position (text : List Char) : Nat × Nat :=
  (text.count '\n' + 1, (text.reverse.takeWhile (· != '\n')).length + 1)

/-- The wording of a failure in a text: the message, the line and the column. -/
def ScanFailure.reason (failure : ScanFailure) (text : List Char) : String :=
  let (line, column) := position (text.take (text.length - failure.rest.length))
  failure.message ++ " at Line: " ++ Literal.writeInt line ++ ", Column: " ++
    Literal.writeInt column

end Sql

/-- The tokens of a statement. -/
def Token.scan (text : String) : Result (List Token) :=
  match Sql.tokens text.toList with
  | .ok tokens => .ok tokens
  | .error failure => .error (.invalidSyntax (Text.trim text) (failure.reason text.toList))

end TableQuery
