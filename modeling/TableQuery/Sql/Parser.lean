import TableQuery.Error
import TableQuery.Sql.Token

/-!
# Parsers

A parser reads some tokens from the front of a list and gives a result and the tokens left, or says
what it expected. Errors quote the next few tokens. Repetition is bounded by the number of tokens
there are, which it never exceeds, for every round takes at least one.
-/

namespace TableQuery.Sql

/-- Reads a result from the front of a list of tokens. -/
abbrev Parser := StateT (List Token) Result

namespace Parser

/-- What an error message shows of the tokens that are left: at most six of them. -/
def fragment (tokens : List Token) : String :=
  if tokens.isEmpty then "end of input"
  else " ".intercalate ((tokens.take 6).map Token.display)

/-- A syntax error at the next token. -/
def fail {α : Type} (reason : String) : Parser α := fun tokens =>
  .error (.invalidSyntax (fragment tokens) reason)

/-- The next tokens, which stay. -/
def ahead : Parser (List Token) := fun tokens => .ok (tokens, tokens)

/-- Drops the next token. -/
def skip : Parser Unit := fun tokens => .ok ((), tokens.tail)

/-- Takes the next token if it is as wanted, and says whether it was. -/
def accept (wanted : Token → Bool) : Parser Bool
  | [] => .ok (false, [])
  | token :: rest => if wanted token then .ok (true, rest) else .ok (false, token :: rest)

/-- Takes a keyword if it comes next. -/
def keyword (name : String) : Parser Bool := accept (·.isKeyword name)

/-- Takes a symbol if it comes next. -/
def symbol (text : String) : Parser Bool := accept (· == .symbol text)

/-- Takes a keyword that has to come next. -/
def expectKeyword (name reason : String) : Parser Unit := do
  if ← keyword name then return else fail reason

/-- Takes a symbol that has to come next. -/
def expectSymbol (text reason : String) : Parser Unit := do
  if ← symbol text then return else fail reason

/-- An optional clause that a keyword opens. -/
def clause {α : Type} (name : String) (body : Parser α) : Parser (Option α) := do
  if ← keyword name then return some (← body) else return none

/-- Items between commas, with at most `bound` commas. -/
def separatedUpTo {α : Type} (item : Parser α) : Nat → Parser (List α)
  | 0 => return [← item]
  | bound + 1 => do
    let first ← item
    if ← symbol "," then return first :: (← separatedUpTo item bound) else return [first]

/-- One or more items between commas. -/
def separated {α : Type} (item : Parser α) : Parser (List α) := fun tokens =>
  separatedUpTo item tokens.length tokens

/-- Further operands after a first one, each behind the keyword, with at most `bound` of them. -/
def chainUpTo {α : Type} (name : String) (build : α → α → α) (operand : Parser α) :
    Nat → α → Parser α
  | 0, left => return left
  | bound + 1, left => do
    if ← keyword name then chainUpTo name build operand bound (build left (← operand))
    else return left

/-- One or more operands between keywords, grouped from the left. -/
def chain {α : Type} (name : String) (build : α → α → α) (operand : Parser α) : Parser α := do
  let first ← operand
  fun tokens => chainUpTo name build operand tokens.length first tokens

/-- The end of a statement: an optional semicolon, then nothing. -/
def finish : Parser Unit := do
  let _ ← symbol ";"
  if (← ahead).isEmpty then return else fail "unexpected input after end of statement"

/-! ## Names -/

/-- A name that is not reserved. -/
def name (what : String) : Parser String := do
  match (← ahead).head?.bind Token.name? with
  | some text => skip; return text
  | none => fail ("expected " ++ what)

/-- The part of a reference after its point. -/
def columnName : Parser String := name "column name after `.`"

/-- A column, or a table and a column with a point between. -/
def fieldRef (what : String) : Parser String := do
  let first ← name what
  if ← symbol "." then return first ++ "." ++ (← columnName) else return first

end Parser

end TableQuery.Sql
