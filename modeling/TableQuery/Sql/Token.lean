import TableQuery.Text.Case

/-!
# Tokens

What a statement is made of once white space and comments are gone. A word is a name or, when it is
not quoted and its capitals spell one, a keyword. Tokens that no statement uses are kept with the
text that error messages show for them.
-/

namespace TableQuery

/-- A piece of a statement. A word keeps the quote it was written in; a number that ends in `L` is
long; `other` holds the text of string forms and placeholders that no statement uses. -/
inductive Token where
  | word (text : String) (quote : Option Char)
  | number (digits : String) (long : Bool)
  | quoted (text : String)
  | symbol (text : String)
  | other (text : String)
  deriving DecidableEq, Inhabited

namespace Token

/-- The text that error messages show for a token. -/
def display : Token → String
  | word text none => text
  | word text (some quote) => (String.singleton quote ++ text).push quote
  | number digits long => if long then digits.push 'L' else digits
  | quoted text => "'" ++ text ++ "'"
  | symbol text => text
  | other text => text

/-- The capitals of an unquoted word. -/
def keyword? : Token → Option String
  | word text none => some (Text.upper text)
  | _ => none

/-- Whether a token is this keyword. -/
def isKeyword (token : Token) (keyword : String) : Bool := token.keyword? == some keyword

/-- The keywords that cannot be used as names. -/
def reserved : List String :=
  ["SELECT", "DISTINCT", "FROM", "WHERE", "GROUP", "BY", "ORDER", "LIMIT", "INNER", "LEFT",
    "RIGHT", "FULL", "CROSS", "OUTER", "JOIN", "ON", "AND", "OR", "NOT", "LIKE", "ILIKE", "IS",
    "IN", "BETWEEN", "ASC", "DESC", "INSERT", "INTO", "VALUES", "DELETE", "NULL"]

/-- The name that a token spells, unless it is no word or a reserved one. -/
def name? : Token → Option String
  | word text (some _) => some text
  | word text none => if reserved.contains (Text.upper text) then none else some text
  | _ => none

end Token

end TableQuery
