/-!
# Errors

What can go wrong, by cause: a text that is not a statement, a statement that cannot be evaluated,
a store that cannot serve it, settings that cannot be read. `Error.message` words them all.
-/

namespace TableQuery

/-- A well-formed statement that cannot be evaluated. -/
inductive ExecutionError where
  | unsupportedOperator (operator : String)
  | unsupportedJoin (kind : String)
  | unsupportedStatement (kind : String)
  | missingField (field : String)
  | ambiguousField (field first second : String)
  | typeMismatch (field expected actual : String)
  deriving DecidableEq

/-- A store that cannot serve a request. -/
inductive StoreError where
  | tableNotFound (table : String)
  | invalidTableName (table : String)
  | unknownColumn (table column : String)
  | unreadable
  | malformed
  deriving DecidableEq

/-- Everything that can go wrong. A syntax error quotes the text near the place. -/
inductive Error where
  | invalidSyntax (fragment reason : String)
  | execution (cause : ExecutionError)
  | store (cause : StoreError)
  | settings
  deriving DecidableEq

/-- The wording of an evaluation error. -/
def ExecutionError.message : ExecutionError → String
  | unsupportedOperator operator => "unsupported operator: " ++ operator
  | unsupportedJoin kind => "unsupported join type: " ++ kind
  | unsupportedStatement kind => "unsupported query type: " ++ kind
  | missingField field => "field '" ++ field ++ "' does not exist"
  | ambiguousField field first second =>
    "field '" ++ field ++ "' is ambiguous, candidates: " ++ first ++ ", " ++ second
  | typeMismatch field expected actual =>
    "type mismatch on '" ++ field ++ "': expected " ++ expected ++ ", got " ++ actual

/-- The wording of a store's error. -/
def StoreError.message : StoreError → String
  | tableNotFound table => "table '" ++ table ++ "' not found"
  | invalidTableName table => "invalid table name '" ++ table ++ "'"
  | unknownColumn table column => "table '" ++ table ++ "' has no column '" ++ column ++ "'"
  | unreadable => "the file cannot be read or written"
  | malformed => "the data do not form a table"

/-- The wording of an error. -/
def Error.message : Error → String
  | invalidSyntax fragment reason =>
    "query parsing error: invalid syntax: " ++ reason ++ " (near `" ++ fragment ++ "`)"
  | execution cause => "query execution error: " ++ cause.message
  | store cause => cause.message
  | settings => "the settings cannot be read"

/-- What an operation yields, or why it does not. -/
abbrev Result := Except Error

end TableQuery
