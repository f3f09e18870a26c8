/-!
What can be wrong with a condition when it is built.
-/

namespace Winnow

inductive ErrorCode where
  | invalidQuery
  | invalidExpression
  | invalidArgument
deriving DecidableEq

namespace ErrorCode

def number : ErrorCode → Nat
  | invalidQuery => 1001
  | invalidExpression => 1002
  | invalidArgument => 1003

def code (c : ErrorCode) : String := "S" ++ toString c.number

def description : ErrorCode → String
  | invalidQuery => "Invalid query"
  | invalidExpression => "Invalid field expression"
  | invalidArgument => "Invalid argument"

end ErrorCode

/-- Where an error arose, and what may help. -/
structure ErrorContext where
  operation : Option String := none
  expression : Option String := none
  suggestions : List String := []
deriving DecidableEq

namespace ErrorContext

def withOperation (c : ErrorContext) (operation : String) : ErrorContext :=
  { c with operation := some operation }

def withExpression (c : ErrorContext) (expression : String) : ErrorContext :=
  { c with expression := some expression }

def withSuggestion (c : ErrorContext) (suggestion : String) : ErrorContext :=
  { c with suggestions := c.suggestions ++ [suggestion] }

end ErrorContext

structure BuildError where
  code : ErrorCode
  message : String
  context : ErrorContext := {}
deriving DecidableEq

namespace BuildError

/-- The code in brackets and the message. -/
def display (e : BuildError) : String := "[" ++ e.code.code ++ "] " ++ e.message

def isInvalidQuery (e : BuildError) : Bool := e.code == .invalidQuery

def withOperation (e : BuildError) (operation : String) : BuildError :=
  { e with context := e.context.withOperation operation }

def withExpression (e : BuildError) (expression : String) : BuildError :=
  { e with context := e.context.withExpression expression }

def withSuggestion (e : BuildError) (suggestion : String) : BuildError :=
  { e with context := e.context.withSuggestion suggestion }

def emptyGroup (connective : String) : BuildError :=
  { code := .invalidQuery
    message := "Cannot build an " ++ connective ++ " group without any condition"
    context :=
      { operation := some "group"
        suggestions :=
          ["Pass at least one pair, or use Query::empty() for an optional filter"] } }

def emptySubquery (collection : String) : BuildError :=
  { code := .invalidQuery
    message := "Cannot build a subquery over " ++ collection ++ " without any condition"
    context :=
      { operation := some "subquery"
        expression := some collection
        suggestions :=
          ["Pass at least one pair scoped to the collection's element type"] } }

def blankExpression : BuildError :=
  { code := .invalidExpression
    message := "Field expression must not be blank"
    context :=
      { operation := some "expression"
        suggestions := ["Use FieldPath::this() to compare the evaluated element itself"] } }

/-- A value cannot be used where it stands. -/
def invalidArgument (expression detail : String) : BuildError :=
  { code := .invalidArgument
    message := "Invalid argument for " ++ expression ++ ": " ++ detail
    context := { expression := some expression } }

end BuildError

end Winnow
