/-
  Calculator.SyntaxError
  ──────────────────────
  **WHAT CAN BE WRONG WITH THE SHAPE OF A SOURCE.**

  A syntax error keeps the token that it is about, and where two tokens matter,
  both of them.
-/
import Calculator.Report
import Calculator.Token

namespace Calculator

/-- A place where the source does not follow the grammar. -/
inductive SyntaxError where
  /-- A declaration needs a token of the kind `expected` where `found` stands. -/
  | unexpectedToken (found : Token) (expected : TokenKind)
  /-- No expression starts with `found`. -/
  | unexpectedInExpression (found : Token)
  /-- The parenthesis `opener` is not closed where `found` stands. -/
  | unclosedParenthesis (opener found : Token)
  /-- The program is over where `found` stands. -/
  | trailingInput (found : Token)
  /-- The number `found` is too large. -/
  | numberOutOfRange (found : Token)
  deriving DecidableEq, Repr, Inhabited

namespace SyntaxError

/-- The token at which the error shows. -/
def found : SyntaxError → Token
  | unexpectedToken found _ => found
  | unexpectedInExpression found => found
  | unclosedParenthesis _ found => found
  | trailingInput found => found
  | numberOutOfRange found => found

/-- What is wrong. -/
def message : SyntaxError → String
  | unexpectedToken found expected =>
    "Unexpected " ++ found.describe ++ ", expected " ++ expected.display
  | unexpectedInExpression found => "Unexpected " ++ found.describe ++ " in expression"
  | unclosedParenthesis _ found => "Expected closing parenthesis, found " ++ found.describe
  | trailingInput found => "Unexpected " ++ found.describe ++ " after the end of the expression"
  | numberOutOfRange found => "Number " ++ found.text ++ " is out of range"

/-- Where to look. -/
def labels : SyntaxError → List Label
  | unexpectedToken found expected =>
    [⟨"Found " ++ found.kind.display ++ " instead of " ++ expected.display, found.span⟩]
  | unexpectedInExpression found =>
    [⟨"Found " ++ found.kind.display ++ " instead of a number, variable or '('", found.span⟩]
  | unclosedParenthesis opener found =>
    [⟨"Opening parenthesis here", opener.span⟩,
      ⟨"Found " ++ found.describe ++ " instead", found.span⟩]
  | trailingInput found => [⟨"Expected end of input here", found.span⟩]
  | numberOutOfRange found => [⟨"Does not fit in a 32-bit integer", found.span⟩]

/-- The error as it is told. -/
def report (e : SyntaxError) : Report := ⟨e.message, e.labels⟩

end SyntaxError
end Calculator
