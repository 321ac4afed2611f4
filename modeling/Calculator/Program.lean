/-
  Calculator.Program
  ──────────────────
  **WHOLE PROGRAMS.**

  A program is one expression, or a declaration of variables with an expression
  behind it.  Only the expression behind a declaration may be missing: without
  a declaration and without an expression there is no program.
-/
import Calculator.Expr

namespace Calculator

/-- A variable where it is declared. -/
structure Declaration where
  name : String
  span : Span
  deriving DecidableEq, Repr, Inhabited

/-- What one source text says. -/
inductive Program where
  /-- An expression alone. -/
  | bare (body : Expr) (present : body ≠ .missing)
  /-- `with` and the declared variables, and the expression that uses them. -/
  | declaring (withSpan : Span) (declared : List Declaration) (body : Expr)
  deriving DecidableEq, Repr

namespace Program

/-- The program of an expression alone, unless it is missing. -/
def ofExpr? (body : Expr) : Option Program :=
  if present : body ≠ .missing then some (.bare body present) else none

/-- The expression of the program. -/
def body : Program → Expr
  | bare body _ => body
  | declaring _ _ body => body

/-- The variables that the program declares, in order. -/
def declared : Program → List Declaration
  | bare _ _ => []
  | declaring _ declared _ => declared

/-- From the word `with` to the end of the expression, or of the last declared
variable where the expression is missing. -/
def declarationSpan (withSpan : Span) (declared : List Declaration) (body : Expr) : Span :=
  withSpan.hull (body.spanOr ((declared.getLast?.map Declaration.span).getD withSpan))

/-- The place of the program. -/
def span : Program → Span
  | bare body _ => body.spanOr ⟨0, 0⟩
  | declaring withSpan declared body => declarationSpan withSpan declared body

/-- The program in the form of its expressions: a declaration lists its variables
in front of the expression. -/
def render : Program → String
  | bare body _ => body.render
  | declaring _ declared body =>
    "(with (" ++ " ".intercalate (declared.map Declaration.name) ++ ") " ++ body.render ++ ")"

@[simp] theorem ofExpr?_missing : ofExpr? .missing = none := rfl

theorem ofExpr?_of_ne {body : Expr} (h : body ≠ .missing) : ofExpr? body = some (.bare body h) :=
  dif_pos h

end Program
end Calculator
