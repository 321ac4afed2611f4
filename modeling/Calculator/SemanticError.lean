/-
  Calculator.SemanticError
  ────────────────────────
  **WHAT CAN BE WRONG WITH A PROGRAM OF GOOD SHAPE.**

  Names that are declared twice or not at all, and holes where the source had
  nothing readable.
-/
import Calculator.Operator
import Calculator.Report

namespace Calculator

/-- A reason why a program cannot be evaluated. -/
inductive SemanticError where
  /-- `name` is declared again at `again`; `first` is its first declaration. -/
  | alreadyDeclared (name : String) (again first : Span)
  /-- `name` is used at `use` and declared nowhere. -/
  | notDeclared (name : String) (use : Span)
  /-- The operator `op` at `opSpan` lacks an operand. -/
  | missingOperand (op : Operator) (opSpan : Span)
  /-- The declaration at `declaration` has no expression behind it. -/
  | missingBody (declaration : Span)
  /-- There is no program at all. -/
  | missingProgram
  deriving DecidableEq, Repr, Inhabited

namespace SemanticError

/-- What is wrong. -/
def message : SemanticError → String
  | alreadyDeclared name _ _ => "Variable " ++ name ++ " already declared"
  | notDeclared name _ => "Variable " ++ name ++ " not declared"
  | missingOperand op _ => "Missing operand for '" ++ op.symbol ++ "'"
  | missingBody _ => "Missing expression after declaration"
  | missingProgram => "No syntax tree to check"

/-- Where to look. -/
def labels : SemanticError → List Label
  | alreadyDeclared name again first =>
    [⟨"'" ++ name ++ "' is declared again here", again⟩,
      ⟨"'" ++ name ++ "' was first declared here", first⟩]
  | notDeclared name use => [⟨"'" ++ name ++ "' is used here but never declared with 'with'", use⟩]
  | missingOperand _ opSpan => [⟨"This operator is missing an operand", opSpan⟩]
  | missingBody declaration => [⟨"These declarations have no expression", declaration⟩]
  | missingProgram => []

/-- The error as it is told. -/
def report (e : SemanticError) : Report := ⟨e.message, e.labels⟩

end SemanticError
end Calculator
