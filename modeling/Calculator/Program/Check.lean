/-
  Calculator.Program.Check
  ────────────────────────
  **WHAT KEEPS A PROGRAM FROM BEING EVALUATED.**

  Every name must be declared once, before its use, and nothing may be missing.
  The check reports all problems: first the repeated declarations in order, then
  the problems of the expression from left to right.
-/
import Calculator.Program
import Calculator.SemanticError

namespace Calculator

/-- One problem for each variable that one of `firsts` or an earlier one of the list
declares too; it points at the first declaration. -/
def repeatedNames (firsts : List Declaration) : List Declaration → List SemanticError
  | [] => []
  | d :: later =>
    match firsts.find? (·.name == d.name) with
    | some first => .alreadyDeclared d.name d.span first.span :: repeatedNames firsts later
    | none => repeatedNames (d :: firsts) later

/-- The problems of an expression in which `names` may be used; `ifMissing` is the
problem of a hole in its place. -/
def Expr.problems (names : List String) (ifMissing : SemanticError) : Expr → List SemanticError
  | missing => [ifMissing]
  | literal _ _ _ => []
  | reference name span => if name ∈ names then [] else [.notDeclared name span]
  | binary op opSpan left right _ =>
    left.problems names (.missingOperand op opSpan) ++
      right.problems names (.missingOperand op opSpan)

/-- The problems of a program. -/
def Program.problems : Program → List SemanticError
  | bare body _ => body.problems [] .missingProgram
  | declaring withSpan declared body =>
    repeatedNames [] declared ++
      body.problems (declared.map Declaration.name)
        (.missingBody (declarationSpan withSpan declared body))

/-- The problems of what was made of a source; there may be no program. -/
def check : Option Program → List SemanticError
  | none => [.missingProgram]
  | some program => program.problems

end Calculator
