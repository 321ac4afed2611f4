/-
  Calculator.Expr.Evaluate
  ────────────────────────
  **THE VALUE OF AN EXPRESSION.**

  Operands are evaluated from left to right, and the first failure is the
  failure of the whole expression.
-/
import Calculator.Bindings
import Calculator.Expr
import Calculator.RuntimeError

namespace Calculator

/-- The value of an expression whose variables have the values in `bindings`;
`ifMissing` is the place to report for a hole in its place. -/
def Expr.evaluate (bindings : Bindings) (ifMissing : Span) : Expr → Except RuntimeError Int32
  | missing => .error (.incomplete ifMissing)
  | literal value _ _ => .ok value
  | reference name span =>
    match bindings.get? name with
    | some value => .ok value
    | none => .error (.undefinedVariable name span)
  | binary op opSpan left right span =>
    match left.evaluate bindings opSpan with
    | .error e => .error e
    | .ok a =>
      match right.evaluate bindings opSpan with
      | .error e => .error e
      | .ok b => (op.apply a b).mapError (RuntimeError.ofFault op span a b)

end Calculator
