/-
  Calculator.Expr
  ───────────────
  **EXPRESSION TREES.**

  An expression is a number, a variable or an operator with two operands; where
  the source had no readable operand, the tree has a hole (`Expr.missing`).
  Every node knows its place: an operator node reaches from its left operand to
  its right one (`Expr.ofOperands`), and parentheses widen a node's place to
  their own (`Expr.parenthesized`).
-/
import Calculator.Operator
import Calculator.Span

namespace Calculator

/-- An expression with its places in the source. -/
inductive Expr where
  /-- A hole where the source had no readable expression. -/
  | missing
  /-- A number, with the text that it was written with. -/
  | literal (value : Int32) (text : String) (span : Span)
  /-- A use of a variable. -/
  | reference (name : String) (span : Span)
  /-- An operator between two operands. -/
  | binary (op : Operator) (opSpan : Span) (left right : Expr) (span : Span)
  deriving DecidableEq, Repr, Inhabited

namespace Expr

/-! ## §1. Places. -/

/-- The place of the expression; a hole has none and takes `fallback`. -/
def spanOr (fallback : Span) : Expr → Span
  | missing => fallback
  | literal _ _ span => span
  | reference _ span => span
  | binary _ _ _ _ span => span

/-- The operator node over two operands; it reaches from the left one to the right
one, and the operator's own place stands in for an operand that is missing. -/
def ofOperands (op : Operator) (opSpan : Span) (left right : Expr) : Expr :=
  .binary op opSpan left right ((left.spanOr opSpan).hull (right.spanOr opSpan))

/-- The same expression with the place of the parentheses around it. -/
def parenthesized (parens : Span) : Expr → Expr
  | missing => missing
  | literal value text _ => literal value text parens
  | reference name _ => reference name parens
  | binary op opSpan left right _ => binary op opSpan left right parens

/-! ## §2. The written form. -/

/-- The expression with the operator in front and each operator node in
parentheses. -/
def render : Expr → String
  | missing => "<error>"
  | literal value _ _ => Number.write value
  | reference name _ => name
  | binary op _ left right _ => "(" ++ op.symbol ++ " " ++ left.render ++ " " ++ right.render ++ ")"

/-! ## §3. Small facts. -/

@[simp] theorem spanOr_ofOperands (fallback : Span) (op : Operator) (opSpan : Span)
    (left right : Expr) :
    (ofOperands op opSpan left right).spanOr fallback =
      (left.spanOr opSpan).hull (right.spanOr opSpan) := rfl

theorem parenthesized_eq_missing_iff {parens : Span} {e : Expr} :
    e.parenthesized parens = missing ↔ e = missing := by
  cases e <;> simp [parenthesized]

theorem spanOr_parenthesized {fallback parens : Span} {e : Expr} (h : e ≠ missing) :
    (e.parenthesized parens).spanOr fallback = parens := by
  cases e with
  | missing => exact absurd rfl h
  | literal => rfl
  | reference => rfl
  | binary => rfl

theorem render_parenthesized (parens : Span) (e : Expr) :
    (e.parenthesized parens).render = e.render := by
  cases e <;> rfl

end Expr
end Calculator
