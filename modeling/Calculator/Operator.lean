/-
  Calculator.Operator
  ───────────────────
  **THE FOUR OPERATIONS.**

  Each operator has an exact meaning on all integers; division goes toward
  zero.  What a program computes is that meaning kept within 32 bits
  (`Operator.apply`): it fails for a divisor 0 and for a result out of range.
-/
import Calculator.Number

namespace Calculator

/-- What an expression can do with two numbers. -/
inductive Operator where
  | add
  | sub
  | mul
  | div
  deriving DecidableEq, Repr, Inhabited

/-- Why two numbers have no result. -/
inductive ArithmeticFault where
  /-- The divisor is 0. -/
  | zeroDivisor
  /-- The exact result is out of range. -/
  | outOfRange
  deriving DecidableEq, Repr, Inhabited

namespace Operator

/-- How the operator is written. -/
def symbol : Operator → String
  | add => "+"
  | sub => "-"
  | mul => "*"
  | div => "/"

/-- The result on integers of any size; a quotient is cut toward zero. -/
def exact : Operator → Int → Int → Int
  | add, a, b => a + b
  | sub, a, b => a - b
  | mul, a, b => a * b
  | div, a, b => a.tdiv b

/-- The result on values, or why there is none. -/
def apply (op : Operator) (a b : Int32) : Except ArithmeticFault Int32 :=
  if op = div ∧ b = 0 then .error .zeroDivisor
  else
    match Number.fit? (op.exact a.toInt b.toInt) with
    | some v => .ok v
    | none => .error .outOfRange

/-- There is a result exactly if the divisor is not 0 and the exact result is in
range, and then it is the exact one. -/
theorem apply_eq_ok_iff {op : Operator} {a b v : Int32} :
    op.apply a b = .ok v ↔ ¬(op = div ∧ b = 0) ∧ v.toInt = op.exact a.toInt b.toInt := by
  unfold apply
  split
  · next h => simp [h]
  · next h =>
    rw [← Number.fit?_eq_some_iff]
    cases Number.fit? (op.exact a.toInt b.toInt) <;> simp [h]

end Operator
end Calculator
