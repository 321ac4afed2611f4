/-
  Calculator.Report
  ─────────────────
  **HOW PROBLEMS ARE REPORTED.**

  Every problem, whatever stage finds it, is told by a message and by labels
  that point into the source.
-/
import Calculator.Span

namespace Calculator

/-- A remark about a place in the source. -/
structure Label where
  text : String
  span : Span
  deriving DecidableEq, Repr, Inhabited

/-- A problem as it is told: what is wrong, and where to look. -/
structure Report where
  message : String
  labels : List Label
  deriving DecidableEq, Repr, Inhabited

end Calculator
