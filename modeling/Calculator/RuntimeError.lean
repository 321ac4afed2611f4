/-
  Calculator.RuntimeError
  ───────────────────────
  **WHAT CAN GO WRONG WHILE A PROGRAM RUNS.**

  A value typed in is no number, the arithmetic has no result, the program was
  never fit to run, or the console fails.
-/
import Calculator.Operator
import Calculator.Report
import Calculator.Text.Quoted

namespace Calculator

/-- How reading from or writing to the console can fail. -/
inductive ConsoleFault where
  /-- A line is not UTF-8. -/
  | invalidText
  /-- The output takes no more bytes. -/
  | outputFull
  /-- The output cannot be passed on. -/
  | flushFailed
  deriving DecidableEq, Repr, Inhabited

/-- A reason why a run ends without a value. -/
inductive RuntimeError where
  /-- The line `input` for the variable `name` is no value. -/
  | invalidInput (name input : String)
  /-- The divisor in the operator node at `node` is 0. -/
  | divisionByZero (node : Span)
  /-- The result in the operator node at `node` is out of range. -/
  | overflow (op : Operator) (node : Span) (left right : Int32)
  /-- The variable `name`, used at `use`, has no value. -/
  | undefinedVariable (name : String) (use : Span)
  /-- Something is missing at `place`. -/
  | incomplete (place : Span)
  /-- The console fails. -/
  | console (fault : ConsoleFault)
  deriving DecidableEq, Repr, Inhabited

/-- What is wrong with the console. -/
def ConsoleFault.message : ConsoleFault → String
  | invalidText => "stream did not contain valid UTF-8"
  | outputFull => "failed to write whole buffer"
  | flushFailed => "flush failed"

namespace RuntimeError

/-- What is wrong. -/
def message : RuntimeError → String
  | invalidInput name input => "Value " ++ Text.quote input ++ " for " ++ name ++ " is invalid"
  | divisionByZero _ => "Division by zero"
  | overflow op _ _ _ => "Integer overflow in '" ++ op.symbol ++ "'"
  | undefinedVariable name _ => "Undefined variable " ++ name
  | incomplete _ => "Cannot evaluate a tree with syntax errors"
  | console fault => "I/O error: " ++ fault.message

/-- Where to look. -/
def labels : RuntimeError → List Label
  | invalidInput _ _ => []
  | divisionByZero node => [⟨"The right operand evaluated to 0", node⟩]
  | overflow op node left right =>
    [⟨Number.write left ++ " " ++ op.symbol ++ " " ++ Number.write right ++
      " does not fit in a 32-bit integer", node⟩]
  | undefinedVariable _ use => [⟨"found here", use⟩]
  | incomplete place => [⟨"This node is incomplete", place⟩]
  | console _ => []

/-- The error as it is told. -/
def report (e : RuntimeError) : Report := ⟨e.message, e.labels⟩

/-- The error of an operator node at `node` with the operands `left` and `right`. -/
def ofFault (op : Operator) (node : Span) (left right : Int32) : ArithmeticFault → RuntimeError
  | .zeroDivisor => divisionByZero node
  | .outOfRange => overflow op node left right

end RuntimeError
end Calculator
