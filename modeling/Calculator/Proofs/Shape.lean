/-
  Calculator.Proofs.Shape
  ───────────────────────
  **TREES WITHOUT PLACES.**

  Two trees that say the same differ at most in where their nodes stand in the
  source.  The shape of an expression (`Expr.shape`) is what is left when the
  places are dropped: operators, names, numbers with their texts, and holes.

  Main statement: parentheses change no shape (`shape_parenthesized`).
-/
import Calculator.Program

namespace Calculator

/-! ## §1. Shapes. -/

/-- An expression without its places in the source. -/
inductive Shape where
  /-- A hole. -/
  | missing
  /-- A number of any size, with the text that it was written with. -/
  | literal (value : Int) (text : String)
  /-- A use of a variable. -/
  | reference (name : String)
  /-- An operator between two operands. -/
  | binary (op : Operator) (left right : Shape)
  deriving DecidableEq, Repr, Inhabited

/-- The shape without the texts of its numbers. -/
def Shape.unspelled : Shape → Shape
  | missing => .missing
  | literal value _ => .literal value ""
  | reference name => .reference name
  | binary op left right => .binary op left.unspelled right.unspelled

namespace Expr

/-- The expression without its places. -/
def shape : Expr → Shape
  | missing => .missing
  | literal value text _ => .literal value.toInt text
  | reference name _ => .reference name
  | binary op _ left right _ => .binary op left.shape right.shape

@[simp] theorem shape_ofOperands (op : Operator) (opSpan : Span) (left right : Expr) :
    (ofOperands op opSpan left right).shape = .binary op left.shape right.shape := rfl

/-- Parentheses leave no node. -/
@[simp] theorem shape_parenthesized (parens : Span) (e : Expr) :
    (e.parenthesized parens).shape = e.shape := by
  cases e <;> rfl

end Expr

/-! ## §2. The names that a program declares. -/

/-- The declared names in order; none if the program is an expression alone. -/
def Program.names? : Program → Option (List String)
  | .bare _ _ => none
  | .declaring _ declared _ => some (declared.map Declaration.name)

/-! ## §3. Holes and variables. -/

namespace Expr

/-- How many operands are missing. -/
def holes : Expr → Nat
  | missing => 1
  | literal _ _ _ => 0
  | reference _ _ => 0
  | binary _ _ left right _ => left.holes + right.holes

/-- The names of the variables that are used, from left to right. -/
def usedNames : Expr → List String
  | missing => []
  | literal _ _ _ => []
  | reference name _ => [name]
  | binary _ _ left right _ => left.usedNames ++ right.usedNames

end Expr
end Calculator
