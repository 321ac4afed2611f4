/-
  Calculator.Expr.Parse
  ─────────────────────
  **FROM TOKENS TO EXPRESSIONS.**

      Sum      :=  Product {("+" | "-") Product}
      Product  :=  Factor {("*" | "/") Factor}
      Factor   :=  identifier | number | "(" Sum ")"

  The two layers are read by one function (`parseChain`), which folds the
  operands of a layer to the left.  An error never stops the reading: tokens are
  left out up to one that can follow an operand (`TokenKind.followsOperand`),
  and the operand in question is missing in the tree.

  Reading ends because no step gives tokens back: what a step leaves is a suffix
  of what it was given (`Step.suffix`), and each operator and each parenthesis
  takes a token away.
-/
import Calculator.Expr
import Calculator.Journal

namespace Calculator

/-! ## §1. Steps. -/

/-- What a step makes of the tokens `ts`: its value, the tokens that it leaves,
and what happened. -/
structure Step (ts : List Token) (α : Type) where
  value : α
  rest : List Token
  journal : Journal
  suffix : rest <:+ ts

/-- What a step leaves is no longer than what it was given. -/
theorem Step.length_rest_le {ts : List Token} {α : Type} (s : Step ts α) :
    s.rest.length ≤ ts.length := s.suffix.length_le

/-- The first of the tokens left in a source of `size` bytes; if none is left, the
end. -/
def lookAhead (size : Nat) (ts : List Token) : Token := ts.headD (.endOfInput size)

/-- Leaves out tokens up to the first whose kind `resumes`, or up to the end. -/
def skipUntil (size : Nat) (resumes : TokenKind → Bool) (skipped : Nat) :
    (ts : List Token) → Step ts Unit
  | [] => ⟨(), [], .entry (.resumed skipped (.endOfInput size)) .empty, List.suffix_rfl⟩
  | t :: rest =>
    if resumes t.kind then ⟨(), t :: rest, .entry (.resumed skipped t) .empty, List.suffix_rfl⟩
    else
      let later := skipUntil size resumes (skipped + 1) rest
      ⟨(), later.rest, .entry (.sighted (lookAhead size rest)) later.journal,
        later.suffix.trans (List.suffix_cons t rest)⟩

/-- The kinds that can follow an operand; an unreadable operand ends before one. -/
def TokenKind.followsOperand : TokenKind → Bool
  | rightParen | star | plus | minus | slash => true
  | _ => false

/-- The step for an unreadable operand: the error, then the tokens left out. -/
def recover (size : Nat) (error : SyntaxError) (ts : List Token) : Step ts Expr :=
  let later := skipUntil size TokenKind.followsOperand 0 ts
  ⟨.missing, later.rest, .entry (.found error) later.journal, later.suffix⟩

/-- Takes the parenthesis that closes `opener` around `inner`. -/
def closeParenthesis (size : Nat) (opener : Token) (inner : Expr) :
    (ts : List Token) → Step ts Expr
  | [] => recover size (.unclosedParenthesis opener (.endOfInput size)) []
  | t :: rest =>
    if t.kind = .rightParen then
      -- a hole stays a hole in parentheses
      ⟨inner.parenthesized (opener.span.hull t.span), rest,
        .entry (.sighted (lookAhead size rest)) .empty, List.suffix_cons t rest⟩
    else recover size (.unclosedParenthesis opener t) (t :: rest)

/-! ## §2. Layers. -/

/-- How tightly an operator binds. -/
inductive Layer where
  /-- `+` and `-`. -/
  | sum
  /-- `*` and `/`, which bind tighter. -/
  | product
  deriving DecidableEq, Repr, Inhabited

namespace Layer

/-- The operator of the layer that the kind of token stands for. -/
def operator? : Layer → TokenKind → Option Operator
  | sum, .plus => some .add
  | sum, .minus => some .sub
  | product, .star => some .mul
  | product, .slash => some .div
  | _, _ => none

/-- The place of an operand of the layer in the order in which the readers below
call each other without taking a token; there are five such places. -/
def rank : Layer → Nat
  | sum => 3
  | product => 1

theorem rank_le (layer : Layer) : layer.rank ≤ 3 := by
  cases layer <;> decide

end Layer

/-! ## §3. Expressions. -/

mutual

/-- An operand of the layer: of a sum, a product; of a product, a factor. -/
def parseOperand (size : Nat) (layer : Layer) (ts : List Token) : Step ts Expr :=
  match layer with
  | .sum => parseChain size .product ts
  | .product => parseFactor size ts
termination_by 5 * ts.length + layer.rank
decreasing_by
  · simp only [Layer.rank]; omega
  · simp only [Layer.rank]; omega

/-- Operands of the layer with its operators between them. -/
def parseChain (size : Nat) (layer : Layer) (ts : List Token) : Step ts Expr :=
  let first := parseOperand size layer ts
  let more := extendChain size layer first.value first.rest
  ⟨more.value, more.rest, .join first.journal more.journal, more.suffix.trans first.suffix⟩
termination_by 5 * ts.length + layer.rank + 1
decreasing_by
  · omega
  · exact Nat.lt_of_le_of_lt (Nat.mul_le_mul_left 5 first.length_rest_le) (by omega)

/-- Takes in, behind `left`, the operators of the layer that follow, each with its
right operand. -/
def extendChain (size : Nat) (layer : Layer) (left : Expr) (ts : List Token) : Step ts Expr :=
  match ts with
  | [] => ⟨left, [], .empty, List.suffix_rfl⟩
  | t :: rest =>
    match layer.operator? t.kind with
    | none => ⟨left, t :: rest, .empty, List.suffix_rfl⟩
    | some op =>
      let right := parseOperand size layer rest
      let more := extendChain size layer (.ofOperands op t.span left right.value) right.rest
      ⟨more.value, more.rest,
        .entry (.sighted (lookAhead size rest)) (.join right.journal more.journal),
        more.suffix.trans (right.suffix.trans (List.suffix_cons t rest))⟩
termination_by 5 * ts.length
decreasing_by
  · have := layer.rank_le
    simp only [List.length_cons]
    omega
  · exact Nat.lt_of_le_of_lt (Nat.mul_le_mul_left 5 right.length_rest_le)
      (by simp only [List.length_cons]; omega)

/-- A number, a variable or a sum in parentheses. -/
def parseFactor (size : Nat) (ts : List Token) : Step ts Expr :=
  match ts with
  | [] => recover size (.unexpectedInExpression (.endOfInput size)) []
  | t :: rest =>
    match t.kind with
    | .number =>
      match Number.read? t.text.toList with
      | some value =>
        ⟨.literal value t.text t.span, rest, .entry (.sighted (lookAhead size rest)) .empty,
          List.suffix_cons t rest⟩
      | none =>
        let later := recover size (.numberOutOfRange t) rest
        ⟨later.value, later.rest, .entry (.sighted (lookAhead size rest)) later.journal,
          later.suffix.trans (List.suffix_cons t rest)⟩
    | .identifier =>
      ⟨.reference t.text t.span, rest, .entry (.sighted (lookAhead size rest)) .empty,
        List.suffix_cons t rest⟩
    | .leftParen =>
      -- what is inside is lost if the parenthesis is not closed
      let inner := parseChain size .sum rest
      let closing := closeParenthesis size t inner.value inner.rest
      ⟨closing.value, closing.rest,
        .entry (.sighted (lookAhead size rest)) (.join inner.journal closing.journal),
        closing.suffix.trans (inner.suffix.trans (List.suffix_cons t rest))⟩
    | _ => recover size (.unexpectedInExpression t) (t :: rest)
termination_by 5 * ts.length
decreasing_by
  simp only [Layer.rank, List.length_cons]
  omega

end

end Calculator
