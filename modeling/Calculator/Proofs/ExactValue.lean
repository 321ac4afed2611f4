/-
  Calculator.Proofs.ExactValue
  ────────────────────────────
  **A VALUE IS EXACT, OR THE FIRST OPERATION THAT HAS NONE IS TOLD.**

  The operator nodes of an expression come in the order in which they are evaluated,
  operands first and the left one before the right one (`Expr.operations`), each with
  the exact values of its operands.  As long as none of them divides by 0 or leaves the
  range, evaluating computes with exact integers; the first one that does is the error.

  One operation is the step (`Operation.apply_cases`); the induction over the expression
  carries it along the list of operations, where the operands of a node come before the
  node (`Expr.evaluate_cases`).

  Main statement: `evaluate_is_exact`.
-/
import Calculator.Proofs.Evaluation
import Calculator.Proofs.Shape

namespace Calculator

/-! ## §1. Operations on exact integers. -/

/-- An operator node with the values of its operands, which may be of any size. -/
structure Operation where
  op : Operator
  node : Span
  left : Int
  right : Int
  deriving DecidableEq, Repr, Inhabited

namespace Operation

/-- The exact result; there is none to speak of where the divisor is 0. -/
def result (o : Operation) : Int := o.op.exact o.left o.right

/-- The operation divides by 0. -/
def DividesByZero (o : Operation) : Prop := o.op = .div ∧ o.right = 0

instance (o : Operation) : Decidable o.DividesByZero :=
  inferInstanceAs (Decidable (o.op = .div ∧ o.right = 0))

/-- The operation divides by 0, or its result is no value of 32 bits. -/
def IsFaulty (o : Operation) : Prop :=
  o.DividesByZero ∨ ¬(-2147483648 ≤ o.result ∧ o.result ≤ 2147483647)

instance (o : Operation) : Decidable o.IsFaulty :=
  inferInstanceAs (Decidable (o.DividesByZero ∨ ¬(-2147483648 ≤ o.result ∧ o.result ≤ 2147483647)))

/-- The error tells what is wrong with the operation: it names the node, and an overflow
has the operator and the values of both operands. -/
def Explains (o : Operation) (error : RuntimeError) : Prop :=
  if o.DividesByZero then error = .divisionByZero o.node
  else ∃ x y, error = .overflow o.op o.node x y ∧ x.toInt = o.left ∧ y.toInt = o.right

/-- What comes of an operation whose operands are values: its exact result if it is not
faulty, else an error that tells why. -/
theorem apply_cases {o : Operation} {x y : Int32} (hx : x.toInt = o.left)
    (hy : y.toInt = o.right) :
    (¬o.IsFaulty ∧ ∃ v,
        (o.op.apply x y).mapError (RuntimeError.ofFault o.op o.node x y) = .ok v ∧
          v.toInt = o.result) ∨
      (o.IsFaulty ∧ ∃ error,
        (o.op.apply x y).mapError (RuntimeError.ofFault o.op o.node x y) = .error error ∧
          o.Explains error) := by
  have hzero : o.right = 0 ↔ y = 0 := by
    rw [← hy]
    exact Int32.toInt_inj (y := 0)
  have hresult : o.op.exact x.toInt y.toInt = o.result := by rw [hx, hy, result]
  -- no result for a divisor 0 comes first, then one that is out of range
  unfold Operator.apply
  by_cases h : o.op = .div ∧ y = 0
  · have hdiv : o.DividesByZero := ⟨h.1, hzero.2 h.2⟩
    rw [if_pos h]
    refine .inr ⟨.inl hdiv, .divisionByZero o.node, rfl, ?_⟩
    unfold Explains
    rw [if_pos hdiv]
  · have hdiv : ¬o.DividesByZero := by
      intro hd
      exact h ⟨hd.1, hzero.1 hd.2⟩
    rw [if_neg h, hresult]
    cases hfit : Number.fit? o.result with
    | some v =>
      have hv : v.toInt = o.result := Number.fit?_eq_some_iff.1 hfit
      have hrange : -2147483648 ≤ o.result ∧ o.result ≤ 2147483647 := by
        have hlow := v.le_toInt
        have hhigh := v.toInt_lt
        omega
      have hok : ¬o.IsFaulty := by
        rintro (hd | hout)
        · exact hdiv hd
        · exact hout hrange
      exact .inl ⟨hok, v, rfl, hv⟩
    | none =>
      have hout : ¬(-2147483648 ≤ o.result ∧ o.result ≤ 2147483647) := by
        have hnone := Number.fit?_eq_none_iff.1 hfit
        omega
      refine .inr ⟨.inr hout, .overflow o.op o.node x y, rfl, ?_⟩
      unfold Explains
      rw [if_neg hdiv]
      exact ⟨x, y, rfl, hx, hy⟩

end Operation

/-! ## §2. Expressions. -/

namespace Expr

/-- The value on integers of any size.  A quotient is cut toward zero; it means nothing
where the divisor is 0, and neither does a hole or a variable without a value. -/
def exactValue (b : Bindings) : Expr → Int
  | missing => 0
  | literal value _ _ => value.toInt
  | reference name _ => ((b.get? name).map Int32.toInt).getD 0
  | binary op _ left right _ => op.exact (left.exactValue b) (right.exactValue b)

/-- The operator nodes in the order of evaluation: operands first, the left one before
the right one. -/
def operations (b : Bindings) : Expr → List Operation
  | missing => []
  | literal _ _ _ => []
  | reference _ _ => []
  | binary op _ left right span =>
    left.operations b ++ right.operations b ++
      [⟨op, span, left.exactValue b, right.exactValue b⟩]

variable {b : Bindings} {e : Expr}

/-- Where nothing is missing and all variables have values, an expression has its exact
value, or the first faulty operation explains the error. -/
theorem evaluate_cases (ifMissing : Span) (whole : e.holes = 0)
    (bound : ∀ name ∈ e.usedNames, (b.get? name).isSome = true) :
    ((e.operations b).find? (fun o => decide o.IsFaulty) = none ∧
        ∃ v, e.evaluate b ifMissing = .ok v ∧ v.toInt = e.exactValue b) ∨
      ∃ o error, (e.operations b).find? (fun o => decide o.IsFaulty) = some o ∧
        e.evaluate b ifMissing = .error error ∧ o.Explains error := by
  induction e generalizing ifMissing with
  | missing => cases whole
  | literal value text span => exact .inl ⟨rfl, value, rfl, rfl⟩
  | reference name span =>
    obtain ⟨v, hv⟩ := Option.isSome_iff_exists.1 (bound name (List.mem_singleton.2 rfl))
    refine .inl ⟨rfl, v, ?_, ?_⟩
    · unfold evaluate
      rw [hv]
    · unfold exactValue
      rw [hv]
      rfl
  | binary op opSpan left right span ihl ihr =>
    have hholes : left.holes + right.holes = 0 := whole
    obtain ⟨boundl, boundr⟩ := List.forall_mem_append.1 bound
    unfold operations
    rw [List.find?_append, List.find?_append]
    -- the first faulty operation is in the left operand, in the right one, or the node
    rcases ihl opSpan (by omega) boundl with ⟨hnl, x, hl, hx⟩ | ⟨o, error, ho, hl, hexplains⟩
    · rcases ihr opSpan (by omega) boundr with ⟨hnr, y, hr, hy⟩ | ⟨o, error, ho, hr, hexplains⟩
      · rw [hnl, hnr, evaluate_binary_of_operands hl hr]
        rcases Operation.apply_cases (o := ⟨op, span, left.exactValue b, right.exactValue b⟩)
          hx hy with ⟨hok, hv⟩ | ⟨hfaulty, error, herror, hexplains⟩
        · exact .inl ⟨by simp [hok], hv⟩
        · exact .inr ⟨_, error, by simp [hfaulty], herror, hexplains⟩
      · rw [hnl, ho]
        exact .inr ⟨o, error, rfl, evaluate_binary_of_right hl hr, hexplains⟩
    · rw [ho]
      exact .inr ⟨o, error, rfl, evaluate_binary_of_left hl, hexplains⟩

end Expr

/-! ## §3. Programs. -/

end Calculator
