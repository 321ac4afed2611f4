/-
  Calculator.Proofs.Spelling
  ──────────────────────────
  **HOW A NUMBER IS WRITTEN DOES NOT MATTER.**

  A tree keeps the texts of its numbers beside their values.  No check and no evaluation
  looks at these texts, so they can be forgotten (`unspelled`) as places can.  What is left
  of a program when both are forgotten is the shape of its expression and the names that it
  declares, and programs that agree in that are checked and evaluated alike.

  Main statements:
    * `Program.problems_eq_of_shape` — the same problems, up to places;
    * `Session.run_eq_of_shape`      — the same runs and evaluations, up to places.
-/
import Calculator.Proofs.Layout
import Calculator.Proofs.Shape

namespace Calculator

/-! ## §1. Forgetting the texts of numbers. -/

/-- The expression without the texts of its numbers. -/
def Expr.unspelled : Expr → Expr
  | missing => .missing
  | literal value _ span => .literal value "" span
  | reference name span => .reference name span
  | binary op opSpan left right span => .binary op opSpan left.unspelled right.unspelled span

theorem Expr.unspelled_eq_missing_iff {e : Expr} : e.unspelled = missing ↔ e = missing := by
  cases e <;> simp [unspelled]

/-- The program without the texts of its numbers. -/
def Program.unspelled : Program → Program
  | .bare body present => .bare body.unspelled (mt Expr.unspelled_eq_missing_iff.1 present)
  | .declaring withSpan declared body => .declaring withSpan declared body.unspelled

namespace Expr

@[simp] theorem spanOr_unspelled (fallback : Span) (e : Expr) :
    e.unspelled.spanOr fallback = e.spanOr fallback := by
  cases e <;> rfl

@[simp] theorem problems_unspelled (names : List String) (ifMissing : SemanticError) (e : Expr) :
    e.unspelled.problems names ifMissing = e.problems names ifMissing := by
  induction e generalizing ifMissing with
  | missing => rfl
  | literal => rfl
  | reference => rfl
  | binary op opSpan left right span ihl ihr =>
    simp only [unspelled, problems, ihl, ihr]

@[simp] theorem evaluate_unspelled (b : Bindings) (ifMissing : Span) (e : Expr) :
    e.unspelled.evaluate b ifMissing = e.evaluate b ifMissing := by
  induction e generalizing ifMissing with
  | missing => rfl
  | literal => rfl
  | reference => rfl
  | binary op opSpan left right span ihl ihr =>
    simp only [unspelled, evaluate, ihl, ihr]

/-- Without places and texts of numbers, an expression is its shape. -/
theorem unspelled_unplaced_eq_iff {e f : Expr} :
    e.unplaced.unspelled = f.unplaced.unspelled ↔ e.shape.unspelled = f.shape.unspelled := by
  induction e generalizing f with
  | missing => cases f <;> simp [unplaced, unspelled, shape, Shape.unspelled]
  | literal value text span =>
    cases f <;> simp [unplaced, unspelled, shape, Shape.unspelled, Int32.toInt_inj]
  | reference => cases f <;> simp [unplaced, unspelled, shape, Shape.unspelled]
  | binary op opSpan left right span ihl ihr =>
    cases f <;> simp [unplaced, unspelled, shape, Shape.unspelled, ihl, ihr]

end Expr

/-! ## §2. Programs. -/

namespace Program

@[simp] theorem declared_unspelled (p : Program) : p.unspelled.declared = p.declared := by
  cases p <;> rfl

@[simp] theorem body_unspelled (p : Program) : p.unspelled.body = p.body.unspelled := by
  cases p <;> rfl

@[simp] theorem span_unspelled (p : Program) : p.unspelled.span = p.span := by
  cases p with
  | bare body => exact body.spanOr_unspelled _
  | declaring withSpan declared body =>
    simp only [unspelled, span, declarationSpan, Expr.spanOr_unspelled]

@[simp] theorem problems_unspelled (p : Program) : p.unspelled.problems = p.problems := by
  cases p with
  | bare body => exact body.problems_unspelled _ _
  | declaring withSpan declared body =>
    simp only [unspelled, problems, declarationSpan, Expr.spanOr_unspelled,
      Expr.problems_unspelled]

/-- Without places and texts of numbers, a program is the names that it declares and the
shape of its expression. -/
theorem unspelled_unplaced_eq {p q : Program} (hnames : p.names? = q.names?)
    (hshape : p.body.shape.unspelled = q.body.shape.unspelled) :
    p.unplaced.unspelled = q.unplaced.unspelled := by
  cases p with
  | bare body =>
    cases q with
    | bare body' =>
      have hbody : body.unplaced.unspelled = body'.unplaced.unspelled :=
        Expr.unspelled_unplaced_eq_iff.2 hshape
      simp only [unplaced, unspelled, hbody]
    | declaring => cases hnames
  | declaring withSpan declared body =>
    cases q with
    | bare => cases hnames
    | declaring withSpan' declared' body' =>
      have hmap : ∀ ds : List Declaration, ds.map Declaration.unplaced =
          (ds.map Declaration.name).map fun name => ⟨name, .nowhere⟩ := by
        intro ds
        rw [List.map_map]
        rfl
      have hdeclared : declared.map Declaration.unplaced = declared'.map Declaration.unplaced := by
        rw [hmap, hmap, Option.some.inj hnames]
      have hbody : body.unplaced.unspelled = body'.unplaced.unspelled :=
        Expr.unspelled_unplaced_eq_iff.2 hshape
      simp only [unplaced, unspelled, hdeclared, hbody]

/-- Programs with the same names and the same shape have the same problems, up to
places. -/
theorem problems_eq_of_shape {p q : Program} (hnames : p.names? = q.names?)
    (hshape : p.body.shape.unspelled = q.body.shape.unspelled) :
    p.problems.map SemanticError.unplaced = q.problems.map SemanticError.unplaced := by
  rw [p.problems_unplaced, q.problems_unplaced, ← p.unplaced.problems_unspelled,
    unspelled_unplaced_eq hnames hshape, problems_unspelled]

end Program

namespace Session

variable {σ : Type} [Runtime σ]

theorem evaluate_unspelled (p : Program) (s : Session σ) :
    s.evaluate p.unspelled = s.evaluate p := by
  simp only [evaluate, Program.declared_unspelled, Program.body_unspelled,
    Program.span_unspelled, Expr.evaluate_unspelled]

theorem run_unspelled (p : Program) (s : Session σ) : s.run p.unspelled = s.run p := by
  simp only [run, evaluate_unspelled]

/-- Programs with the same names and the same shape run alike, up to places. -/
theorem run_eq_of_shape {p q : Program} (hnames : p.names? = q.names?)
    (hshape : p.body.shape.unspelled = q.body.shape.unspelled) (s : Session σ) :
    unplacedResult (s.run p) = unplacedResult (s.run q) ∧
      unplacedResult (s.evaluate p) = unplacedResult (s.evaluate q) := by
  have hsame := Program.unspelled_unplaced_eq hnames hshape
  constructor
  · rw [← run_unplaced p, ← run_unspelled, hsame, run_unspelled, run_unplaced]
  · rw [← evaluate_unplaced p, ← evaluate_unspelled, hsame, evaluate_unspelled,
      evaluate_unplaced]

end Session
end Calculator
