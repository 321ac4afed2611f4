/-
  Calculator.Program.Prepare
  ──────────────────────────
  **FROM SOURCE TEXT TO PROGRAMS THAT CAN RUN.**

  A source is read and then checked.  Only a program without a syntax error is
  checked, and only one without a problem is ready to run.

  Main statement: what is ready has been read without an error and has no problem
  (`prepare_eq_ready_iff`).
-/
import Calculator.Program.Check
import Calculator.Program.Parse

namespace Calculator

/-- How far a source gets on the way to a program that can run. -/
inductive Prepared where
  /-- It has syntax errors. -/
  | malformed (errors : List SyntaxError)
  /-- It is a program with problems. -/
  | unfit (problems : List SemanticError)
  /-- It is a program that can run. -/
  | ready (program : Program)
  deriving DecidableEq, Repr

/-- Checks a program that has been read without an error. -/
def Program.prepare (program : Program) : Prepared :=
  match program.problems with
  | [] => .ready program
  | problems => .unfit problems

/-- Reads and checks a source. -/
def prepare (source : String) : Prepared :=
  let p := parse source
  match p.program, p.errors with
  | some program, [] => program.prepare
  | _, errors => .malformed errors

theorem Program.prepare_eq_ready_iff {p q : Program} :
    p.prepare = .ready q ↔ p.problems = [] ∧ p = q := by
  unfold prepare
  cases h : p.problems <;> simp

theorem prepare_eq_ready_iff {source : String} {program : Program} :
    prepare source = .ready program ↔
      (parse source).program = some program ∧ (parse source).errors = [] ∧
        program.problems = [] := by
  unfold prepare
  dsimp only
  split
  · next p hp he =>
    rw [Program.prepare_eq_ready_iff, hp, he]
    constructor
    · rintro ⟨h, rfl⟩; exact ⟨rfl, rfl, h⟩
    · rintro ⟨h, -, hq⟩; cases h; exact ⟨hq, rfl⟩
  · next h =>
    constructor
    · exact fun h => absurd h (by simp)
    · rintro ⟨hp, he, -⟩; exact absurd he (h program hp)

end Calculator
