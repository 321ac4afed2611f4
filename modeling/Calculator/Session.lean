/-
  Calculator.Session
  ──────────────────
  **RUNNING PROGRAMS.**

  A session is a runtime, such as a console, and the values that variables have got on
  it.  A program first asks for the values of its declared variables in order, and each
  of them is kept at once, whatever happens later; then its expression is evaluated.
  Running a program also tells the result.
-/
import Calculator.Console
import Calculator.Expr.Evaluate
import Calculator.Program

namespace Calculator

/-- The state that programs run in. -/
structure Session (σ : Type) where
  bindings : Bindings
  /-- The console, or what stands for it. -/
  console : σ
  deriving DecidableEq, Repr, Inhabited

namespace Session

variable {σ : Type} [Runtime σ]

/-- A session in which no variable has a value. -/
def ofConsole (console : σ) : Session σ := ⟨.empty, console⟩

/-- Asks for the values of variables, in order, up to the first failure. -/
def askAll : List Declaration → Session σ → Except RuntimeError Unit × Session σ
  | [], s => (.ok (), s)
  | d :: later, s =>
    match Runtime.ask d.name s.console with
    | (.error e, console) => (.error e, { s with console })
    -- the value stays, even if a later variable gets none
    | (.ok value, console) => askAll later ⟨s.bindings.set d.name value, console⟩

/-- The value of a program. -/
def evaluate (program : Program) (s : Session σ) : Except RuntimeError Int32 × Session σ :=
  match s.askAll program.declared with
  | (.error e, s) => (.error e, s)
  | (.ok (), s) => (program.body.evaluate s.bindings program.span, s)

/-- The value of a program, which is also told. -/
def run (program : Program) (s : Session σ) : Except RuntimeError Int32 × Session σ :=
  match s.evaluate program with
  | (.error e, s) => (.error e, s)
  | (.ok value, s) =>
    match Runtime.tell value s.console with
    | (.error e, console) => (.error e, { s with console })
    | (.ok (), console) => (.ok value, { s with console })

/-- One use of a session. -/
inductive Call where
  /-- Running a program. -/
  | run (program : Program)
  /-- Evaluating a program. -/
  | evaluate (program : Program)
  deriving DecidableEq, Repr

/-- Uses the session once. -/
def call (c : Call) (s : Session σ) : Except RuntimeError Int32 × Session σ :=
  match c with
  | .run program => s.run program
  | .evaluate program => s.evaluate program

/-- Uses the session again and again: each result, and the session after it. -/
def callAll : List Call → Session σ → List (Except RuntimeError Int32 × Session σ)
  | [], _ => []
  | c :: later, s => s.call c :: callAll later (s.call c).2

theorem length_unread_askAll_le (declared : List Declaration) (s : Session Console) :
    (s.askAll declared).2.console.unread.length ≤ s.console.unread.length := by
  fun_induction askAll declared s with
  | case1 => exact Nat.le_refl _
  | case2 d later s e console h =>
    have := s.console.length_unread_ask_le d.name
    rwa [← Console.runtime_ask, h] at this
  | case3 d later s value console h ih =>
    have := s.console.length_unread_ask_le d.name
    rw [← Console.runtime_ask, h] at this
    exact Nat.le_trans ih this

theorem length_unread_evaluate_le (program : Program) (s : Session Console) :
    (s.evaluate program).2.console.unread.length ≤ s.console.unread.length := by
  have h := length_unread_askAll_le program.declared s
  unfold evaluate
  split
  · next heq => rwa [heq] at h
  · next heq => rwa [heq] at h

/-- A run leaves no more input than it found. -/
theorem length_unread_run_le (program : Program) (s : Session Console) :
    (s.run program).2.console.unread.length ≤ s.console.unread.length := by
  have h := length_unread_evaluate_le program s
  unfold run
  split
  · next heq => rwa [heq] at h
  · next value t heq =>
    rw [heq] at h
    have ht := Console.unread_tell value t.console
    rw [← Console.runtime_tell] at ht
    split
    · next hc => rw [hc] at ht; rw [ht]; exact h
    · next hc => rw [hc] at ht; rw [ht]; exact h

end Session
end Calculator
