/-
  Calculator.Proofs.Evaluation
  ────────────────────────────
  **HOW AN EVALUATION GOES.**

  A program is evaluated in two parts: first it asks for the values of its declared
  variables, and if it gets them all, its expression is evaluated over the values
  that there are then (`evaluate_of_askAll_ok`).  On a lawful runtime the first part
  can fail only for reasons that lie outside of the program, whatever is typed in,
  and on any runtime it gives values to just the declared variables.  In the second
  part an operator node has the first error of its operands, or what its operation
  makes of their values (`evaluate_binary_cases`).

  Main statements:
    * `isOutside_of_askAll`   — asking finds nothing wrong with a program;
    * `isSome_get?_of_askAll` — the variables that have values afterwards.
-/
import Calculator.Session

namespace Calculator

/-! ## §1. Operator nodes. -/

namespace Expr

variable {b : Bindings} {op : Operator} {opSpan span ifMissing : Span} {left right : Expr}
  {x y : Int32} {error : RuntimeError}

theorem evaluate_binary_of_left (h : left.evaluate b opSpan = .error error) :
    (binary op opSpan left right span).evaluate b ifMissing = .error error := by
  unfold evaluate
  rw [h]

theorem evaluate_binary_of_right (hl : left.evaluate b opSpan = .ok x)
    (hr : right.evaluate b opSpan = .error error) :
    (binary op opSpan left right span).evaluate b ifMissing = .error error := by
  unfold evaluate
  rw [hl, hr]

theorem evaluate_binary_of_operands (hl : left.evaluate b opSpan = .ok x)
    (hr : right.evaluate b opSpan = .ok y) :
    (binary op opSpan left right span).evaluate b ifMissing =
      (op.apply x y).mapError (.ofFault op span x y) := by
  rw [evaluate, hl, hr]

/-- What an operator node comes to: the error of its left operand, that of its right
one behind a value, or the result of its operation on two values. -/
theorem evaluate_binary_cases (b : Bindings) (op : Operator) (opSpan : Span) (left right : Expr)
    (span ifMissing : Span) :
    (∃ error, left.evaluate b opSpan = .error error ∧
        (binary op opSpan left right span).evaluate b ifMissing = .error error) ∨
      (∃ x error, left.evaluate b opSpan = .ok x ∧ right.evaluate b opSpan = .error error ∧
        (binary op opSpan left right span).evaluate b ifMissing = .error error) ∨
      ∃ x y, left.evaluate b opSpan = .ok x ∧ right.evaluate b opSpan = .ok y ∧
        (binary op opSpan left right span).evaluate b ifMissing =
          (op.apply x y).mapError (.ofFault op span x y) := by
  cases hl : left.evaluate b opSpan with
  | error error => exact .inl ⟨error, rfl, evaluate_binary_of_left hl⟩
  | ok x =>
    cases hr : right.evaluate b opSpan with
    | error error => exact .inr (.inl ⟨x, error, rfl, rfl, evaluate_binary_of_right hl hr⟩)
    | ok y => exact .inr (.inr ⟨x, y, rfl, rfl, evaluate_binary_of_operands hl hr⟩)

end Expr

/-! ## §2. Errors that lie in the program. -/

/-- Whether the error lies in the program, whatever is typed in and whatever comes out
of the arithmetic. -/
def RuntimeError.isStatic : RuntimeError → Bool
  | undefinedVariable _ _ => true
  | incomplete _ => true
  | invalidInput _ _ => false
  | console _ => false
  | divisionByZero _ => false
  | overflow _ _ _ _ => false

/-- No operation on two values goes wrong because of the program alone. -/
theorem isStatic_of_apply {op : Operator} {node : Span} {x y : Int32} {error : RuntimeError}
    (h : (op.apply x y).mapError (.ofFault op node x y) = .error error) :
    error.isStatic = false := by
  cases ha : op.apply x y with
  | ok v =>
    rw [ha] at h
    cases h
  | error fault =>
    rw [ha] at h
    cases h
    cases fault <;> rfl

/-- The error comes from outside of the program. -/
inductive RuntimeError.IsOutside : RuntimeError → Prop where
  /-- What is typed in is no value. -/
  | line (name input : String) : IsOutside (.invalidInput name input)
  /-- The console fails. -/
  | console (fault : ConsoleFault) : IsOutside (.console fault)

theorem RuntimeError.IsOutside.isStatic {error : RuntimeError} (h : error.IsOutside) :
    error.isStatic = false := by
  cases h with
  | line => rfl
  | console => rfl

/-- A line that holds no value says nothing about the program. -/
theorem isOutside_of_valueOfLine {name : String} {line : List UInt8} {error : RuntimeError}
    (h : valueOfLine name line = .error error) : error.IsOutside := by
  unfold valueOfLine at h
  split at h
  · cases h
    exact .console _
  · split at h
    · cases h
    · cases h
      exact .line name _

/-- Runtimes that find nothing wrong with programs: all that asking and telling fail for
comes from outside. -/
class LawfulRuntime (σ : Type) [Runtime σ] : Prop where
  isOutside_of_ask {name : String} {state after : σ} {error : RuntimeError} :
    Runtime.ask name state = (.error error, after) → error.IsOutside
  isOutside_of_tell {value : Int32} {state after : σ} {error : RuntimeError} :
    Runtime.tell value state = (.error error, after) → error.IsOutside

namespace Console

theorem isOutside_of_ask {name : String} {c d : Console} {error : RuntimeError}
    (h : c.ask name = (.error error, d)) : error.IsOutside := by
  unfold ask at h
  split at h
  · cases h
    exact .console _
  · split at h
    · cases h
      exact .console _
    · exact isOutside_of_valueOfLine (Prod.mk.inj h).1

theorem isOutside_of_tell {value : Int32} {c d : Console} {error : RuntimeError}
    (h : c.tell value = (.error error, d)) : error.IsOutside := by
  have he : (c.print (resultLine value)).1.mapError RuntimeError.console = .error error :=
    (Prod.mk.inj h).1
  cases hp : (c.print (resultLine value)).1 with
  | error fault =>
    rw [hp] at he
    cases he
    exact .console fault
  | ok u =>
    rw [hp] at he
    cases he

/-- Consoles are lawful, whatever is typed in. -/
instance : LawfulRuntime Console := ⟨isOutside_of_ask, isOutside_of_tell⟩

/-- So they are whatever becomes of the output in the meantime. -/
instance : LawfulRuntime Shaky where
  isOutside_of_ask h := isOutside_of_ask (Prod.ext (Prod.mk.inj h).1 rfl)
  isOutside_of_tell h := isOutside_of_tell (Prod.ext (Prod.mk.inj h).1 rfl)

end Console

/-! ## §3. Asking for all variables. -/

namespace Session

variable {σ : Type} [Runtime σ]

theorem askAll_of_ask_error {d : Declaration} {s : Session σ} {error : RuntimeError} {c : σ}
    (h : Runtime.ask d.name s.console = (.error error, c)) (later : List Declaration) :
    s.askAll (d :: later) = (.error error, { s with console := c }) := by
  rw [askAll, h]

theorem askAll_of_ask_ok {d : Declaration} {s : Session σ} {value : Int32} {c : σ}
    (h : Runtime.ask d.name s.console = (.ok value, c)) (later : List Declaration) :
    s.askAll (d :: later) = askAll later ⟨s.bindings.set d.name value, c⟩ := by
  rw [askAll, h]

/-- Asking finds nothing wrong with a program. -/
theorem isOutside_of_askAll [LawfulRuntime σ] {declared : List Declaration} {s t : Session σ}
    {error : RuntimeError} (h : s.askAll declared = (.error error, t)) : error.IsOutside := by
  induction declared generalizing s with
  | nil => cases h
  | cons d later ih =>
    unfold askAll at h
    split at h
    · next asked =>
      cases h
      exact LawfulRuntime.isOutside_of_ask asked
    · exact ih h

/-- Once all variables are asked for, those that had a value and those that were asked
for have one. -/
theorem isSome_get?_of_askAll {declared : List Declaration} {s t : Session σ}
    (h : s.askAll declared = (.ok (), t)) (name : String) :
    (t.bindings.get? name).isSome = true ↔
      name ∈ declared.map Declaration.name ∨ (s.bindings.get? name).isSome = true := by
  induction declared generalizing s with
  | nil =>
    cases h
    simp
  | cons d later ih =>
    unfold askAll at h
    split at h
    · cases h
    · rw [ih h, Bindings.get?_set, List.map_cons, List.mem_cons]
      by_cases hn : name = d.name
      · simp [hn]
      · simp [hn]

/-! ## §4. The two parts of an evaluation. -/

theorem evaluate_of_askAll_error {program : Program} {s t : Session σ} {error : RuntimeError}
    (h : s.askAll program.declared = (.error error, t)) :
    s.evaluate program = (.error error, t) := by
  unfold evaluate
  rw [h]

theorem evaluate_of_askAll_ok {program : Program} {s t : Session σ}
    (h : s.askAll program.declared = (.ok (), t)) :
    s.evaluate program = (program.body.evaluate t.bindings program.span, t) := by
  unfold evaluate
  rw [h]

/-- Asking for the variables fails, or it leaves a session to evaluate in. -/
theorem askAll_cases (declared : List Declaration) (s : Session σ) :
    (∃ error t, s.askAll declared = (.error error, t)) ∨
      ∃ t, s.askAll declared = (.ok (), t) := by
  rcases s.askAll declared with ⟨_ | _, t⟩
  · exact .inl ⟨_, t, rfl⟩
  · exact .inr ⟨t, rfl⟩

/-- The result of an evaluation: asking for the variables comes first, and the expression
is evaluated with what that leaves. -/
theorem fst_evaluate (program : Program) (s : Session σ) :
    (s.evaluate program).1 = (s.askAll program.declared).1.bind fun _ =>
      program.body.evaluate (s.askAll program.declared).2.bindings program.span := by
  rcases s.askAll_cases program.declared with ⟨error, t, h⟩ | ⟨t, h⟩
  · rw [evaluate_of_askAll_error h, h]
    rfl
  · rw [evaluate_of_askAll_ok h, h]
    rfl

/-- All that an evaluation does to a session is asking for the variables. -/
theorem snd_evaluate (program : Program) (s : Session σ) :
    (s.evaluate program).2 = (s.askAll program.declared).2 := by
  rcases s.askAll_cases program.declared with ⟨error, t, h⟩ | ⟨t, h⟩
  · rw [evaluate_of_askAll_error h, h]
  · rw [evaluate_of_askAll_ok h, h]

theorem run_of_evaluate_error {program : Program} {s t : Session σ} {error : RuntimeError}
    (h : s.evaluate program = (.error error, t)) : s.run program = (.error error, t) := by
  unfold run
  rw [h]

theorem run_of_evaluate_ok {program : Program} {s t : Session σ} {value : Int32}
    (h : s.evaluate program = (.ok value, t)) :
    s.run program = ((Runtime.tell value t.console).1.map fun _ => value,
      { t with console := (Runtime.tell value t.console).2 }) := by
  unfold run
  rw [h]
  dsimp only
  rcases Runtime.tell value t.console with ⟨_ | _, console⟩
  · rfl
  · rfl

/-- A run that fails has an evaluation that fails, or its result cannot be told. -/
theorem evaluate_eq_error_of_run [LawfulRuntime σ] {program : Program} {s : Session σ}
    {error : RuntimeError} (h : (s.run program).1 = .error error) :
    (s.evaluate program).1 = .error error ∨ error.IsOutside := by
  unfold run at h
  split at h
  · next evaluated =>
    rw [evaluated]
    exact .inl h
  · split at h
    · next told =>
      cases h
      exact .inr (LawfulRuntime.isOutside_of_tell told)
    · cases h

end Session
end Calculator
