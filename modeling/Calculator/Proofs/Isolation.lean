/-
  Calculator.Proofs.Isolation
  ───────────────────────────
  **A CHECKED PROGRAM DOES NOT DEPEND ON EARLIER VALUES.**

  A session keeps the values that variables got from earlier programs.  A program in which
  nothing is wrong but repeated declarations never sees them: it asks for every variable
  that it uses, and it does so first.

  Two runs are compared that start with the same console, or on the same state of any other
  runtime, and with any values.  Asking for the declared variables comes to the same in both,
  and then the two agree on those variables, whatever else they remember
  (`Session.askAll_agree`).  An expression looks at the variables that it uses and at nothing
  else (`Expr.evaluate_congr`), and these are declared (`Program.mem_declared_of_mem_usedNames`).

  Main statements:
    * `checked_program_ignores_bindings` — two runs that start with the same console;
    * `Session.map_seen_callAll`         — two whole sessions that do.
-/
import Calculator.Proofs.Agreement
import Calculator.Proofs.Asking
import Calculator.Proofs.Shape

namespace Calculator

/-! ## §1. Expressions look at the variables that they use. -/

namespace Expr

theorem evaluate_congr {b b' : Bindings} {e : Expr}
    (h : ∀ name ∈ e.usedNames, b.get? name = b'.get? name) (ifMissing : Span) :
    e.evaluate b ifMissing = e.evaluate b' ifMissing := by
  induction e generalizing ifMissing with
  | missing => rfl
  | literal => rfl
  | reference name span =>
    unfold evaluate
    rw [h name (List.mem_singleton_self name)]
  | binary op opSpan left right span ihl ihr =>
    obtain ⟨hl, hr⟩ := List.forall_mem_append.1 h
    unfold evaluate
    rw [ihl hl, ihr hr]

/-- Where an expression has no problems, all names that it uses may be used. -/
theorem mem_of_problems_eq_nil {names : List String} {problem : SemanticError} {e : Expr}
    (h : e.problems names problem = []) : ∀ name ∈ e.usedNames, name ∈ names := by
  induction e generalizing problem with
  | missing => cases h
  | literal =>
    intro name hname
    cases hname
  | reference used span =>
    unfold problems at h
    split at h
    · next hmem =>
      intro name hname
      rwa [List.mem_singleton.1 hname]
    · cases h
  | binary op opSpan left right span ihl ihr =>
    obtain ⟨hl, hr⟩ := List.append_eq_nil_iff.1 h
    exact List.forall_mem_append.2 ⟨ihl hl, ihr hr⟩

end Expr

/-- Where nothing is wrong but repeated declarations, every variable that is used is
declared. -/
theorem Program.mem_declared_of_mem_usedNames {p : Program}
    (checked : ∀ problem ∈ p.problems, problem.isRepetition = true) :
    ∀ name ∈ p.body.usedNames, name ∈ p.declared.map Declaration.name := by
  -- a problem of the expression would be no repeated declaration
  have hbody : p.body.problems (p.declared.map Declaration.name) p.ifMissing = [] := by
    rw [List.eq_nil_iff_forall_not_mem]
    intro problem hproblem
    have hno := Expr.isRepetition_of_mem_problems p.isRepetition_ifMissing hproblem
    have hyes : problem.isRepetition = true := by
      apply checked
      rw [p.problems_eq]
      exact List.mem_append_right _ hproblem
    rw [hyes] at hno
    cases hno
  exact Expr.mem_of_problems_eq_nil hbody

/-! ## §2. Two sessions with the same console. -/

namespace Session

variable {σ : Type} [Runtime σ] {s t : Session σ}

/-- Asking comes to the same with any values, and if it gives a value to each of the
variables, these values are the same. -/
theorem askAll_agree (declared : List Declaration) (h : s.console = t.console) :
    (s.askAll declared).1 = (t.askAll declared).1 ∧
      (s.askAll declared).2.console = (t.askAll declared).2.console ∧
      ((s.askAll declared).1 = .ok () → ∀ name ∈ declared.map Declaration.name,
        (s.askAll declared).2.bindings.get? name = (t.askAll declared).2.bindings.get? name) := by
  have hanswers := congrArg (Runtime.answers (declared.map Declaration.name)) h
  rw [askAll_eq declared s, askAll_eq declared t, ← hanswers, ← h]
  refine ⟨rfl, rfl, ?_⟩
  intro hok name hname
  have hasked : s.askAll declared = (.ok (), (s.askAll declared).2) := by
    rw [askAll_eq]
    exact Prod.ext hok rfl
  obtain ⟨value, hvalue⟩ := exists_latest?_of_askAll hasked hname
  show (s.bindings.keep _).get? name = (t.bindings.keep _).get? name
  rw [Bindings.get?_keep, Bindings.get?_keep, hvalue]
  rfl

/-- What is seen of a use of a session: its result, and the console after it. -/
def seen {σ : Type} (r : Except RuntimeError Int32 × Session σ) : Except RuntimeError Int32 × σ :=
  (r.1, r.2.console)

@[simp] theorem fst_seen {σ : Type} (r : Except RuntimeError Int32 × Session σ) :
    (seen r).1 = r.1 := rfl

theorem seen_evaluate_eq {p : Program}
    (checked : ∀ problem ∈ p.problems, problem.isRepetition = true)
    (h : s.console = t.console) : seen (s.evaluate p) = seen (t.evaluate p) := by
  obtain ⟨hresult, hconsole, hvalues⟩ := askAll_agree p.declared h
  refine Prod.ext ?result ?console
  case result =>
    show (s.evaluate p).1 = (t.evaluate p).1
    rw [fst_evaluate, fst_evaluate, ← hresult]
    cases hasked : (s.askAll p.declared).1 with
    | error error => rfl
    | ok _ =>
      refine Expr.evaluate_congr ?_ p.span
      intro name hname
      exact hvalues hasked name (Program.mem_declared_of_mem_usedNames checked name hname)
  case console =>
    show (s.evaluate p).2.console = (t.evaluate p).2.console
    rw [snd_evaluate, snd_evaluate, hconsole]

/-- What is seen when the result, if there is one, is told behind what was seen before. -/
def told : Except RuntimeError Int32 × σ → Except RuntimeError Int32 × σ
  | (.error error, c) => (.error error, c)
  | (.ok value, c) => ((Runtime.tell value c).1.map fun _ => value, (Runtime.tell value c).2)

/-- What is seen of a run depends on what is seen of the evaluation alone. -/
theorem seen_run (p : Program) (s : Session σ) : seen (s.run p) = told (seen (s.evaluate p)) := by
  rcases h : s.evaluate p with ⟨error | value, t⟩
  · rw [run_of_evaluate_error h]
    rfl
  · rw [run_of_evaluate_ok h]
    rfl

end Session

/-! ## §3. Checked programs. -/

/-- A check finds nothing wrong with the program but repeated declarations. -/
def Program.IsChecked (p : Program) : Prop :=
  ∀ problem ∈ check (some p), problem.isRepetition = true

/-- A whole session of checked programs has the same results and leaves the same consoles,
whatever values its variables had at the start. -/
theorem Session.map_seen_callAll {σ : Type} [Runtime σ] {calls : List Call} {s t : Session σ}
    (checked : ∀ call ∈ calls, call.program.IsChecked) (h : s.console = t.console) :
    (s.callAll calls).map seen = (t.callAll calls).map seen := by
  induction calls generalizing s t with
  | nil => rfl
  | cons call later ih =>
    obtain ⟨hcall, hlater⟩ := List.forall_mem_cons.1 checked
    have hevaluate : seen (s.evaluate call.program) = seen (t.evaluate call.program) :=
      seen_evaluate_eq hcall h
    have hsame : seen (s.call call) = seen (t.call call) := by
      cases call with
      | run p => exact (seen_run p s).trans ((congrArg told hevaluate).trans (seen_run p t).symm)
      | evaluate p => exact hevaluate
    -- the next call starts with the same console again
    have hnext := ih hlater (Prod.mk.inj hsame).2
    rw [callAll, callAll, List.map_cons, List.map_cons, hsame, hnext]

/-- **A CHECKED PROGRAM DOES NOT DEPEND ON EARLIER VALUES.**  Let a check find nothing wrong
with a program but repeated declarations.  On sessions with the same console, whatever
values their variables have, a run of it has the same result, a value or an error, and
leaves the same console, with the same output and the same input unread; and so has an
evaluation of it.  Any other runtime may stand for the console. -/
theorem checked_program_ignores_bindings {σ : Type} [Runtime σ] {p : Program}
    (checked : p.IsChecked) (b b' : Bindings) (console : σ) :
    Session.seen (Session.run p ⟨b, console⟩) = Session.seen (Session.run p ⟨b', console⟩) ∧
      Session.seen (Session.evaluate p ⟨b, console⟩) =
        Session.seen (Session.evaluate p ⟨b', console⟩) := by
  have hevaluate : Session.seen (Session.evaluate p ⟨b, console⟩) =
      Session.seen (Session.evaluate p ⟨b', console⟩) := Session.seen_evaluate_eq checked rfl
  refine ⟨?_, hevaluate⟩
  rw [Session.seen_run, Session.seen_run, hevaluate]

/-- In `with a, a: a * a - a` the second line `7` counts; what `a` was before, if anything,
does not. -/
theorem checked_program_ignores_bindings_repeated :
    ∃ (p : Program) (b b' : Bindings) (console : Console),
      p.render = "(with (a a) (- (* a a) a))" ∧ p.problems ≠ [] ∧ p.IsChecked ∧
        b.get? "a" = some 100 ∧ b'.get? "a" = none ∧
        (Session.run p ⟨b', console⟩).1 = .ok 42 ∧ (Session.run p ⟨b, console⟩).1 = .ok 42 := by
  let p : Program := .declaring ⟨0, 4⟩ [⟨"a", ⟨5, 1⟩⟩, ⟨"a", ⟨8, 1⟩⟩]
    (.binary .sub ⟨17, 1⟩
      (.binary .mul ⟨13, 1⟩ (.reference "a" ⟨11, 1⟩) (.reference "a" ⟨15, 1⟩) ⟨11, 5⟩)
      (.reference "a" ⟨19, 1⟩) ⟨11, 9⟩)
  have hchecked : p.IsChecked := List.forall_mem_singleton.2 rfl
  have hrun : (Session.run p ⟨.empty, Console.ofInput [51, 10, 55, 10]⟩).1 = .ok 42 := rfl
  have hsame := (checked_program_ignores_bindings hchecked (Bindings.empty.set "a" 100)
    Bindings.empty (Console.ofInput [51, 10, 55, 10])).1
  refine ⟨p, Bindings.empty.set "a" 100, Bindings.empty, .ofInput [51, 10, 55, 10],
    by decide +kernel, by decide, hchecked, by decide, rfl, hrun, ?_⟩
  rw [← Session.fst_seen, hsame, Session.fst_seen, hrun]

end Calculator
