/-
  Calculator.Proofs.Agreement
  ───────────────────────────
  **CHECKING AND EVALUATING FIND THE SAME THINGS WRONG.**

  A check tells all the problems of a program, an evaluation stops at its first
  error.  Both go through the expression in the same order, so an error that lies in
  the program is the first problem that a check tells besides repeated declarations,
  and a program that has a value has no other problems.

  Over an expression this is an induction in which the names that may be used are
  just the variables that have values: the first error is then foretold by the first
  problem (`Expr.exists_foretells`).  If other variables have values too, only one
  half is left: without problems there is no such error
  (`Expr.isStatic_of_problems_eq_nil`).

  Main statement: `problems_agree_with_evaluate`.
-/
import Calculator.Program.Check
import Calculator.Proofs.Evaluation

namespace Calculator

/-! ## §1. Problems that foretell errors. -/

namespace SemanticError

/-- Whether the problem is a name that is declared again, which keeps no program from
having a value. -/
def isRepetition : SemanticError → Bool
  | alreadyDeclared _ _ _ => true
  | notDeclared _ _ => false
  | missingOperand _ _ => false
  | missingBody _ => false
  | missingProgram => false

/-- The problem and the error are about the same name or the same hole, at the same
place. -/
inductive Foretells : SemanticError → RuntimeError → Prop where
  | undeclared (name : String) (use : Span) :
      Foretells (.notDeclared name use) (.undefinedVariable name use)
  | operand (op : Operator) (opSpan : Span) :
      Foretells (.missingOperand op opSpan) (.incomplete opSpan)
  | body (declaration : Span) : Foretells (.missingBody declaration) (.incomplete declaration)

end SemanticError

/-! ## §2. Expressions. -/

namespace Expr

variable {names : List String} {b : Bindings} {e : Expr} {problem : SemanticError}
  {ifMissing : Span}

/-- Where an expression has a value, all its variables may be used and nothing is
missing. -/
theorem problems_eq_nil_of_evaluate {v : Int32}
    (hn : ∀ name, (b.get? name).isSome = true → name ∈ names)
    (h : e.evaluate b ifMissing = .ok v) : e.problems names problem = [] := by
  induction e generalizing problem ifMissing v with
  | missing => cases h
  | literal => rfl
  | reference name span =>
    unfold evaluate at h
    split at h
    · next bound =>
      have hmem : name ∈ names := by
        apply hn
        rw [bound]
        rfl
      unfold problems
      rw [if_pos hmem]
    · cases h
  | binary op opSpan left right span ihl ihr =>
    rcases evaluate_binary_cases b op opSpan left right span ifMissing with
      ⟨error, -, he⟩ | ⟨x, error, -, -, he⟩ | ⟨x, y, hl, hr, -⟩
    · rw [he] at h
      cases h
    · rw [he] at h
      cases h
    · unfold problems
      rw [ihl hl, ihr hr]
      rfl

/-- If the names that may be used are the variables that have values, the first problem
foretells an error that lies in the program. -/
theorem exists_foretells {error : RuntimeError}
    (hn : ∀ name, name ∈ names ↔ (b.get? name).isSome = true)
    (hm : e = missing → problem.Foretells (.incomplete ifMissing))
    (h : e.evaluate b ifMissing = .error error) (hs : error.isStatic = true) :
    ∃ first, (e.problems names problem).head? = some first ∧ first.Foretells error := by
  induction e generalizing problem ifMissing with
  | missing =>
    cases h
    exact ⟨problem, rfl, hm rfl⟩
  | literal => cases h
  | reference name span =>
    unfold evaluate at h
    split at h
    · cases h
    · next unbound =>
      cases h
      have hmem : name ∉ names := by
        rw [hn, unbound]
        exact Bool.false_ne_true
      unfold problems
      rw [if_neg hmem]
      exact ⟨_, rfl, .undeclared name span⟩
  | binary op opSpan left right span ihl ihr =>
    unfold problems
    rw [List.head?_append]
    rcases evaluate_binary_cases b op opSpan left right span ifMissing with
      ⟨err, hl, he⟩ | ⟨x, err, hl, hr, he⟩ | ⟨x, y, -, -, he⟩
    · cases he.symm.trans h
      obtain ⟨first, hfirst, hfor⟩ := ihl (fun _ => .operand op opSpan) hl
      rw [hfirst]
      exact ⟨first, rfl, hfor⟩
    · -- the left operand has a value, so the problems start in the right one
      cases he.symm.trans h
      rw [problems_eq_nil_of_evaluate (fun name => (hn name).2) hl]
      exact ihr (fun _ => .operand op opSpan) hr
    · rw [isStatic_of_apply (he.symm.trans h)] at hs
      cases hs

/-- Without problems no error lies in the program, even if more variables have values
than may be used. -/
theorem isStatic_of_problems_eq_nil {error : RuntimeError}
    (hn : ∀ name ∈ names, (b.get? name).isSome = true)
    (hp : e.problems names problem = []) (h : e.evaluate b ifMissing = .error error) :
    error.isStatic = false := by
  induction e generalizing problem ifMissing with
  | missing => cases hp
  | literal => cases h
  | reference name span =>
    unfold problems at hp
    split at hp
    · next hmem =>
      obtain ⟨v, bound⟩ := Option.isSome_iff_exists.1 (hn name hmem)
      unfold evaluate at h
      rw [bound] at h
      cases h
    · cases hp
  | binary op opSpan left right span ihl ihr =>
    unfold problems at hp
    obtain ⟨hpl, hpr⟩ := List.append_eq_nil_iff.1 hp
    rcases evaluate_binary_cases b op opSpan left right span ifMissing with
      ⟨err, hl, he⟩ | ⟨x, err, -, hr, he⟩ | ⟨x, y, -, -, he⟩
    · cases he.symm.trans h
      exact ihl hpl hl
    · cases he.symm.trans h
      exact ihr hpr hr
    · exact isStatic_of_apply (he.symm.trans h)

/-- The problems of an expression are no repeated declarations. -/
theorem isRepetition_of_mem_problems {q : SemanticError} (hm : problem.isRepetition = false)
    (h : q ∈ e.problems names problem) : q.isRepetition = false := by
  induction e generalizing problem with
  | missing => rw [List.mem_singleton.1 h, hm]
  | literal => cases h
  | reference name span =>
    unfold problems at h
    split at h
    · cases h
    · rw [List.mem_singleton.1 h]
      rfl
  | binary op opSpan left right span ihl ihr =>
    rcases List.mem_append.1 h with h | h
    · exact ihl rfl h
    · exact ihr rfl h

end Expr

/-! ## §3. Programs. -/

theorem isRepetition_of_mem_repeatedNames {firsts declared : List Declaration}
    {q : SemanticError} (h : q ∈ repeatedNames firsts declared) : q.isRepetition = true := by
  induction declared generalizing firsts with
  | nil => cases h
  | cons d later ih =>
    unfold repeatedNames at h
    split at h
    · rcases List.mem_cons.1 h with rfl | h
      · rfl
      · exact ih h
    · exact ih h

namespace Program

/-- The problem of a program without an expression. -/
def ifMissing : Program → SemanticError
  | bare _ _ => .missingProgram
  | declaring withSpan declared body => .missingBody (declarationSpan withSpan declared body)

theorem problems_eq (p : Program) :
    p.problems = repeatedNames [] p.declared ++
      p.body.problems (p.declared.map Declaration.name) p.ifMissing := by
  cases p <;> rfl

theorem isRepetition_ifMissing (p : Program) : p.ifMissing.isRepetition = false := by
  cases p <;> rfl

/-- Only a declaration can be without an expression, and both the check and the
evaluation point at the whole of it. -/
theorem foretells_ifMissing {p : Program} (h : p.body = .missing) :
    p.ifMissing.Foretells (.incomplete p.span) := by
  cases p with
  | bare body present => exact absurd h present
  | declaring withSpan declared body => exact .body _

/-- The first problem besides repeated declarations is the first one of the
expression. -/
theorem find?_problems (p : Program) :
    p.problems.find? (fun q => !q.isRepetition) =
      (p.body.problems (p.declared.map Declaration.name) p.ifMissing).head? := by
  have hrepeated : (repeatedNames [] p.declared).find? (fun q => !q.isRepetition) = none := by
    rw [List.find?_eq_none]
    intro q hq
    simp [isRepetition_of_mem_repeatedNames hq]
  have hbody : ∀ q ∈ p.body.problems (p.declared.map Declaration.name) p.ifMissing,
      q.isRepetition = false := by
    intro q hq
    exact Expr.isRepetition_of_mem_problems p.isRepetition_ifMissing hq
  rw [problems_eq, List.find?_append, hrepeated, Option.none_or]
  cases hp : p.body.problems (p.declared.map Declaration.name) p.ifMissing with
  | nil => rfl
  | cons first problems =>
    rw [hp] at hbody
    rw [List.find?_cons_of_pos (by simp [hbody first (List.mem_cons_self ..)])]
    rfl

/-! ## §4. Checking and evaluating. -/

variable {σ : Type} [Runtime σ]

/-- A program without problems fails only for reasons that lie outside of it, whatever
values variables have had before. -/
theorem isStatic_of_problems_eq_nil [LawfulRuntime σ] {p : Program} {s : Session σ}
    {error : RuntimeError} (hp : p.problems = []) (h : (s.evaluate p).1 = .error error) :
    error.isStatic = false := by
  rw [problems_eq] at hp
  rcases s.askAll_cases p.declared with ⟨err, t, asked⟩ | ⟨t, asked⟩
  · rw [Session.evaluate_of_askAll_error asked] at h
    cases h
    exact (Session.isOutside_of_askAll asked).isStatic
  · rw [Session.evaluate_of_askAll_ok asked] at h
    -- more names may have values than the declared ones
    have hn : ∀ name ∈ p.declared.map Declaration.name,
        (t.bindings.get? name).isSome = true := by
      intro name hname
      exact (Session.isSome_get?_of_askAll asked name).2 (.inl hname)
    exact Expr.isStatic_of_problems_eq_nil hn (List.append_eq_nil_iff.1 hp).2 h

/-- After a program has got its values in a fresh session, the variables that have
values are the declared ones. -/
theorem mem_declared_iff {p : Program} {c : σ} {t : Session σ}
    (h : (Session.ofConsole c).askAll p.declared = (.ok (), t)) (name : String) :
    name ∈ p.declared.map Declaration.name ↔ (t.bindings.get? name).isSome = true := by
  rw [Session.isSome_get?_of_askAll h name]
  show _ ↔ _ ∨ (none : Option Int32).isSome = true
  simp

end Program

/-- **CHECKING AND EVALUATING AGREE.**  Where no variable has had a value before, an
error of an evaluation that lies in the program is foretold by the first problem
besides repeated declarations, and a program that has a value has no other problems.
So a program without problems fails only for reasons that lie outside of it, whatever
values variables have had before.  This holds on every console, and on any other
runtime that is lawful. -/
theorem problems_agree_with_evaluate {σ : Type} [Runtime σ] [LawfulRuntime σ] (p : Program)
    (c : σ) :
    (∀ error, ((Session.ofConsole c).evaluate p).1 = .error error → error.isStatic = true →
        ∃ problem, p.problems.find? (fun q => !q.isRepetition) = some problem ∧
          problem.Foretells error) ∧
      (∀ value, ((Session.ofConsole c).evaluate p).1 = .ok value →
        ∀ problem ∈ p.problems, problem.isRepetition = true) ∧
      (p.problems = [] → ∀ (s : Session σ) (error : RuntimeError),
        (s.evaluate p).1 = .error error ∨ (s.run p).1 = .error error →
          error.isStatic = false) := by
  refine ⟨?_, ?_, ?_⟩
  · intro error h hs
    rw [p.find?_problems]
    rcases (Session.ofConsole c).askAll_cases p.declared with ⟨err, t, asked⟩ | ⟨t, asked⟩
    · -- asking comes first, but it finds nothing wrong with the program
      rw [Session.evaluate_of_askAll_error asked] at h
      cases h
      rw [(Session.isOutside_of_askAll asked).isStatic] at hs
      cases hs
    · rw [Session.evaluate_of_askAll_ok asked] at h
      exact Expr.exists_foretells (Program.mem_declared_iff asked)
        Program.foretells_ifMissing h hs
  · intro value h problem hproblem
    rcases (Session.ofConsole c).askAll_cases p.declared with ⟨err, t, asked⟩ | ⟨t, asked⟩
    · rw [Session.evaluate_of_askAll_error asked] at h
      cases h
    · rw [Session.evaluate_of_askAll_ok asked] at h
      have hbody : p.body.problems (p.declared.map Declaration.name) p.ifMissing = [] :=
        Expr.problems_eq_nil_of_evaluate
          (fun name => (Program.mem_declared_iff asked name).2) h
      rw [p.problems_eq, hbody, List.append_nil] at hproblem
      exact isRepetition_of_mem_repeatedNames hproblem
  · intro hp s error h
    rcases h with h | h
    · exact Program.isStatic_of_problems_eq_nil hp h
    · rcases Session.evaluate_eq_error_of_run h with h | h
      · exact Program.isStatic_of_problems_eq_nil hp h
      · exact h.isStatic

/-- Of `with a, a: b /` the repeated name hinders nothing, and the unknown name comes before
the missing operand. -/
theorem problems_agree_with_evaluate_unknown :
    ∃ (p : Program) (c : Console), p.render = "(with (a a) (/ b <error>))" ∧
      ((Session.ofConsole c).evaluate p).1 = .error (.undefinedVariable "b" ⟨11, 1⟩) ∧
      ∃ problem, p.problems.find? (fun q => !q.isRepetition) = some problem ∧
        problem.Foretells (.undefinedVariable "b" ⟨11, 1⟩) := by
  refine ⟨.declaring ⟨0, 4⟩ [⟨"a", ⟨5, 1⟩⟩, ⟨"a", ⟨8, 1⟩⟩]
      (.binary .div ⟨13, 1⟩ (.reference "b" ⟨11, 1⟩) .missing ⟨11, 3⟩),
    .ofInput [49, 10, 50, 10], by decide +kernel, rfl, ?_⟩
  exact (problems_agree_with_evaluate _ (Console.ofInput [49, 10, 50, 10])).1 _ rfl rfl

end Calculator
