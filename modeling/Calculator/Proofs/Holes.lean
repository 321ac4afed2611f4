/-
  Calculator.Proofs.Holes
  ───────────────────────
  **ERRORS AND HOLES ACCOUNT FOR EACH OTHER.**

  Reading never stops at an error, so what it makes of a faulty source has holes.  An
  error need not leave a hole of its own: an operand may be lost with all the holes in
  it.  But it never leaves none, since what takes the operand's place is a hole again.

  Over the rules of reading this is one invariant (`Reads.holes_bounds`): with n errors
  an expression gets at most n holes, and at least one if n is not 0.  What a whole
  source comes to is then one of two things (`parse_outcome`): a declaration that is
  given up for its one error, or an expression that keeps the invariant, with the
  tokens left behind it as the last error.

  Main statement: `errors_account_for_holes`.
-/
import Calculator.Program.Check
import Calculator.Proofs.Reading.Program
import Calculator.Proofs.Shape

namespace Calculator

/-! ## §1. The holes of a program. -/

/-- A place where a program lacks an expression. -/
inductive Hole where
  /-- The operator `op` at `opSpan` lacks an operand. -/
  | operand (op : Operator) (opSpan : Span)
  /-- The declaration at `declaration` has nothing behind it. -/
  | body (declaration : Span)
  deriving DecidableEq, Repr, Inhabited

/-- The holes of an expression from left to right; `whole` is the one that it is
itself, if it is missing. -/
def Expr.gaps (whole : Hole) : Expr → List Hole
  | missing => [whole]
  | literal _ _ _ => []
  | reference _ _ => []
  | binary op opSpan left right _ =>
    left.gaps (.operand op opSpan) ++ right.gaps (.operand op opSpan)

/-- The holes of a program from left to right. -/
def Program.gaps (p : Program) : List Hole := p.body.gaps (.body p.span)

/-- The hole that a problem tells of. -/
def SemanticError.hole? : SemanticError → Option Hole
  | missingOperand op opSpan => some (.operand op opSpan)
  | missingBody declaration => some (.body declaration)
  | alreadyDeclared _ _ _ => none
  | notDeclared _ _ => none
  | missingProgram => none

theorem Expr.length_gaps (e : Expr) (whole : Hole) : (e.gaps whole).length = e.holes := by
  induction e generalizing whole with
  | missing => rfl
  | literal => rfl
  | reference => rfl
  | binary op opSpan left right span ihl ihr =>
    rw [gaps, List.length_append, ihl, ihr, holes]

@[simp] theorem Expr.holes_ofOperands (op : Operator) (opSpan : Span) (left right : Expr) :
    (ofOperands op opSpan left right).holes = left.holes + right.holes := rfl

/-- Parentheses neither leave a hole nor fill one. -/
@[simp] theorem Expr.holes_parenthesized (parens : Span) (e : Expr) :
    (e.parenthesized parens).holes = e.holes := by
  cases e <;> rfl

/-! ## §2. What the check tells of holes. -/

/-- The check of an expression tells of each of its holes once, in order; of the whole
being missing it tells by `ifMissing`. -/
theorem Expr.filterMap_problems (e : Expr) (names : List String) {ifMissing : SemanticError}
    {whole : Hole} (h : e = missing → ifMissing.hole? = some whole) :
    (e.problems names ifMissing).filterMap SemanticError.hole? = e.gaps whole := by
  induction e generalizing ifMissing whole with
  | missing =>
    show [ifMissing].filterMap SemanticError.hole? = [whole]
    rw [List.filterMap_cons_some (h rfl)]
    rfl
  | literal => rfl
  | reference name span =>
    unfold problems
    split
    · rfl
    · rfl
  | binary op opSpan left right span ihl ihr =>
    unfold problems gaps
    rw [List.filterMap_append, ihl (fun _ => rfl), ihr (fun _ => rfl)]

/-- Repeated declarations are no holes. -/
theorem filterMap_repeatedNames (firsts declared : List Declaration) :
    (repeatedNames firsts declared).filterMap SemanticError.hole? = [] := by
  induction declared generalizing firsts with
  | nil => rfl
  | cons d later ih =>
    unfold repeatedNames
    split
    · exact ih firsts
    · exact ih (d :: firsts)

/-- The check of a program tells of each of its holes once, in order. -/
theorem Program.filterMap_problems (p : Program) :
    p.problems.filterMap SemanticError.hole? = p.gaps := by
  cases p with
  | bare body present =>
    exact body.filterMap_problems [] (fun h => absurd h present)
  | declaring withSpan declared body =>
    unfold problems
    rw [List.filterMap_append, filterMap_repeatedNames, List.nil_append]
    exact body.filterMap_problems _ (fun _ => rfl)

/-- Only the whole of an expression can be a missing program. -/
theorem Expr.missingProgram_notMem_problems (e : Expr) (names : List String)
    {ifMissing : SemanticError} (h : e = missing → ifMissing ≠ .missingProgram) :
    .missingProgram ∉ e.problems names ifMissing := by
  induction e generalizing ifMissing with
  | missing =>
    intro hm
    exact h rfl (List.mem_singleton.1 hm).symm
  | literal => exact List.not_mem_nil
  | reference name span =>
    unfold problems
    split
    · simp
    · simp
  | binary op opSpan left right span ihl ihr =>
    unfold problems
    rw [List.mem_append, not_or]
    exact ⟨ihl (fun _ => by simp), ihr (fun _ => by simp)⟩

theorem missingProgram_notMem_repeatedNames (firsts declared : List Declaration) :
    .missingProgram ∉ repeatedNames firsts declared := by
  induction declared generalizing firsts with
  | nil => exact List.not_mem_nil
  | cons d later ih =>
    unfold repeatedNames
    split
    · simpa using ih firsts
    · exact ih (d :: firsts)

/-- The check tells of each hole of what was read once, in order. -/
theorem filterMap_check (program : Option Program) :
    (check program).filterMap SemanticError.hole? = program.elim [] Program.gaps := by
  cases program with
  | none => rfl
  | some p => exact p.filterMap_problems

/-- The check tells that there is no program exactly if there is none. -/
theorem missingProgram_mem_check_iff (program : Option Program) :
    .missingProgram ∈ check program ↔ program = none := by
  cases program with
  | none => simp [check]
  | some p =>
    have hp : .missingProgram ∉ p.problems := by
      cases p with
      | bare body present =>
        exact body.missingProgram_notMem_problems [] (fun h => absurd h present)
      | declaring withSpan declared body =>
        unfold Program.problems
        rw [List.mem_append, not_or]
        exact ⟨missingProgram_notMem_repeatedNames _ _,
          body.missingProgram_notMem_problems _ (fun _ => by simp)⟩
    simpa [check] using hp

/-! ## §3. The invariant of reading. -/

namespace SyntaxError

/-- Whether the error is about tokens left behind the program. -/
def isTrailing : SyntaxError → Bool
  | trailingInput _ => true
  | unexpectedToken _ _ => false
  | unexpectedInExpression _ => false
  | unclosedParenthesis _ _ => false
  | numberOutOfRange _ => false

/-- Whether the error is one of those that leave a hole. -/
def leavesHole : SyntaxError → Bool
  | unexpectedInExpression _ => true
  | unclosedParenthesis _ _ => true
  | numberOutOfRange _ => true
  | unexpectedToken _ _ => false
  | trailingInput _ => false

theorem isTrailing_of_leavesHole {e : SyntaxError} (h : e.leavesHole = true) :
    e.isTrailing = false := by
  cases e with
  | trailingInput => cases h
  | unexpectedToken => cases h
  | unexpectedInExpression => rfl
  | unclosedParenthesis => rfl
  | numberOutOfRange => rfl

end SyntaxError

variable {size : Nat}

/-- The holes that the reader has been given. -/
def Reader.holes : Reader → Nat
  | operand _ => 0
  | chain _ => 0
  | extension _ left => left.holes
  | factor => 0

/-- With n errors a reader adds at most n holes to those that it has been given, and at
least one if n is not 0. -/
theorem Reads.holes_bounds {reader : Reader} {ts rest : List Token} {e : Expr}
    {events : List Event} (h : Reads size reader ts e rest events) :
    reader.holes + min 1 (errorsOf events).length ≤ e.holes ∧
      e.holes ≤ reader.holes + (errorsOf events).length := by
  induction h with
  | sumOperand _ ih => exact ih
  | productOperand _ ih => exact ih
  | chain _ _ ihf ihm =>
    simp only [Reader.holes, errorsOf_append, List.length_append] at ihf ihm ⊢
    omega
  | stop => simp [Reader.holes]
  | extend _ _ _ ihr ihm =>
    simp only [Reader.holes, Expr.holes_ofOperands, errorsOf_sighted, errorsOf_append,
      List.length_append] at ihr ihm ⊢
    omega
  | literal => exact ⟨Nat.le_refl 0, Nat.le_refl 0⟩
  | outOfRange => simp [Reader.holes, Expr.holes]
  | reference => exact ⟨Nat.le_refl 0, Nat.le_refl 0⟩
  | group _ _ _ ih =>
    simp only [Reader.holes, Expr.holes_parenthesized, errorsOf_sighted, errorsOf_append,
      errorsOf_nil, List.append_nil] at ih ⊢
    exact ih
  | unclosed _ _ _ ih =>
    -- all holes of the sum are lost with it, but what is left is one
    simp only [Reader.holes, Expr.holes, errorsOf_sighted, errorsOf_append, errorsOf_recover,
      List.length_append, List.length_singleton] at ih ⊢
    omega
  | unexpected => simp [Reader.holes, Expr.holes]

/-- All errors of reading an expression are of those that leave a hole. -/
theorem Reads.leavesHole {reader : Reader} {ts rest : List Token} {e : Expr}
    {events : List Event} (h : Reads size reader ts e rest events) :
    ∀ error ∈ errorsOf events, error.leavesHole = true := by
  induction h with
  | sumOperand _ ih => exact ih
  | productOperand _ ih => exact ih
  | chain _ _ ihf ihm =>
    rw [errorsOf_append]
    exact List.forall_mem_append.2 ⟨ihf, ihm⟩
  | stop => simp
  | extend _ _ _ ihr ihm =>
    rw [errorsOf_sighted, errorsOf_append]
    exact List.forall_mem_append.2 ⟨ihr, ihm⟩
  | literal => simp
  | outOfRange => simp [SyntaxError.leavesHole]
  | reference => simp
  | group _ _ _ ih => simpa using ih
  | unclosed _ _ _ ih =>
    rw [errorsOf_sighted, errorsOf_append, errorsOf_recover]
    exact List.forall_mem_append.2 ⟨ih, List.forall_mem_singleton.2 rfl⟩
  | unexpected => simp [SyntaxError.leavesHole]

/-! ## §4. What a source comes to. -/

/-- The program is the expression `body`, alone or behind a declaration; without a
declaration there must be something of it. -/
inductive HasBody : Option Program → Expr → Prop where
  | bare (body : Expr) : HasBody (Program.ofExpr? body) body
  | declaring (withSpan : Span) (declared : List Declaration) (body : Expr) :
      HasBody (some (.declaring withSpan declared body)) body

/-- What is read of a source is a declaration that is given up for its one error, or an
expression with errors that account for its holes. -/
theorem ReadsUnit.outcome {ts rest : List Token} {program : Option Program}
    {events : List Event} (h : ReadsUnit size ts program rest events) :
    (∃ t kind, errorsOf events = [.unexpectedToken t kind] ∧ program = none ∧ rest = []) ∨
      ∃ body, HasBody program body ∧ (∀ error ∈ errorsOf events, error.leavesHole = true) ∧
        min 1 (errorsOf events).length ≤ body.holes ∧ body.holes ≤ (errorsOf events).length := by
  cases h with
  | @bare _ _ body _ _ hs =>
    have hbounds := hs.holes_bounds
    rw [Reader.holes, Nat.zero_add, Nat.zero_add] at hbounds
    exact .inr ⟨body, .bare body, hs.leavesHole, hbounds⟩
  | @declaring opening ts mid _ declared body before after _ hh hs =>
    have hbounds := hs.holes_bounds
    rw [Reader.holes, Nat.zero_add, Nat.zero_add] at hbounds
    rw [errorsOf_sighted, errorsOf_append, hh.errorsOf_eq, List.nil_append]
    exact .inr ⟨body, .declaring _ _ body, hs.leavesHole, hbounds⟩
  | @abandoned opening ts mid error before _ hh =>
    obtain ⟨kind, rfl⟩ := hh.exists_unexpectedToken rfl
    refine .inl ⟨lookAhead size mid, kind, ?_, rfl, rest_skipUntil_never 0 _⟩
    rw [errorsOf_sighted, errorsOf_append, hh.errorsOf_eq, errorsOf_abandoned, errorsOf_skipUntil]
    rfl

/-- What a source comes to: the error of the tokens behind the program is added to
those of the program. -/
theorem parse_outcome (source : String) :
    (∃ t kind, (parse source).errors = [.unexpectedToken t kind] ∧
        (parse source).program = none) ∨
      ∃ (within : List SyntaxError) (left : List Token) (body : Expr),
        (parse source).errors = within ++ errorsOf (trailing left).events ∧
          HasBody (parse source).program body ∧ (∀ error ∈ within, error.leavesHole = true) ∧
          min 1 within.length ≤ body.holes ∧ body.holes ≤ within.length := by
  rw [errors_parse]
  rcases (readsUnit_parseUnit (sourceSize source) (tokens source)).outcome with
    ⟨t, kind, he, hp, hr⟩ | ⟨body, hbody, hunit⟩
  · -- everything is left out, so there is nothing behind the program
    rw [he, hr]
    exact .inl ⟨t, kind, rfl, hp⟩
  · exact .inr ⟨_, _, body, rfl, hbody, hunit⟩

/-! ## §5. Errors and holes. -/

/-- The errors of the program itself, without the one of the tokens behind it. -/
def Parse.errorsWithin (p : Parse) : List SyntaxError := p.errors.filter fun e => !e.isTrailing

theorem isTrailing_of_mem_trailing {left : List Token} {e : SyntaxError}
    (h : e ∈ errorsOf (trailing left).events) : e.isTrailing = true := by
  cases left with
  | nil => cases h
  | cons t rest =>
    cases List.mem_singleton.1 h
    rfl

/-- The errors that leave holes are those of the program itself. -/
theorem Parse.errorsWithin_eq {p : Parse} {within : List SyntaxError} {left : List Token}
    (he : p.errors = within ++ errorsOf (trailing left).events)
    (hw : ∀ error ∈ within, error.leavesHole = true) : p.errorsWithin = within := by
  have hkept : within.filter (fun e => !e.isTrailing) = within := by
    apply List.filter_eq_self.2
    intro e hmem
    simp [SyntaxError.isTrailing_of_leavesHole (hw e hmem)]
  have hleft : (errorsOf (trailing left).events).filter (fun e => !e.isTrailing) = [] := by
    apply List.filter_eq_nil_iff.2
    intro e hmem
    simp [isTrailing_of_mem_trailing hmem]
  rw [errorsWithin, he, List.filter_append, hkept, hleft, List.append_nil]

/-- A program has the holes of its expression. -/
theorem HasBody.length_gaps {p : Program} {body : Expr} (h : HasBody (some p) body) :
    p.gaps.length = body.holes := by
  unfold Program.gaps
  rw [Expr.length_gaps]
  generalize hq : some p = q at h
  cases h with
  | bare =>
    unfold Program.ofExpr? at hq
    split at hq
    · cases hq
      rfl
    · cases hq
  | declaring =>
    cases hq
    rfl

/-- Without a program the expression is a hole itself. -/
theorem HasBody.holes_of_none {body : Expr} (h : HasBody none body) : body.holes = 1 := by
  generalize hq : none = q at h
  cases h with
  | bare =>
    unfold Program.ofExpr? at hq
    split at hq
    · cases hq
    · next hb =>
      rw [Decidable.not_not.1 hb]
      rfl
  | declaring => cases hq

/-- Nothing is wrong with the program itself exactly if there is one without a hole. -/
theorem errorsWithin_eq_nil_iff (source : String) :
    (parse source).errorsWithin = [] ↔ ∃ p, (parse source).program = some p ∧ p.gaps = [] := by
  rcases parse_outcome source with ⟨t, kind, he, hp⟩ | ⟨within, left, body, he, hb, hw, hlow, hhigh⟩
  · have hne : (parse source).errorsWithin ≠ [] := by
      unfold Parse.errorsWithin
      rw [he]
      simp [SyntaxError.isTrailing]
    rw [hp]
    simp [hne]
  · rw [Parse.errorsWithin_eq he hw, ← List.length_eq_zero_iff]
    cases hp : (parse source).program with
    | none =>
      rw [hp] at hb
      have hone := hb.holes_of_none
      constructor
      · intro hz
        omega
      · rintro ⟨p, hnone, -⟩
        cases hnone
    | some p =>
      rw [hp] at hb
      have hlen := hb.length_gaps
      constructor
      · intro hz
        exact ⟨p, rfl, List.length_eq_zero_iff.1 (by omega)⟩
      · rintro ⟨q, hq, hg⟩
        cases hq
        rw [hg, List.length_nil] at hlen
        omega

/-- A program has no more holes than there are errors in it. -/
theorem length_gaps_le_errorsWithin {source : String} {p : Program}
    (h : (parse source).program = some p) : p.gaps.length ≤ (parse source).errorsWithin.length := by
  rcases parse_outcome source with ⟨t, kind, -, hp⟩ | ⟨within, left, body, he, hb, hw, -, hhigh⟩
  · cases hp.symm.trans h
  · rw [h] at hb
    rw [Parse.errorsWithin_eq he hw, hb.length_gaps]
    exact hhigh

/-- The error of the tokens behind the program is the last one. -/
theorem eq_nil_of_errors_eq_append {source : String} {before after : List SyntaxError} {t : Token}
    (h : (parse source).errors = before ++ .trailingInput t :: after) : after = [] := by
  rcases parse_outcome source with ⟨t, kind, he, -⟩ | ⟨within, left, body, he, -, hw, -⟩
  · rw [he] at h
    have hlen := congrArg List.length h
    simp only [List.length_append, List.length_cons, List.length_nil] at hlen
    exact List.length_eq_zero_iff.1 (by omega)
  · rw [he] at h
    have hnot : .trailingInput t ∉ within := by
      intro hm
      cases hw _ hm
    rcases List.eq_nil_or_concat after with rfl | ⟨init, last, rfl⟩
    · rfl
    -- with another error behind it, it would be one of those that leave holes
    · exfalso
      rw [List.concat_eq_append] at h
      apply hnot
      cases left with
      | nil =>
        have hwithin : within = before ++ .trailingInput t :: (init ++ [last]) := by
          simpa [trailing] using h
        rw [hwithin]
        simp
      | cons u left =>
        have hcut : within ++ [.trailingInput u] =
            (before ++ .trailingInput t :: init) ++ [last] := by
          rw [List.append_assoc, List.cons_append]
          exact h
        rw [(List.append_inj' hcut rfl).1]
        simp

/-- A token of the wrong kind in a declaration is the only error, and there is no
program then. -/
theorem errors_eq_of_unexpectedToken_mem {source : String} {t : Token} {kind : TokenKind}
    (h : .unexpectedToken t kind ∈ (parse source).errors) :
    (parse source).errors = [.unexpectedToken t kind] ∧ (parse source).program = none := by
  rcases parse_outcome source with ⟨u, k, he, hp⟩ | ⟨within, left, body, he, -, hw, -⟩
  · rw [he, List.mem_singleton] at h
    rw [he, h]
    exact ⟨rfl, hp⟩
  · rw [he, List.mem_append] at h
    rcases h with h | h
    · cases hw _ h
    · cases isTrailing_of_mem_trailing h

/-- **ERRORS AND HOLES ACCOUNT FOR EACH OTHER.**  Apart from the error of tokens behind
the program, which is the last one if there is one, a source has no error exactly if it
has a program without a hole, and a program never has more holes than errors.  A token
of the wrong kind in a declaration is the only error and leaves no program.  The check
tells of each hole once, in order, and it tells that there is no program exactly if
there is none.  So a source has a program or an error, and one without errors is told
of nothing that is missing. -/
theorem errors_account_for_holes (source : String) :
    ((parse source).errorsWithin = [] ↔
        ∃ p, (parse source).program = some p ∧ p.gaps = []) ∧
      (∀ before t after, (parse source).errors = before ++ .trailingInput t :: after →
        after = []) ∧
      (∀ t kind, .unexpectedToken t kind ∈ (parse source).errors →
        (parse source).errors = [.unexpectedToken t kind] ∧ (parse source).program = none) ∧
      (∀ p, (parse source).program = some p →
        p.gaps.length ≤ (parse source).errorsWithin.length) ∧
      (check (parse source).program).filterMap SemanticError.hole? =
        (parse source).program.elim [] Program.gaps ∧
      (.missingProgram ∈ check (parse source).program ↔ (parse source).program = none) ∧
      ((parse source).program ≠ none ∨ (parse source).errors ≠ []) ∧
      ((parse source).errors = [] → ∀ problem ∈ check (parse source).program,
        problem.hole? = none ∧ problem ≠ .missingProgram) := by
  have hsound : (parse source).errors = [] →
      ∃ p, (parse source).program = some p ∧ p.gaps = [] := by
    intro he
    apply (errorsWithin_eq_nil_iff source).1
    unfold Parse.errorsWithin
    rw [he]
    rfl
  refine ⟨errorsWithin_eq_nil_iff source, fun _ _ _ => eq_nil_of_errors_eq_append,
    fun _ _ => errors_eq_of_unexpectedToken_mem, fun _ => length_gaps_le_errorsWithin,
    filterMap_check _, missingProgram_mem_check_iff _, ?_, ?_⟩
  · by_cases he : (parse source).errors = []
    · obtain ⟨p, hp, -⟩ := hsound he
      exact .inl (by simp [hp])
    · exact .inr he
  · intro he problem hproblem
    obtain ⟨p, hp, hg⟩ := hsound he
    rw [hp] at hproblem
    constructor
    · have hnil : p.problems.filterMap SemanticError.hole? = [] := p.filterMap_problems.trans hg
      exact List.filterMap_eq_nil_iff.1 hnil problem hproblem
    · rintro rfl
      cases (missingProgram_mem_check_iff (some p)).1 hproblem

/-- Of `(# + 1 2 * (a / ) 3` a whole sum with a hole in it is lost, so that three errors
leave two holes; `3` is behind the program.  Of `with 1: 1` nothing is left. -/
theorem errors_account_for_holes_lost :
    (∃ p, (parse "(# + 1 2 * (a / ) 3").program = some p ∧
        p.render = "(* <error> (/ a <error>))" ∧
        p.gaps.length ≤ (parse "(# + 1 2 * (a / ) 3").errorsWithin.length) ∧
      (parse "(# + 1 2 * (a / ) 3").errors.drop 4 = [] ∧
      ((parse "with 1: 1").errors = [.unexpectedToken ⟨.number, "1", ⟨5, 1⟩⟩ .identifier] ∧
        (parse "with 1: 1").program = none) ∧
      ∀ problem ∈ check (parse "a").program, problem.hole? = none ∧ problem ≠ .missingProgram := by
  have hrender : (parse "(# + 1 2 * (a / ) 3").program.map Program.render =
      some "(* <error> (/ a <error>))" := by decide +kernel
  obtain ⟨p, hp, hr⟩ := Option.map_eq_some_iff.1 hrender
  obtain ⟨-, htrailing, -, hholes, -⟩ := errors_account_for_holes "(# + 1 2 * (a / ) 3"
  obtain ⟨-, -, hheader, -⟩ := errors_account_for_holes "with 1: 1"
  obtain ⟨-, -, -, -, -, -, -, hclean⟩ := errors_account_for_holes "a"
  refine ⟨⟨p, hp, hr, hholes p hp⟩, ?_, hheader _ _ (by decide +kernel),
    hclean (by decide +kernel)⟩
  exact htrailing (List.take 3 (parse "(# + 1 2 * (a / ) 3").errors)
    ⟨.number, "3", ⟨18, 1⟩⟩ _ (by decide +kernel)

end Calculator
