/-
  Calculator.Proofs.Layout
  ────────────────────────
  **LAYOUT NEVER MATTERS.**

  What stands between the tokens of a source decides where the tokens stand, and
  nothing else.  So the places are forgotten: `unplaced` puts everything that has a
  place at one and the same, `Span.nowhere`.  Whatever is done with a source commutes
  with that, because no step looks at a place but to keep it or to make a hull, and a
  hull of nowhere is nowhere.  Two sources whose tokens differ in their places only
  are then the same source once places are forgotten.

  Main statements:
    * `Reads.unplaced`, `ReadsUnit.unplaced` — reading commutes with it;
    * `check_unplaced`                       — so does the check;
    * `Session.run_unplaced`                 — so does a run, on any runtime;
    * `layout_never_matters`                 — sources with the same tokens up to places
      have the same tree, errors and problems up to places, the same log, and their
      programs do the same on every session.
-/
import Calculator.Log
import Calculator.Proofs.Asking
import Calculator.Proofs.Reading.Program

namespace Calculator

/-! ## §1. Forgetting places. -/

/-- The place of everything whose place is forgotten. -/
def Span.nowhere : Span := ⟨0, 0⟩

@[simp] theorem Span.hull_nowhere : nowhere.hull nowhere = nowhere := rfl

/-- The token without its place. -/
def Token.unplaced (t : Token) : Token := { t with span := .nowhere }

/-- The expression without the places of its nodes. -/
def Expr.unplaced : Expr → Expr
  | missing => .missing
  | literal value text _ => .literal value text .nowhere
  | reference name _ => .reference name .nowhere
  | binary op _ left right _ => .binary op .nowhere left.unplaced right.unplaced .nowhere

/-- The declared variable without its place. -/
def Declaration.unplaced (d : Declaration) : Declaration := { d with span := .nowhere }

theorem Expr.unplaced_eq_missing_iff {e : Expr} : e.unplaced = missing ↔ e = missing := by
  cases e <;> simp [unplaced]

/-- The program without any places. -/
def Program.unplaced : Program → Program
  | .bare body present => .bare body.unplaced (mt Expr.unplaced_eq_missing_iff.1 present)
  | .declaring _ declared body =>
    .declaring .nowhere (declared.map Declaration.unplaced) body.unplaced

/-- The error with tokens without places. -/
def SyntaxError.unplaced : SyntaxError → SyntaxError
  | unexpectedToken found expected => .unexpectedToken found.unplaced expected
  | unexpectedInExpression found => .unexpectedInExpression found.unplaced
  | unclosedParenthesis opener found => .unclosedParenthesis opener.unplaced found.unplaced
  | trailingInput found => .trailingInput found.unplaced
  | numberOutOfRange found => .numberOutOfRange found.unplaced

/-- The problem without its places. -/
def SemanticError.unplaced : SemanticError → SemanticError
  | alreadyDeclared name _ _ => .alreadyDeclared name .nowhere .nowhere
  | notDeclared name _ => .notDeclared name .nowhere
  | missingOperand op _ => .missingOperand op .nowhere
  | missingBody _ => .missingBody .nowhere
  | missingProgram => .missingProgram

/-- The failure without its place. -/
def RuntimeError.unplaced : RuntimeError → RuntimeError
  | invalidInput name input => .invalidInput name input
  | divisionByZero _ => .divisionByZero .nowhere
  | overflow op _ left right => .overflow op .nowhere left right
  | undefinedVariable name _ => .undefinedVariable name .nowhere
  | incomplete _ => .incomplete .nowhere
  | console fault => .console fault

/-- The event with tokens without places. -/
def Event.unplaced : Event → Event
  | sighted token => .sighted token.unplaced
  | found error => .found error.unplaced
  | abandoned error => .abandoned error.unplaced
  | resumed skipped ahead => .resumed skipped ahead.unplaced

/-- The reader, the expression made so far being without places. -/
def Reader.unplaced : Reader → Reader
  | operand layer => .operand layer
  | chain layer => .chain layer
  | extension layer left => .extension layer left.unplaced
  | factor => .factor

/-! ## §2. What does not depend on places. -/

variable {size : Nat}

@[simp] theorem Token.kind_unplaced (t : Token) : t.unplaced.kind = t.kind := rfl

@[simp] theorem unplaced_lookAhead (size : Nat) (ts : List Token) :
    (lookAhead size ts).unplaced = lookAhead 0 (ts.map Token.unplaced) := by
  cases ts with
  | nil => rfl
  | cons t ts => rfl

theorem kind_lookAhead_unplaced (size : Nat) (ts : List Token) :
    (lookAhead 0 (ts.map Token.unplaced)).kind = (lookAhead size ts).kind := by
  rw [← unplaced_lookAhead size, Token.kind_unplaced]

namespace Expr

@[simp] theorem spanOr_unplaced (e : Expr) : e.unplaced.spanOr .nowhere = .nowhere := by
  cases e <;> rfl

theorem unplaced_ofOperands (op : Operator) (opSpan : Span) (left right : Expr) :
    (ofOperands op opSpan left right).unplaced =
      ofOperands op .nowhere left.unplaced right.unplaced := by
  unfold ofOperands
  rw [spanOr_unplaced, spanOr_unplaced]
  rfl

theorem unplaced_parenthesized (parens : Span) (e : Expr) :
    (e.parenthesized parens).unplaced = e.unplaced.parenthesized .nowhere := by
  cases e <;> rfl

end Expr

/-- The message of a syntax error names no place. -/
@[simp] theorem SyntaxError.message_unplaced (e : SyntaxError) :
    e.unplaced.message = e.message := by
  cases e <;> rfl

@[simp] theorem Event.error?_unplaced (e : Event) :
    e.unplaced.error? = e.error?.map SyntaxError.unplaced := by
  cases e <;> rfl

/-- The record of an event names no place. -/
@[simp] theorem Event.record?_unplaced (e : Event) : e.unplaced.record? = e.record? := by
  cases e with
  | sighted token => rfl
  | found error => rfl
  | abandoned error =>
    simp only [unplaced, record?, SyntaxError.message_unplaced]
  | resumed skipped ahead => rfl

/-! ## §3. Reading. -/

/-- Tokens are left out by their kinds. -/
theorem skipUntil_unplaced (size : Nat) (resumes : TokenKind → Bool) (skipped : Nat)
    (ts : List Token) :
    (skipUntil size resumes skipped ts).rest.map Token.unplaced =
        (skipUntil 0 resumes skipped (ts.map Token.unplaced)).rest ∧
      (skipUntil size resumes skipped ts).journal.events.map Event.unplaced =
        (skipUntil 0 resumes skipped (ts.map Token.unplaced)).journal.events := by
  induction ts generalizing skipped with
  | nil => exact ⟨rfl, rfl⟩
  | cons t ts ih =>
    obtain ⟨hrest, hevents⟩ := ih (skipped + 1)
    rw [List.map_cons]
    -- the kind decides, and a token keeps it without its place
    by_cases hr : resumes t.kind = true
    · have hu : resumes t.unplaced.kind = true := hr
      simp only [skipUntil, if_pos hr, if_pos hu]
      exact ⟨rfl, rfl⟩
    · have hu : ¬resumes t.unplaced.kind = true := hr
      simp only [skipUntil, if_neg hr, if_neg hu, Journal.events_entry, List.map_cons, hrest,
        hevents, Event.unplaced, unplaced_lookAhead, and_self]

@[simp] theorem rest_recover_unplaced (error : SyntaxError) (ts : List Token) :
    (recover size error ts).rest.map Token.unplaced =
      (recover 0 error.unplaced (ts.map Token.unplaced)).rest :=
  (skipUntil_unplaced size TokenKind.followsOperand 0 ts).1

@[simp] theorem events_recover_unplaced (error : SyntaxError) (ts : List Token) :
    (recover size error ts).journal.events.map Event.unplaced =
      (recover 0 error.unplaced (ts.map Token.unplaced)).journal.events :=
  congrArg (Event.found error.unplaced :: ·)
    (skipUntil_unplaced size TokenKind.followsOperand 0 ts).2

/-- Readers do on tokens without places what they do on the tokens, without places. -/
theorem Reads.unplaced {reader : Reader} {ts rest : List Token} {e : Expr} {events : List Event}
    (h : Reads size reader ts e rest events) :
    Reads 0 reader.unplaced (ts.map Token.unplaced) e.unplaced (rest.map Token.unplaced)
      (events.map Event.unplaced) := by
  induction h with
  | sumOperand _ ih => exact .sumOperand ih
  | productOperand _ ih => exact .productOperand ih
  | chain _ _ ihf ihm =>
    rw [List.map_append]
    exact .chain ihf ihm
  | stop ends => exact .stop (by rwa [kind_lookAhead_unplaced size])
  | extend mark _ _ ihr ihm =>
    -- the node over the operands forgets its place as they do
    simp only [Reader.unplaced, Expr.unplaced_ofOperands] at ihm
    simp only [List.map_cons, List.map_append, Event.unplaced, unplaced_lookAhead]
    exact .extend mark ihr ihm
  | literal kind fits =>
    simp only [List.map_cons, List.map_nil, Event.unplaced, unplaced_lookAhead]
    exact .literal kind fits
  | outOfRange kind large =>
    simp only [List.map_cons, Event.unplaced, unplaced_lookAhead, rest_recover_unplaced,
      events_recover_unplaced]
    exact .outOfRange kind large
  | reference kind =>
    simp only [List.map_cons, List.map_nil, Event.unplaced, unplaced_lookAhead]
    exact .reference kind
  | @group opening closing _ _ _ _ kind _ closed ih =>
    -- the hull of two parentheses that are nowhere is nowhere again
    have hopening : opening.unplaced.kind = .leftParen := kind
    have hclosing : closing.unplaced.kind = .rightParen := closed
    simp only [List.map_cons, List.map_append, List.map_nil, Event.unplaced, unplaced_lookAhead,
      Expr.unplaced_parenthesized]
    exact .group hopening ih hclosing
  | unclosed kind _ opens ih =>
    simp only [List.map_cons, List.map_append, Event.unplaced, unplaced_lookAhead,
      rest_recover_unplaced, events_recover_unplaced, SyntaxError.unplaced]
    exact .unclosed kind ih (by rwa [kind_lookAhead_unplaced size])
  | unexpected kind =>
    simp only [rest_recover_unplaced, events_recover_unplaced, SyntaxError.unplaced,
      unplaced_lookAhead]
    exact .unexpected (by rwa [kind_lookAhead_unplaced size])

/-- What is read of a declaration, without places. -/
def unplacedHeader : Except SyntaxError (List Declaration) → Except SyntaxError (List Declaration)
  | .ok declared => .ok (declared.map Declaration.unplaced)
  | .error error => .error error.unplaced

theorem unplacedHeader_map_cons (d : Declaration)
    (value : Except SyntaxError (List Declaration)) :
    unplacedHeader (value.map (d :: ·)) = (unplacedHeader value).map (d.unplaced :: ·) := by
  cases value <;> rfl

/-- Declarations are read off tokens without places as off the tokens, without places. -/
theorem ReadsHeader.unplaced {ts rest : List Token}
    {value : Except SyntaxError (List Declaration)} {events : List Event}
    (h : ReadsHeader size ts value rest events) :
    ReadsHeader 0 (ts.map Token.unplaced) (unplacedHeader value) (rest.map Token.unplaced)
      (events.map Event.unplaced) := by
  induction h with
  | last kind colon =>
    simp only [List.map_cons, List.map_nil, Event.unplaced, unplaced_lookAhead]
    exact .last kind colon
  | more kind comma _ ih =>
    simp only [List.map_cons, Event.unplaced, unplaced_lookAhead, unplacedHeader_map_cons]
    exact .more kind comma ih
  | noName kind =>
    simp only [unplacedHeader, SyntaxError.unplaced, unplaced_lookAhead]
    exact .noName (by rwa [kind_lookAhead_unplaced size])
  | noMark kind comma colon =>
    simp only [unplacedHeader, SyntaxError.unplaced, List.map_cons, List.map_nil, Event.unplaced,
      unplaced_lookAhead]
    exact .noMark kind (by rwa [kind_lookAhead_unplaced size])
      (by rwa [kind_lookAhead_unplaced size])

/-- An expression alone is a program as soon as it is one without places. -/
theorem Program.map_unplaced_ofExpr? (body : Expr) :
    (ofExpr? body).map unplaced = ofExpr? body.unplaced := by
  by_cases hb : body = .missing
  · rw [hb]
    rfl
  · rw [ofExpr?_of_ne hb, ofExpr?_of_ne (mt Expr.unplaced_eq_missing_iff.1 hb)]
    rfl

/-- Programs are read off tokens without places as off the tokens, without places. -/
theorem ReadsUnit.unplaced {ts rest : List Token} {program : Option Program}
    {events : List Event} (h : ReadsUnit size ts program rest events) :
    ReadsUnit 0 (ts.map Token.unplaced) (program.map Program.unplaced)
      (rest.map Token.unplaced) (events.map Event.unplaced) := by
  cases h with
  | bare kind sum =>
    rw [Program.map_unplaced_ofExpr?]
    exact .bare (by rwa [kind_lookAhead_unplaced size]) sum.unplaced
  | declaring kind header sum =>
    simp only [List.map_cons, List.map_append, Event.unplaced, unplaced_lookAhead]
    exact .declaring kind header.unplaced sum.unplaced
  | @abandoned opening ts mid error before kind header =>
    obtain ⟨hrest, hevents⟩ := skipUntil_unplaced size (fun _ => false) 0 mid
    simp only [List.map_cons, List.map_append, Event.unplaced, unplaced_lookAhead, hrest, hevents]
    exact .abandoned kind header.unplaced

/-- What is made of tokens without places is what is made of the tokens, without
places. -/
theorem parseTokens_unplaced (size : Nat) (ts : List Token) :
    (parseTokens size ts).program.map Program.unplaced =
        (parseTokens 0 (ts.map Token.unplaced)).program ∧
      (parseTokens size ts).journal.events.map Event.unplaced =
        (parseTokens 0 (ts.map Token.unplaced)).journal.events := by
  obtain ⟨hvalue, hrest, hevents⟩ := (readsUnit_parseUnit size ts).unplaced.parseUnit_eq
  have htrailing : ∀ left : List Token, (trailing left).events.map Event.unplaced =
      (trailing (left.map Token.unplaced)).events := by
    intro left
    cases left <;> rfl
  refine ⟨hvalue.symm, ?_⟩
  simp only [parseTokens, Journal.events_entry, Journal.events_join, List.map_cons,
    List.map_append, Event.unplaced, unplaced_lookAhead, hevents, hrest, htrailing]

/-! ## §4. The check. -/

theorem repeatedNames_unplaced (firsts declared : List Declaration) :
    (repeatedNames firsts declared).map SemanticError.unplaced =
      repeatedNames (firsts.map Declaration.unplaced) (declared.map Declaration.unplaced) := by
  induction declared generalizing firsts with
  | nil => rfl
  | cons d later ih =>
    -- the first declaration of a name is looked up by the name
    have hfind : (firsts.map Declaration.unplaced).find? (·.name == d.unplaced.name) =
        (firsts.find? (·.name == d.name)).map Declaration.unplaced := List.find?_map
    rw [List.map_cons, repeatedNames, repeatedNames, hfind]
    cases firsts.find? (·.name == d.name) with
    | none => exact ih (d :: firsts)
    | some first => exact congrArg (_ :: ·) (ih firsts)

theorem Expr.problems_unplaced (names : List String) (ifMissing : SemanticError) (e : Expr) :
    (e.problems names ifMissing).map SemanticError.unplaced =
      e.unplaced.problems names ifMissing.unplaced := by
  induction e generalizing ifMissing with
  | missing => rfl
  | literal => rfl
  | reference name span =>
    by_cases hn : name ∈ names
    · simp only [problems, unplaced, if_pos hn, List.map_nil]
    · simp only [problems, unplaced, if_neg hn, List.map_cons, List.map_nil,
        SemanticError.unplaced]
  | binary op opSpan left right span ihl ihr =>
    simp only [problems, unplaced, List.map_append, ihl, ihr, SemanticError.unplaced]

/-- Without places a declaration with its expression is nowhere. -/
theorem Program.declarationSpan_unplaced (declared : List Declaration) (body : Expr) :
    declarationSpan .nowhere (declared.map Declaration.unplaced) body.unplaced = .nowhere := by
  have hlast : ((declared.map Declaration.unplaced).getLast?.map Declaration.span).getD .nowhere =
      .nowhere := by
    rw [List.getLast?_map]
    cases declared.getLast? <;> rfl
  rw [declarationSpan, hlast, Expr.spanOr_unplaced, Span.hull_nowhere]

/-- The problems of a program without places are its problems, without places. -/
theorem Program.problems_unplaced (p : Program) :
    p.problems.map SemanticError.unplaced = p.unplaced.problems := by
  cases p with
  | bare body present => exact Expr.problems_unplaced [] .missingProgram body
  | declaring withSpan declared body =>
    have hnames : (declared.map Declaration.unplaced).map Declaration.name =
        declared.map Declaration.name := List.map_map
    simp only [problems, unplaced, List.map_append, repeatedNames_unplaced, List.map_nil,
      Expr.problems_unplaced, SemanticError.unplaced, declarationSpan_unplaced, hnames]

/-- What the check finds without places is what it finds, without places. -/
theorem check_unplaced (program : Option Program) :
    (check program).map SemanticError.unplaced = check (program.map Program.unplaced) := by
  cases program with
  | none => rfl
  | some p => exact p.problems_unplaced

/-! ## §5. Running. -/

@[simp] theorem RuntimeError.unplaced_ofFault (op : Operator) (node : Span) (x y : Int32)
    (fault : ArithmeticFault) :
    (ofFault op node x y fault).unplaced = ofFault op .nowhere x y fault := by
  cases fault <;> rfl

theorem RuntimeError.unplaced_unplaced (e : RuntimeError) : e.unplaced.unplaced = e.unplaced := by
  cases e <;> rfl

/-- An expression without places has the value of the expression, or its failure
without the place. -/
theorem Expr.evaluate_unplaced (b : Bindings) (ifMissing : Span) (e : Expr) :
    e.unplaced.evaluate b .nowhere = (e.evaluate b ifMissing).mapError RuntimeError.unplaced := by
  induction e generalizing ifMissing with
  | missing => rfl
  | literal => rfl
  | reference name span =>
    simp only [unplaced, evaluate]
    cases b.get? name <;> rfl
  | binary op opSpan left right span ihl ihr =>
    rw [unplaced]
    -- failures of operands are passed on, and a hole is told of at the operator, which is
    -- nowhere too; only a fault of the operation itself takes the place of the node
    rcases evaluate_binary_cases b op opSpan left right span ifMissing with
      ⟨error, hl, heq⟩ | ⟨x, error, hl, hr, heq⟩ | ⟨x, y, hl, hr, heq⟩
    · rw [heq]
      exact evaluate_binary_of_left (by rw [ihl opSpan, hl]; rfl)
    · rw [heq]
      exact evaluate_binary_of_right (by rw [ihl opSpan, hl]; rfl) (by rw [ihr opSpan, hr]; rfl)
    · rw [heq, evaluate_binary_of_operands (x := x) (y := y) (by rw [ihl opSpan, hl]; rfl)
        (by rw [ihr opSpan, hr]; rfl)]
      cases op.apply x y with
      | ok v => rfl
      | error fault => exact congrArg Except.error (RuntimeError.unplaced_ofFault ..).symm

theorem Program.span_unplaced (p : Program) : p.unplaced.span = .nowhere := by
  cases p with
  | bare body present => exact body.spanOr_unplaced
  | declaring withSpan declared body => exact declarationSpan_unplaced declared body

namespace Session

variable {σ : Type} [Runtime σ]

/-- What comes of a use of a session, a failure being without its place. -/
def unplacedResult (r : Except RuntimeError Int32 × Session σ) :
    Except RuntimeError Int32 × Session σ := (r.1.mapError RuntimeError.unplaced, r.2)

/-- Without places a program asks in the same way. -/
theorem askAll_unplaced (p : Program) (s : Session σ) :
    s.askAll p.unplaced.declared = s.askAll p.declared := by
  have hnames : p.unplaced.declared.map Declaration.name = p.declared.map Declaration.name := by
    cases p with
    | bare => rfl
    | declaring _ declared _ => exact List.map_map
  rw [askAll_eq, askAll_eq, hnames]

theorem evaluate_unplaced (p : Program) (s : Session σ) :
    unplacedResult (s.evaluate p.unplaced) = unplacedResult (s.evaluate p) := by
  have hbody : p.unplaced.body = p.body.unplaced := by
    cases p <;> rfl
  unfold evaluate
  rw [askAll_unplaced, hbody, Program.span_unplaced]
  -- both ask in the same way, so a failure to get a value is the same one
  rcases s.askAll p.declared with ⟨error | u, t⟩
  · rfl
  · dsimp only [unplacedResult]
    rw [Expr.evaluate_unplaced _ p.span]
    cases p.body.evaluate t.bindings p.span with
    | ok value => rfl
    | error error => exact congrArg (fun e => (Except.error e, t)) error.unplaced_unplaced

/-- A run of a program without places does what a run of the program does. -/
theorem run_unplaced (p : Program) (s : Session σ) :
    unplacedResult (s.run p.unplaced) = unplacedResult (s.run p) := by
  have h := evaluate_unplaced p s
  unfold run
  generalize s.evaluate p.unplaced = x at h ⊢
  generalize s.evaluate p = y at h ⊢
  obtain ⟨r, t⟩ := x
  obtain ⟨r', t'⟩ := y
  obtain ⟨hr, rfl⟩ : r.mapError RuntimeError.unplaced = r'.mapError RuntimeError.unplaced ∧
      t = t' := Prod.mk.inj h
  -- both evaluations fail, or both have the value that is then told
  cases r with
  | error error =>
    cases r' with
    | error error' => exact h
    | ok value => cases hr
  | ok value =>
    cases r' with
    | error error => cases hr
    | ok value' =>
      cases hr
      rfl

end Session

/-! ## §6. Layout. -/

/-- What the token says, wherever it stands: its kind and its text. -/
def Token.word (t : Token) : TokenKind × String := (t.kind, t.text)

/-- Tokens that say the same are the same without places. -/
theorem map_unplaced_of_map_word {ts us : List Token} (h : ts.map Token.word = us.map Token.word) :
    ts.map Token.unplaced = us.map Token.unplaced := by
  have hmap : ∀ vs : List Token, vs.map Token.unplaced =
      (vs.map Token.word).map fun word => ⟨word.1, word.2, .nowhere⟩ := by
    intro vs
    rw [List.map_map]
    rfl
  rw [hmap, hmap, h]

/-- The tokens of sources say the same as soon as they do with the ends of the sources. -/
theorem map_word_tokens {s t : String} (h : (scan s).map Token.word = (scan t).map Token.word) :
    (tokens s).map Token.word = (tokens t).map Token.word := by
  -- the end is one token in both, so it can be taken off
  simp only [scan, List.map_append] at h
  exact (List.append_inj' h rfl).1

/-- Sources whose tokens are the same without places are read alike. -/
theorem parse_unplaced_eq {s t : String}
    (h : (tokens s).map Token.unplaced = (tokens t).map Token.unplaced) :
    (parse s).program.map Program.unplaced = (parse t).program.map Program.unplaced ∧
      (parse s).journal.events.map Event.unplaced =
        (parse t).journal.events.map Event.unplaced := by
  obtain ⟨hp, he⟩ := parseTokens_unplaced (sourceSize s) (tokens s)
  obtain ⟨hq, hf⟩ := parseTokens_unplaced (sourceSize t) (tokens t)
  rw [← h] at hq hf
  exact ⟨hp.trans hq.symm, he.trans hf.symm⟩

/-- The errors among events without places are those of the events, without places. -/
theorem Journal.errors_unplaced (j : Journal) :
    j.errors.map SyntaxError.unplaced = (j.events.map Event.unplaced).filterMap Event.error? := by
  simp only [errors, List.map_filterMap, List.filterMap_map, Function.comp_def,
    Event.error?_unplaced]

/-- The records of a journal are those of its events without places. -/
theorem Journal.records_unplaced (j : Journal) :
    j.records = (j.events.map Event.unplaced).filterMap Event.record? := by
  simp only [records, List.filterMap_map, Function.comp_def, Event.record?_unplaced]

/-- The record of a check tells how many problems there are. -/
theorem checkRecords_unplaced (program : Option Program) :
    checkRecords program = checkRecords (program.map Program.unplaced) := by
  cases program with
  | none => rfl
  | some p =>
    simp only [checkRecords, Option.map_some, ← p.problems_unplaced, List.length_map]

theorem SyntaxError.map_message_unplaced (errors : List SyntaxError) :
    (errors.map unplaced).map message = errors.map message := by
  simp only [List.map_map, Function.comp_def, message_unplaced]

/-- Programs that are the same without places run alike. -/
theorem Session.run_eq_of_unplaced {σ : Type} [Runtime σ] {p q : Program}
    (h : p.unplaced = q.unplaced) (s : Session σ) :
    unplacedResult (s.run p) = unplacedResult (s.run q) ∧
      unplacedResult (s.evaluate p) = unplacedResult (s.evaluate q) := by
  constructor
  · rw [← run_unplaced p, h, run_unplaced]
  · rw [← evaluate_unplaced p, h, evaluate_unplaced]

/-- **LAYOUT NEVER MATTERS.**  Let the tokens of two sources agree in kind and text.  Then,
errors or not, the programs, the syntax errors and the problems that the check finds agree
up to places, the errors in their order and with their messages; the logs are the same in
any detail; and in any session, on a console or on any other runtime, the programs have the
same value or, up to its place, the same failure, and leave the same session, what is written
and what is left to read included. -/
theorem layout_never_matters {s t : String}
    (h : (scan s).map Token.word = (scan t).map Token.word) :
    (parse s).program.map Program.unplaced = (parse t).program.map Program.unplaced ∧
      (parse s).errors.map SyntaxError.unplaced = (parse t).errors.map SyntaxError.unplaced ∧
      (parse s).errors.map SyntaxError.message = (parse t).errors.map SyntaxError.message ∧
      (check (parse s).program).map SemanticError.unplaced =
        (check (parse t).program).map SemanticError.unplaced ∧
      (∀ wanted, logRecords wanted s = logRecords wanted t) ∧
      ∀ p q, (parse s).program = some p → (parse t).program = some q →
        ∀ (σ : Type) [Runtime σ] (session : Session σ),
        (session.run p).1.mapError RuntimeError.unplaced =
            (session.run q).1.mapError RuntimeError.unplaced ∧
          (session.run p).2 = (session.run q).2 ∧
          (session.evaluate p).1.mapError RuntimeError.unplaced =
            (session.evaluate q).1.mapError RuntimeError.unplaced ∧
          (session.evaluate p).2 = (session.evaluate q).2 := by
  obtain ⟨hprogram, hevents⟩ := parse_unplaced_eq (map_unplaced_of_map_word (map_word_tokens h))
  have herrors : (parse s).errors.map SyntaxError.unplaced =
      (parse t).errors.map SyntaxError.unplaced := by
    rw [Parse.errors, Parse.errors, Journal.errors_unplaced, Journal.errors_unplaced, hevents]
  refine ⟨hprogram, herrors, ?messages, ?problems, ?log, ?runs⟩
  case messages =>
    rw [← SyntaxError.map_message_unplaced, herrors, SyntaxError.map_message_unplaced]
  case problems => rw [check_unplaced, check_unplaced, hprogram]
  case log =>
    -- both parts of the log are told of what has no places
    intro wanted
    rw [logRecords, logRecords, Journal.records_unplaced, Journal.records_unplaced, hevents,
      checkRecords_unplaced, hprogram, ← checkRecords_unplaced]
  case runs =>
    intro p q hp hq σ _ session
    rw [hp, hq] at hprogram
    obtain ⟨hrun, hevaluate⟩ :=
      session.run_eq_of_unplaced (p := p) (q := q) (Option.some.inj hprogram)
    exact ⟨(Prod.mk.inj hrun).1, (Prod.mk.inj hrun).2, (Prod.mk.inj hevaluate).1,
      (Prod.mk.inj hevaluate).2⟩

/-- In both sources the number behind the program is an error and `a` is declared twice;
for the second value 0 both programs fail at the division, each at its own place. -/
theorem layout_never_matters_faulty :
    ∃ p q, (parse "with a,a:(1/a)2").program = some p ∧
      (parse "with\ta , a :\n( 1 / a )\n2").program = some q ∧
      p.span = ⟨0, 14⟩ ∧ q.span = ⟨0, 22⟩ ∧
      (parse "with a,a:(1/a)2").errors.map SyntaxError.message =
        ["Unexpected '2' after the end of the expression"] ∧
      (parse "with\ta , a :\n( 1 / a )\n2").errors.map SyntaxError.message =
        ["Unexpected '2' after the end of the expression"] ∧
      (check (some q)).map SemanticError.unplaced = [.alreadyDeclared "a" .nowhere .nowhere] ∧
      ((Session.ofConsole (Console.ofInput [49, 10, 48, 10])).run p).1 =
        .error (.divisionByZero ⟨9, 5⟩) ∧
      ((Session.ofConsole (Console.ofInput [49, 10, 48, 10])).run q).1.mapError
        RuntimeError.unplaced = .error (.divisionByZero .nowhere) := by
  let p : Program := .declaring ⟨0, 4⟩ [⟨"a", ⟨5, 1⟩⟩, ⟨"a", ⟨7, 1⟩⟩]
    (.binary .div ⟨11, 1⟩ (.literal 1 "1" ⟨10, 1⟩) (.reference "a" ⟨12, 1⟩) ⟨9, 5⟩)
  let q : Program := .declaring ⟨0, 4⟩ [⟨"a", ⟨5, 1⟩⟩, ⟨"a", ⟨9, 1⟩⟩]
    (.binary .div ⟨17, 1⟩ (.literal 1 "1" ⟨15, 1⟩) (.reference "a" ⟨19, 1⟩) ⟨13, 9⟩)
  have hp : (parse "with a,a:(1/a)2").program = some p := by decide +kernel
  have hq : (parse "with\ta , a :\n( 1 / a )\n2").program = some q := by decide +kernel
  have herrors : (parse "with a,a:(1/a)2").errors.map SyntaxError.message =
      ["Unexpected '2' after the end of the expression"] := by decide +kernel
  have hproblems : (check (some p)).map SemanticError.unplaced =
      [.alreadyDeclared "a" .nowhere .nowhere] := by decide +kernel
  have hrun : ((Session.ofConsole (Console.ofInput [49, 10, 48, 10])).run p).1 =
      .error (.divisionByZero ⟨9, 5⟩) := rfl
  obtain ⟨-, -, hmessages, hcheck, -, hruns⟩ :=
    layout_never_matters (s := "with a,a:(1/a)2") (t := "with\ta , a :\n( 1 / a )\n2")
      (by decide +kernel)
  rw [hp, hq] at hcheck
  refine ⟨p, q, hp, hq, by decide, by decide, herrors, hmessages.symm.trans herrors,
    hcheck.symm.trans hproblems, hrun, ?_⟩
  rw [← (hruns p q hp hq _ _).1, hrun]
  rfl

end Calculator
