/-
  Calculator.Proofs.Origins
  ─────────────────────────
  **WHAT AN ERROR IS ABOUT.**

  An error of any stage is about something that is there.  An error of reading is about the
  tokens that were read, or about the end behind them (`Reads.arises`); a failure of a run is
  about a node of the program, or about nothing in it (`Session.isAbout_of_run`).

  Main statements: `arises_of_mem_errors`, `Session.isAbout_of_evaluate`,
  `Session.isAbout_of_run`.
-/
import Calculator.Proofs.Course
import Calculator.Proofs.Evaluation

namespace Calculator

variable {size : Nat}

/-! ## §1. Errors of reading. -/

/-- The error can come up while the tokens `ts` are read: it is about some of them, or about
the end behind them. -/
inductive SyntaxError.ArisesIn (size : Nat) (ts : List Token) : SyntaxError → Prop where
  | header {found : Token} (ahead : found ∈ ts ++ [.endOfInput size]) (expected : TokenKind) :
      ArisesIn size ts (.unexpectedToken found expected)
  | operand {found : Token} (ahead : found ∈ ts ++ [.endOfInput size]) :
      ArisesIn size ts (.unexpectedInExpression found)
  /-- The parenthesis stands in front of the token that shows that it is not closed. -/
  | parenthesis {opener found : Token} (opens : opener.kind = .leftParen)
      (order : [opener, found].Sublist (ts ++ [.endOfInput size])) :
      ArisesIn size ts (.unclosedParenthesis opener found)
  | number {found : Token} (kind : found.kind = .number) (mem : found ∈ ts) :
      ArisesIn size ts (.numberOutOfRange found)
  | behind {found : Token} (mem : found ∈ ts) : ArisesIn size ts (.trailingInput found)

theorem SyntaxError.ArisesIn.mono {ts us : List Token} {error : SyntaxError}
    (h : error.ArisesIn size ts) (hsub : ts.Sublist us) : error.ArisesIn size us := by
  have hmore : (ts ++ [Token.endOfInput size]).Sublist (us ++ [.endOfInput size]) :=
    hsub.append_right _
  cases h with
  | header ahead expected => exact .header (hmore.subset ahead) expected
  | operand ahead => exact .operand (hmore.subset ahead)
  | parenthesis opens order => exact .parenthesis opens (order.trans hmore)
  | number kind mem => exact .number kind (hsub.subset mem)
  | behind mem => exact .behind (hsub.subset mem)

theorem singleton_lookAhead_sublist (size : Nat) (ts : List Token) :
    [lookAhead size ts].Sublist (ts ++ [.endOfInput size]) := by
  cases ts with
  | nil => exact List.Sublist.refl _
  | cons t ts => exact List.singleton_sublist.2 (List.mem_cons_self ..)

/-- The errors of reading an expression are about its tokens. -/
theorem Reads.arises {reader : Reader} {ts rest : List Token} {e : Expr} {events : List Event}
    (h : Reads size reader ts e rest events) :
    ∀ error ∈ errorsOf events, error.ArisesIn size ts := by
  -- what a part is given is a sublist of the tokens of the whole
  induction h with
  | sumOperand _ ih => exact ih
  | productOperand _ ih => exact ih
  | chain hf _ ihf ihm =>
    intro error herror
    rw [errorsOf_append, List.mem_append] at herror
    rcases herror with herror | herror
    · exact ihf error herror
    · exact (ihm error herror).mono hf.course.suffix.sublist
  | stop => exact List.forall_mem_nil _
  | @extend layer left right e t op ts mid rest before after _ hr _ ihr ihm =>
    intro error herror
    rw [errorsOf_sighted, errorsOf_append, List.mem_append] at herror
    rcases herror with herror | herror
    · exact (ihr error herror).mono (List.sublist_cons_self t ts)
    · exact (ihm error herror).mono (hr.course.suffix.sublist.cons t)
  | literal => exact List.forall_mem_nil _
  | @outOfRange t ts hk _ =>
    intro error herror
    rw [errorsOf_sighted, errorsOf_recover] at herror
    cases List.mem_singleton.1 herror
    exact .number hk (List.mem_cons_self ..)
  | reference => exact List.forall_mem_nil _
  | @group opening closing ts rest inner events _ _ _ ih =>
    intro error herror
    rw [errorsOf_sighted, errorsOf_append, errorsOf_sighted, errorsOf_nil, List.append_nil]
      at herror
    exact (ih error herror).mono (List.sublist_cons_self opening ts)
  | @unclosed opening ts mid inner events hk hs _ ih =>
    intro error herror
    rw [errorsOf_sighted, errorsOf_append, errorsOf_recover, List.mem_append] at herror
    rcases herror with herror | herror
    · exact (ih error herror).mono (List.sublist_cons_self opening ts)
    · -- the parenthesis is taken, and what shows that it is not closed is behind its sum
      cases List.mem_singleton.1 herror
      refine .parenthesis hk (List.Sublist.cons_cons opening ?_)
      exact (singleton_lookAhead_sublist size mid).trans (hs.course.suffix.sublist.append_right _)
  | @unexpected ts _ =>
    intro error herror
    rw [errorsOf_recover] at herror
    cases List.mem_singleton.1 herror
    exact .operand (List.singleton_sublist.1 (singleton_lookAhead_sublist size ts))

/-- The errors of reading a program are about its tokens. -/
theorem ReadsUnit.arises {ts rest : List Token} {program : Option Program} {events : List Event}
    (h : ReadsUnit size ts program rest events) :
    ∀ error ∈ errorsOf events, error.ArisesIn size ts := by
  cases h with
  | bare _ hs => exact hs.arises
  | @declaring opening ts mid rest declared body before after _ hh hs =>
    intro error herror
    rw [errorsOf_sighted, errorsOf_append, hh.errorsOf_eq, List.nil_append] at herror
    exact (hs.arises error herror).mono (hh.sublist.cons opening)
  | @abandoned opening ts mid error before _ hh =>
    intro error herror
    rw [errorsOf_sighted, errorsOf_append, hh.errorsOf_eq, errorsOf_abandoned,
      errorsOf_skipUntil] at herror
    cases List.mem_singleton.1 herror
    obtain ⟨kind, rfl⟩ := hh.exists_unexpectedToken rfl
    have hahead := List.singleton_sublist.1 (singleton_lookAhead_sublist size mid)
    have harises : SyntaxError.ArisesIn size mid (.unexpectedToken (lookAhead size mid) kind) :=
      .header hahead kind
    exact harises.mono (hh.sublist.cons opening)

/-- The errors of a source are about its tokens. -/
theorem arises_of_mem_errors {source : String} {error : SyntaxError}
    (h : error ∈ (parse source).errors) :
    error.ArisesIn (sourceSize source) (tokens source) := by
  rw [errors_parse, List.mem_append] at h
  rcases h with h | h
  · exact (readsUnit_parseUnit (sourceSize source) (tokens source)).arises error h
  · have hsuffix := (parseUnit (sourceSize source) (tokens source)).suffix
    generalize (parseUnit (sourceSize source) (tokens source)).rest = rest at h hsuffix
    cases rest with
    | nil => cases h
    | cons t rest =>
      cases List.mem_singleton.1 h
      exact .behind (hsuffix.subset (List.mem_cons_self ..))

/-! ## §2. Failures of runs. -/

/-- What the failure of a run is about: a node of the program, or nothing in it. -/
inductive RuntimeError.IsAbout (p : Program) : RuntimeError → Prop where
  | divisionByZero {opSpan node : Span} {left right : Expr}
      (here : .binary .div opSpan left right node ∈ p.body.nodes) :
      IsAbout p (.divisionByZero node)
  | overflow {op : Operator} {opSpan node : Span} {left right : Expr}
      (here : .binary op opSpan left right node ∈ p.body.nodes) (x y : Int32) :
      IsAbout p (.overflow op node x y)
  | undefinedVariable {name : String} {use : Span} (here : .reference name use ∈ p.body.nodes) :
      IsAbout p (.undefinedVariable name use)
  | operand {op : Operator} {opSpan node : Span} {left right : Expr}
      (here : .binary op opSpan left right node ∈ p.body.nodes) : IsAbout p (.incomplete opSpan)
  | body : IsAbout p (.incomplete p.span)
  /-- What is typed in and what the console does is not in the source. -/
  | outside {error : RuntimeError} (unlabelled : error.labels = []) : IsAbout p error

/-- Only a division has no result for a divisor 0. -/
theorem Operator.eq_div_of_apply {op : Operator} {x y : Int32}
    (h : op.apply x y = .error .zeroDivisor) : op = .div := by
  unfold apply at h
  split at h
  · next hdiv => exact hdiv.1
  · split at h
    · cases h
    · cases h

/-- The failure of an operation is about its node. -/
theorem RuntimeError.isAbout_of_apply {p : Program} {op : Operator} {opSpan node : Span}
    {left right : Expr} (here : .binary op opSpan left right node ∈ p.body.nodes) {x y : Int32}
    {error : RuntimeError} (h : (op.apply x y).mapError (.ofFault op node x y) = .error error) :
    error.IsAbout p := by
  cases ha : op.apply x y with
  | ok value =>
    rw [ha] at h
    cases h
  | error fault =>
    rw [ha] at h
    cases h
    cases fault with
    | zeroDivisor =>
      rw [Operator.eq_div_of_apply ha] at here
      exact .divisionByZero here
    | outOfRange => exact .overflow here x y

/-- The failure of an expression is about one of its nodes, or about its lack. -/
theorem Expr.isAbout_of_evaluate {p : Program} {e : Expr} {b : Bindings} {ifMissing : Span}
    {error : RuntimeError} (hsub : e.nodes ⊆ p.body.nodes)
    (hm : RuntimeError.IsAbout p (.incomplete ifMissing))
    (h : e.evaluate b ifMissing = .error error) : error.IsAbout p := by
  induction e generalizing ifMissing with
  | missing =>
    cases h
    exact hm
  | literal => cases h
  | reference name span =>
    unfold evaluate at h
    split at h
    · cases h
    · cases h
      exact .undefinedVariable (hsub (List.mem_singleton_self _))
  | binary op opSpan left right span ihl ihr =>
    have here : .binary op opSpan left right span ∈ p.body.nodes := hsub (List.mem_cons_self ..)
    have hl : left.nodes ⊆ p.body.nodes := fun x hx =>
      hsub (List.mem_cons_of_mem _ (List.mem_append_left _ hx))
    have hr : right.nodes ⊆ p.body.nodes := fun x hx =>
      hsub (List.mem_cons_of_mem _ (List.mem_append_right _ hx))
    rcases evaluate_binary_cases b op opSpan left right span ifMissing with
      ⟨err, hleft, he⟩ | ⟨x, err, -, hright, he⟩ | ⟨x, y, -, -, he⟩
    · cases he.symm.trans h
      exact ihl hl (.operand here) hleft
    · cases he.symm.trans h
      exact ihr hr (.operand here) hright
    · exact RuntimeError.isAbout_of_apply here (he.symm.trans h)

/-- An error from outside points at nothing, so it is about nothing in the program. -/
theorem RuntimeError.IsOutside.isAbout {error : RuntimeError} (h : error.IsOutside)
    (p : Program) : error.IsAbout p := by
  cases h with
  | line => exact .outside rfl
  | console => exact .outside rfl

namespace Session

variable {σ : Type} [Runtime σ] [LawfulRuntime σ] {p : Program} {s : Session σ}
  {error : RuntimeError}

/-- The failure of an evaluation is about the program, or nothing in it. -/
theorem isAbout_of_evaluate (h : (s.evaluate p).1 = .error error) : error.IsAbout p := by
  rcases s.askAll_cases p.declared with ⟨failure, t, hask⟩ | ⟨t, hask⟩
  · rw [evaluate_of_askAll_error hask] at h
    cases h
    exact (isOutside_of_askAll hask).isAbout p
  · rw [evaluate_of_askAll_ok hask] at h
    exact Expr.isAbout_of_evaluate (List.Subset.refl _) .body h

/-- So is the failure of a run, which can also fail to tell its result. -/
theorem isAbout_of_run (h : (s.run p).1 = .error error) : error.IsAbout p := by
  rcases evaluate_eq_error_of_run h with hfails | hout
  · exact isAbout_of_evaluate hfails
  · exact hout.isAbout p

end Session

end Calculator
