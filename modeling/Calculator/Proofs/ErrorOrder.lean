/-
  Calculator.Proofs.ErrorOrder
  ────────────────────────────
  **ERRORS COME IN SOURCE ORDER AND DO NOT PILE UP.**

  Behind an error, reading goes on at a token that it has not taken yet.  So a second error
  can be told at that token, and the question is who takes it: an operator is taken by the
  chain that the lost operand is in, and a closing parenthesis by the factor around it.  Only
  at the end of the source, and at a parenthesis that nothing has opened, the token stays.

  Over the rules of reading there are three invariants.  The errors are found at one token
  after the other of those that are taken, but for errors at the token ahead, of which there
  is at most one unless it is the end (`Reads.foundIn`).  Each parenthesis that is not closed
  is told of once, since its sum takes other tokens than what is around it
  (`Reads.openers_subperm`).  And each error but one has a token of its own among those that
  are taken (`Reads.length_errors_le`).

  Main statement: `errors_in_source_order`.
-/
import Mathlib.Data.List.Perm.Subperm
import Calculator.Proofs.Nesting
import Calculator.Proofs.Tracking

namespace Calculator

variable {size : Nat}

/-! ## §1. Where reading goes on behind an error. -/

/-- At a token that can follow an operand reading goes on at once. -/
theorem rest_recover_of_follows {t : Token} (h : t.kind.followsOperand = true)
    (error : SyntaxError) (ts : List Token) :
    (recover size error (t :: ts)).rest = t :: ts := by
  show (skipUntil size TokenKind.followsOperand 0 (t :: ts)).rest = t :: ts
  unfold skipUntil
  rw [if_pos h]

/-- Any other token is left out. -/
theorem rest_recover_suffix {t : Token} (h : t.kind.followsOperand = false)
    (error : SyntaxError) (ts : List Token) :
    (recover size error (t :: ts)).rest <:+ ts := by
  show (skipUntil size TokenKind.followsOperand 0 (t :: ts)).rest <:+ ts
  unfold skipUntil
  rw [if_neg (by simp [h])]
  exact (skipUntil size TokenKind.followsOperand (0 + 1) ts).suffix

/-- Where no operator can stand, only a closing parenthesis can follow an operand. -/
theorem TokenKind.eq_rightParen {kind : TokenKind} (h : kind.followsOperand = true)
    (hs : Layer.sum.operator? kind = none) (hp : Layer.product.operator? kind = none) :
    kind = .rightParen := by
  cases kind <;> simp_all [followsOperand, Layer.operator?]

/-! ## §2. Where errors are found. -/

/-- The errors at the token ahead that is not taken yet. -/
inductive Pending (size : Nat) : List Token → List SyntaxError → Prop where
  | nothing (rest : List Token) : Pending size rest []
  /-- An operand is missing in front of the token. -/
  | ahead {t : Token} {rest : List Token} (kind : t.kind.followsOperand = true) :
      Pending size (t :: rest) [.unexpectedInExpression t]
  /-- At the end there can be any number of errors. -/
  | atEnd {errors : List SyntaxError} (ends : ∀ e ∈ errors, e.found = .endOfInput size) :
      Pending size [] errors

/-- Where the tokens `ts` are read up to `rest`, the errors are found at one token after the
other of those that are taken, and then at the token ahead. -/
def FoundIn (size : Nat) (ts rest : List Token) (errors : List SyntaxError) : Prop :=
  ∃ before pending, errors = before ++ pending ∧
    (before.map SyntaxError.found ++ rest).Sublist ts ∧ Pending size rest pending

/-- As soon as the token ahead is taken, the errors at it count among the others. -/
theorem Pending.sublist {t : Token} {rest : List Token} {errors : List SyntaxError}
    (h : Pending size (t :: rest) errors) :
    (errors.map SyntaxError.found ++ rest).Sublist (t :: rest) := by
  cases h with
  | nothing => exact List.sublist_cons_self t rest
  | ahead => exact List.Sublist.refl _

/-- If nothing can follow an operand there, no error is told at the token ahead. -/
theorem Pending.eq_nil {t : Token} {rest : List Token} {errors : List SyntaxError}
    (h : Pending size (t :: rest) errors) (hk : t.kind.followsOperand = false) : errors = [] := by
  cases h with
  | nothing => rfl
  | ahead hf => rw [hk] at hf; cases hf

/-- At the end there can always be one error more. -/
theorem Pending.concat_atEnd {errors : List SyntaxError} (h : Pending size [] errors)
    {error : SyntaxError} (he : error.found = .endOfInput size) :
    Pending size [] (errors ++ [error]) := by
  refine .atEnd (List.forall_mem_append.2 ⟨?_, List.forall_mem_singleton.2 he⟩)
  cases h with
  | nothing => simp
  | atEnd hends => exact hends

namespace FoundIn

variable {t : Token} {ts us mid rest : List Token} {errors later : List SyntaxError}

theorem nil (hsub : rest.Sublist ts) : FoundIn size ts rest [] :=
  ⟨[], [], rfl, hsub, .nothing rest⟩

/-- Tokens may be taken in front. -/
theorem behind (h : FoundIn size ts rest errors) (hsub : ts.Sublist us) :
    FoundIn size us rest errors := by
  obtain ⟨before, pending, rfl, hb, hp⟩ := h
  exact ⟨before, pending, rfl, hb.trans hsub, hp⟩

/-- Errors at tokens in front come first. -/
theorem cons (hsub : (errors.map SyntaxError.found ++ ts).Sublist us)
    (h : FoundIn size ts rest later) : FoundIn size us rest (errors ++ later) := by
  obtain ⟨before, pending, rfl, hb, hp⟩ := h
  refine ⟨errors ++ before, pending, by simp, ?_, hp⟩
  rw [List.map_append, List.append_assoc]
  exact (hb.append_left _).trans hsub

/-- Reading in two parts: what the second part makes of the errors at the token ahead is
what becomes of them. -/
theorem append (h : FoundIn size ts mid errors)
    (h' : ∀ pending, Pending size mid pending → FoundIn size mid rest (pending ++ later)) :
    FoundIn size ts rest (errors ++ later) := by
  obtain ⟨before, pending, rfl, hb, hp⟩ := h
  rw [List.append_assoc]
  exact .cons hb (h' pending hp)

/-- As soon as the token ahead is taken, all errors are at tokens that are taken. -/
theorem sublist (h : FoundIn size ts (t :: rest) errors) :
    (errors.map SyntaxError.found ++ rest).Sublist ts := by
  obtain ⟨before, pending, rfl, hb, hp⟩ := h
  rw [List.map_append, List.append_assoc]
  exact (hp.sublist.append_left _).trans hb

end FoundIn

/-- Where the reader finds its errors; behind a left part there may already be some at the
token ahead. -/
def Reader.Finds (size : Nat) (ts rest : List Token) (errors : List SyntaxError) : Reader → Prop
  | operand _ => FoundIn size ts rest errors
  | chain _ => FoundIn size ts rest errors
  | extension _ _ =>
    ∀ pending, Pending size ts pending → FoundIn size ts rest (pending ++ errors)
  | factor => FoundIn size ts rest errors

/-- An error at the token ahead, behind which reading goes on. -/
theorem foundIn_recover (ts : List Token) (error : SyntaxError)
    (hf : error.found = lookAhead size ts)
    (hkind : ∀ t ∈ ts.head?, t.kind.followsOperand = true → error = .unexpectedInExpression t) :
    FoundIn size ts (recover size error ts).rest [error] := by
  cases ts with
  | nil => exact ⟨[], [error], rfl, List.Sublist.refl _, .atEnd (by simpa using hf)⟩
  | cons t ts =>
    cases hk : t.kind.followsOperand with
    | true =>
      rw [rest_recover_of_follows hk, hkind t rfl hk]
      exact ⟨[], _, rfl, List.Sublist.refl _, .ahead hk⟩
    | false =>
      refine ⟨[error], [], rfl, ?_, .nothing _⟩
      rw [List.map_singleton, hf, lookAhead_cons]
      exact (rest_recover_suffix hk error ts).sublist.cons_cons t

/-- The errors of reading an expression are found in the order of the tokens. -/
theorem Reads.foundIn {reader : Reader} {ts rest : List Token} {e : Expr} {events : List Event}
    (h : Reads size reader ts e rest events) : reader.Finds size ts rest (errorsOf events) := by
  induction h with
  | sumOperand _ ih => exact ih
  | productOperand _ ih => exact ih
  | chain _ _ ihf ihm =>
    rw [errorsOf_append]
    exact FoundIn.append ihf ihm
  | @stop layer left ts _ =>
    intro pending hp
    exact ⟨[], pending, by simp, List.Sublist.refl _, hp⟩
  | @extend layer left right e t op ts mid rest before after _ _ _ ihr ihm =>
    -- the operator is taken, with the error of an operand that is missing in front of it
    intro pending hp
    rw [errorsOf_sighted, errorsOf_append]
    exact FoundIn.cons hp.sublist (FoundIn.append ihr ihm)
  | @literal t ts => exact .nil (List.sublist_cons_self t ts)
  | @outOfRange t ts _ _ =>
    rw [errorsOf_sighted, errorsOf_recover]
    refine ⟨[_], [], rfl, ?_, .nothing _⟩
    exact (recover size (.numberOutOfRange t) ts).suffix.sublist.cons_cons t
  | @reference t ts => exact .nil (List.sublist_cons_self t ts)
  | @group opening closing ts rest inner events _ _ _ ih =>
    have hsum : FoundIn size ts (closing :: rest) (errorsOf events) := ih
    rw [errorsOf_sighted, errorsOf_append]
    refine ⟨errorsOf events, [], by simp, ?_, .nothing rest⟩
    exact hsum.sublist.cons opening
  | @unclosed opening ts mid inner events _ hsum hc ih =>
    rw [errorsOf_sighted, errorsOf_append, errorsOf_recover]
    have hin : FoundIn size ts mid (errorsOf events) := ih
    refine FoundIn.behind ?_ (List.sublist_cons_self opening ts)
    -- neither an operator nor the closing parenthesis is ahead, so no error is told there yet
    obtain ⟨hs, hp⟩ := hsum.no_operator
    apply hin.append
    intro pending hpending
    cases mid with
    | nil => exact ⟨[], _, rfl, List.Sublist.refl _, hpending.concat_atEnd rfl⟩
    | cons t mid =>
      have hk : t.kind.followsOperand = false := by
        apply Bool.eq_false_iff.2
        intro hfollows
        exact hc (TokenKind.eq_rightParen hfollows hs hp)
      rw [hpending.eq_nil hk]
      refine foundIn_recover _ _ rfl ?_
      intro u hu hfollows
      cases hu
      rw [hk] at hfollows
      cases hfollows
  | @unexpected ts _ =>
    rw [errorsOf_recover]
    refine foundIn_recover ts _ rfl ?_
    intro t ht _
    obtain ⟨us, rfl⟩ := List.head?_eq_some_iff.1 ht
    rfl

/-! ## §3. Parentheses that are not closed. -/

/-- The parenthesis that the error says is not closed. -/
def SyntaxError.opener? : SyntaxError → Option Token
  | unclosedParenthesis opener _ => some opener
  | unexpectedToken _ _ => none
  | unexpectedInExpression _ => none
  | trailingInput _ => none
  | numberOutOfRange _ => none

/-- The parentheses that errors say are not closed. -/
def openers (errors : List SyntaxError) : List Token := errors.filterMap SyntaxError.opener?

@[simp] theorem openers_append (errors later : List SyntaxError) :
    openers (errors ++ later) = openers errors ++ openers later :=
  List.filterMap_append

/-- The parentheses that are told of as not closed are among the tokens that are taken, each
of them told of once. -/
theorem Reads.openers_subperm {reader : Reader} {ts rest : List Token} {e : Expr}
    {events : List Event} (h : Reads size reader ts e rest events) :
    (openers (errorsOf events) ++ rest).Subperm ts := by
  induction h with
  | sumOperand _ ih => exact ih
  | productOperand _ ih => exact ih
  | chain _ _ ihf ihm =>
    rw [errorsOf_append, openers_append, List.append_assoc]
    exact ((List.subperm_append_left _).2 ihm).trans ihf
  | stop => exact List.Subperm.refl _
  | extend _ _ _ ihr ihm =>
    rw [errorsOf_sighted, errorsOf_append, openers_append, List.append_assoc]
    exact (((List.subperm_append_left _).2 ihm).trans ihr).cons_right _
  | literal => exact List.Subperm.cons_self
  | @outOfRange t ts _ _ =>
    rw [errorsOf_sighted, errorsOf_recover]
    exact (recover size (.numberOutOfRange t) ts).suffix.sublist.subperm.cons_right t
  | reference => exact List.Subperm.cons_self
  | @group opening closing ts rest inner events _ _ _ ih =>
    rw [errorsOf_sighted, errorsOf_append, errorsOf_sighted, errorsOf_nil, List.append_nil]
    have hclosing : (openers (errorsOf events) ++ rest).Subperm
        (openers (errorsOf events) ++ closing :: rest) :=
      (List.subperm_append_left _).2 List.Subperm.cons_self
    exact (hclosing.trans ih).cons_right opening
  | @unclosed opening ts mid inner events _ _ _ ih =>
    -- the parenthesis itself is none of the tokens that its sum takes
    rw [errorsOf_sighted, errorsOf_append, errorsOf_recover, openers_append, List.append_assoc]
    have hrest := (recover size (.unclosedParenthesis opening (lookAhead size mid)) mid).suffix
    have hmid := ((List.subperm_append_left (openers (errorsOf events))).2
      hrest.sublist.subperm).trans ih
    exact List.perm_middle.subperm.trans ((List.subperm_cons opening).2 hmid)
  | @unexpected ts _ =>
    rw [errorsOf_recover]
    exact (recover size (.unexpectedInExpression (lookAhead size ts)) ts).suffix.sublist.subperm

/-! ## §4. How many errors there can be. -/

/-- How many more errors than tokens the reader can have. -/
def Reader.slack : Reader → Nat
  | operand _ => 1
  | chain _ => 1
  | extension _ _ => 0
  | factor => 1

/-- Each error but one has a token of its own among those that are taken: the operator in
front of the operand, the parenthesis that is not closed, or the number itself. -/
theorem Reads.length_errors_le {reader : Reader} {ts rest : List Token} {e : Expr}
    {events : List Event} (h : Reads size reader ts e rest events) :
    (errorsOf events).length + rest.length ≤ ts.length + reader.slack := by
  induction h with
  | sumOperand _ ih => exact ih
  | productOperand _ ih => exact ih
  | chain _ _ ihf ihm =>
    -- only the first operand has no token in front of it
    simp only [errorsOf_append, List.length_append, Reader.slack] at ihf ihm ⊢
    omega
  | stop => simp [Reader.slack]
  | extend _ _ _ ihr ihm =>
    -- the operator makes up for the one error more that its operand can have
    simp only [errorsOf_sighted, errorsOf_append, List.length_append, List.length_cons,
      Reader.slack] at ihr ihm ⊢
    omega
  | literal =>
    simp only [errorsOf_sighted, errorsOf_nil, List.length_cons, List.length_nil, Reader.slack]
    omega
  | @outOfRange t ts _ _ =>
    have hle := (recover size (.numberOutOfRange t) ts).length_rest_le
    simp only [errorsOf_sighted, errorsOf_recover, List.length_cons, List.length_nil,
      Reader.slack]
    omega
  | reference =>
    simp only [errorsOf_sighted, errorsOf_nil, List.length_cons, List.length_nil, Reader.slack]
    omega
  | group _ _ _ ih =>
    simp only [errorsOf_sighted, errorsOf_append, errorsOf_nil, List.append_nil,
      List.length_cons, Reader.slack] at ih ⊢
    omega
  | @unclosed opening ts mid inner events _ _ _ ih =>
    have hle := (recover size (.unclosedParenthesis opening (lookAhead size mid))
      mid).length_rest_le
    simp only [errorsOf_sighted, errorsOf_append, errorsOf_recover, List.length_append,
      List.length_cons, List.length_nil, Reader.slack] at ih ⊢
    omega
  | @unexpected ts _ =>
    have hle := (recover size (.unexpectedInExpression (lookAhead size ts)) ts).length_rest_le
    simp only [errorsOf_recover, List.length_cons, List.length_nil, Reader.slack]
    omega

/-! ## §5. Programs. -/

/-- A declaration leaves some of its tokens. -/
theorem ReadsHeader.sublist {ts rest : List Token} {value : Except SyntaxError (List Declaration)}
    {events : List Event} (h : ReadsHeader size ts value rest events) : rest.Sublist ts := by
  induction h with
  | last => exact ((List.Sublist.refl _).cons _).cons _
  | more _ _ _ ih => exact (ih.cons _).cons _
  | noName => exact List.Sublist.refl _
  | noMark => exact List.sublist_cons_self _ _

/-- What holds of the errors of a program: they are found in the order of the tokens, each
parenthesis is told of once, and each error but one has a token of its own. -/
structure Orderly (size : Nat) (ts rest : List Token) (errors : List SyntaxError) : Prop where
  foundIn : FoundIn size ts rest errors
  openers_subperm : (openers errors ++ rest).Subperm ts
  length_le : errors.length + rest.length ≤ ts.length + 1

/-- Tokens may be taken in front. -/
theorem Orderly.behind {ts us rest : List Token} {errors : List SyntaxError}
    (h : Orderly size ts rest errors) (hsub : ts.Sublist us) : Orderly size us rest errors where
  foundIn := h.foundIn.behind hsub
  openers_subperm := h.openers_subperm.trans hsub.subperm
  length_le := by
    have hle := h.length_le
    have hsub := hsub.length_le
    omega

theorem Reads.orderly {ts rest : List Token} {e : Expr} {events : List Event}
    (h : Reads size (.chain .sum) ts e rest events) : Orderly size ts rest (errorsOf events) :=
  ⟨h.foundIn, h.openers_subperm, h.length_errors_le⟩

theorem ReadsUnit.orderly {ts rest : List Token} {program : Option Program} {events : List Event}
    (h : ReadsUnit size ts program rest events) : Orderly size ts rest (errorsOf events) := by
  cases h with
  | bare _ hs => exact hs.orderly
  | @declaring opening ts mid rest declared body before after _ hh hs =>
    rw [errorsOf_sighted, errorsOf_append, hh.errorsOf_eq, List.nil_append]
    exact hs.orderly.behind (hh.sublist.cons opening)
  | @abandoned opening ts mid error before _ hh =>
    rw [errorsOf_sighted, errorsOf_append, hh.errorsOf_eq, errorsOf_abandoned,
      errorsOf_skipUntil, rest_skipUntil_never, List.nil_append]
    obtain ⟨kind, rfl⟩ := hh.exists_unexpectedToken rfl
    refine Orderly.behind ⟨?_, List.nil_subperm, by simp⟩ (hh.sublist.cons opening)
    cases mid with
    | nil => exact ⟨[], _, rfl, List.Sublist.refl _, .atEnd (List.forall_mem_singleton.2 rfl)⟩
    | cons t mid =>
      -- the token is left out with all that is behind it
      refine ⟨[_], [], rfl, ?_, .nothing _⟩
      exact (List.nil_sublist mid).cons_cons t

/-! ## §6. Sources. -/

/-- The errors that are told last, all at one token: any errors at the end of the source, or
the one of the tokens behind the program, in front of which an operand can be missing. -/
inductive ToldLast (source : String) : Token → List SyntaxError → Prop where
  | atEnd {errors : List SyntaxError} (ends : ∀ e ∈ errors, e.found = endToken source) :
      ToldLast source (endToken source) errors
  | trailing (t : Token) : ToldLast source t [.trailingInput t]
  | parenthesis {t : Token} (kind : t.kind = .rightParen) :
      ToldLast source t [.unexpectedInExpression t, .trailingInput t]

/-- The errors of a source are found at one of its tokens after the other, but for those
that are told last. -/
theorem errors_cut (source : String) :
    ∃ before t last, (parse source).errors = before ++ last ∧
      (before.map SyntaxError.found ++ [t]).Sublist (scan source) ∧ ToldLast source t last := by
  have hunit := readsUnit_parseUnit (sourceSize source) (tokens source)
  obtain ⟨before, pending, he, hsub, hpending⟩ := hunit.orderly.foundIn
  obtain ⟨hs, hp⟩ := hunit.no_operator
  rw [errors_parse, he]
  generalize (parseUnit (sourceSize source) (tokens source)).rest = rest at hsub hpending hs hp
  cases rest with
  | nil =>
    refine ⟨before, endToken source, pending, by simp [trailing], ?_, ?_⟩
    · rw [List.append_nil] at hsub
      exact hsub.append (List.Sublist.refl _)
    · cases hpending with
      | nothing => exact .atEnd (by simp)
      | atEnd hends => exact .atEnd hends
  | cons t rest =>
    refine ⟨before, t, pending ++ [.trailingInput t], by simp [trailing, errorsOf, Event.error?],
      ?_, ?_⟩
    · have hfront : (before.map SyntaxError.found ++ [t]).Sublist
          (before.map SyntaxError.found ++ t :: rest) :=
        (List.singleton_sublist.2 (List.mem_cons_self ..)).append_left _
      exact (hfront.trans hsub).trans (List.sublist_append_left _ _)
    · cases hpending with
      | nothing => exact .trailing t
      | ahead hk => exact .parenthesis (TokenKind.eq_rightParen hk hs hp)

theorem ToldLast.found_eq {source : String} {t : Token} {errors : List SyntaxError}
    (h : ToldLast source t errors) : ∀ e ∈ errors, e.found = t := by
  cases h with
  | atEnd hends => exact hends
  | trailing => exact List.forall_mem_singleton.2 rfl
  | parenthesis => exact List.forall_mem_cons.2 ⟨rfl, List.forall_mem_singleton.2 rfl⟩

/-- The parentheses that are told of as not closed are tokens of the source, each of them
told of once. -/
theorem openers_parse_subperm (source : String) :
    (openers (parse source).errors).Subperm (tokens source) := by
  have hunit := (readsUnit_parseUnit (sourceSize source) (tokens source)).orderly.openers_subperm
  rw [errors_parse, openers_append]
  -- the error of the tokens behind the program tells of no parenthesis
  have hnil : openers (errorsOf
      (trailing (parseUnit (sourceSize source) (tokens source)).rest).events) = [] := by
    cases (parseUnit (sourceSize source) (tokens source)).rest with
    | nil => rfl
    | cons => rfl
  rw [hnil, List.append_nil]
  exact (List.sublist_append_left _ _).subperm.trans hunit

/-- A source has no more errors than tokens, the end being one of them. -/
theorem length_errors_le (source : String) :
    (parse source).errors.length ≤ (scan source).length := by
  have hunit := (readsUnit_parseUnit (sourceSize source) (tokens source)).orderly.length_le
  rw [errors_parse, scan, List.length_append, List.length_append, List.length_singleton]
  cases hrest : (parseUnit (sourceSize source) (tokens source)).rest with
  | nil =>
    rw [hrest] at hunit
    simpa [trailing] using hunit
  | cons t rest =>
    rw [hrest, List.length_cons] at hunit
    show _ + 1 ≤ _
    omega

/-- Each token of a source starts behind the start of those in front of it. -/
theorem pairwise_start_lt_scan (source : String) :
    (scan source).Pairwise fun t u => t.span.start < u.span.start := by
  have hordered : Ordered (scan source) :=
    (scans_tokensFrom 0 source.toList).pieces.isPartition.ordered
  obtain ⟨htokens, hend, hbefore⟩ := List.pairwise_append.1 hordered
  have hsolid := solid_tokens source
  refine List.pairwise_append.2 ⟨?_, List.pairwise_singleton _ _, ?_⟩
  · refine htokens.imp_of_mem ?_
    intro t u ht _ hle
    exact Nat.lt_of_lt_of_le (hsolid t ht) hle
  · intro t ht u hu
    exact Nat.lt_of_lt_of_le (hsolid t ht) (hbefore t ht u hu)

/-- An error is found in front of those that are told after it, or with them at one token:
at the end of the source, or at a closing parenthesis behind the program, in front of which
an operand is missing. -/
theorem pairwise_errors (source : String) :
    (parse source).errors.Pairwise fun e f =>
      e.found.span.start < f.found.span.start ∨
        e.found = f.found ∧ (e.found = endToken source ∨
          ∃ t, t.kind = .rightParen ∧ e = .unexpectedInExpression t ∧ f = .trailingInput t ∧
            (parse source).errors.getLast? = some f) := by
  obtain ⟨before, t, last, he, hsub, hlast⟩ := errors_cut source
  obtain ⟨hbefore, -, hcross⟩ :=
    List.pairwise_append.1 ((pairwise_start_lt_scan source).sublist hsub)
  rw [List.pairwise_map] at hbefore
  rw [he]
  refine List.pairwise_append.2 ⟨hbefore.imp .inl, ?_, ?_⟩
  · -- only errors that are told last share their token
    cases hlast with
    | atEnd hends =>
      apply List.pairwise_of_forall_mem_list
      intro e hmem f hf
      exact .inr ⟨(hends e hmem).trans (hends f hf).symm, .inl (hends e hmem)⟩
    | trailing => exact List.pairwise_singleton _ _
    | parenthesis hk =>
      exact List.pairwise_pair.2 (.inr ⟨rfl, .inr ⟨t, hk, rfl, rfl, by simp⟩⟩)
  · intro e hmem f hf
    have hlt := hcross _ (List.mem_map_of_mem hmem) t (List.mem_singleton_self t)
    rw [← hlast.found_eq f hf] at hlt
    exact .inl hlt

/-- No two parentheses that are told of as not closed stand at one place. -/
theorem nodup_openers_parse (source : String) :
    ((openers (parse source).errors).map Token.span).Nodup := by
  -- an inner parenthesis is told of before the one around it: these are tokens up to order
  obtain ⟨front, hperm, hfront⟩ := openers_parse_subperm source
  have hsublist : (front.map Token.span).Sublist ((scan source).map Token.span) :=
    (hfront.trans (List.sublist_append_left _ _)).map _
  have hnodup : ((scan source).map Token.span).Nodup := by
    rw [List.Nodup, List.pairwise_map]
    refine (pairwise_start_lt_scan source).imp ?_
    intro t u hlt heq
    rw [heq] at hlt
    exact Nat.lt_irrefl _ hlt
  exact (hperm.map Token.span).nodup_iff.1 (hnodup.sublist hsublist)

/-- **ERRORS COME IN SOURCE ORDER AND DO NOT PILE UP.**  The places at which the errors of a
source are found never go back.  No parenthesis is told of twice as not closed.  Two errors
are found at one place only if it is the end of the source, or if it is that of a closing
parenthesis behind the program, in front of which an operand is missing; then the error of
the tokens behind the program is the second of them, and the last of all.  And there are no
more errors than tokens. -/
theorem errors_in_source_order (source : String) :
    ((parse source).errors.Pairwise fun e f => e.found.span.start ≤ f.found.span.start) ∧
      ((openers (parse source).errors).map Token.span).Nodup ∧
      ((parse source).errors.Pairwise fun e f => e.found.span = f.found.span →
        e.found.span = (endToken source).span ∨
          ∃ t, t.kind = .rightParen ∧ e = .unexpectedInExpression t ∧ f = .trailingInput t ∧
            (parse source).errors.getLast? = some f) ∧
      (parse source).errors.length ≤ (scan source).length := by
  refine ⟨(pairwise_errors source).imp ?_, nodup_openers_parse source,
    (pairwise_errors source).imp ?_, length_errors_le source⟩
  · rintro e f (hlt | ⟨heq, -⟩)
    · exact Nat.le_of_lt hlt
    · exact Nat.le_of_eq (by rw [heq])
  · rintro e f (hlt | ⟨-, hend | hparenthesis⟩) heq
    · rw [heq] at hlt
      exact absurd hlt (Nat.lt_irrefl _)
    · exact .inl (congrArg Token.span hend)
    · exact .inr hparenthesis

end Calculator
