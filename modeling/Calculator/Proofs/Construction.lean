/-
  Calculator.Proofs.Construction
  ──────────────────────────────
  **WHICH TREE THE TOKENS BUILD.**

  The rules of the grammar once more, but with the tree that reading makes, places and all
  (`Builds`, `BuildsProgram`).  A chain of operands is taken apart at its last operator, as
  the tree is, so every part of a tree is built by a derivation of its own.

  The two directions need different inductions.  From reading to building it is on the rules
  of reading, where a chain in the making hands its left part over (`Reader.Built`).  From
  building to reading it is on the derivation, where a chain must leave open what comes
  behind it: it says what any extension of the chain makes of the whole (`LeavesOpen`).

  Main statement: `parse_builds_iff`.
-/
import Calculator.Proofs.Grammar
import Calculator.Proofs.Reading.Program

namespace Calculator

variable {size : Nat}

/-! ## §1. The rules. -/

/-- The tokens derive from the phrase and build the expression. -/
inductive Builds : Phrase → List Token → Expr → Prop where
  | name {t : Token} (kind : t.kind = .identifier) :
      Builds .factor [t] (.reference t.text t.span)
  | number {t : Token} {value : Int32} (kind : t.kind = .number)
      (fits : Number.read? t.text.toList = some value) :
      Builds .factor [t] (.literal value t.text t.span)
  | parentheses {opening closing : Token} {ts : List Token} {e : Expr}
      (opens : opening.kind = .leftParen) (sum : Builds .sum ts e)
      (closes : closing.kind = .rightParen) :
      Builds .factor (opening :: (ts ++ [closing]))
        (e.parenthesized (opening.span.hull closing.span))
  /-- An operand of a layer is a chain of it. -/
  | first {layer : Layer} {ts : List Token} {e : Expr}
      (operand : Builds layer.operand ts e) : Builds layer.phrase ts e
  /-- A chain of a layer with one more operator and operand of it is a chain of it. -/
  | extend {layer : Layer} {t : Token} {op : Operator} {ts us : List Token} {e f : Expr}
      (left : Builds layer.phrase ts e) (mark : layer.operator? t.kind = some op)
      (right : Builds layer.operand us f) :
      Builds layer.phrase (ts ++ t :: us) (.ofOperands op t.span e f)

/-- The tokens are the declared names with commas between them and a colon behind the
last. -/
inductive BuildsHeader : List Token → List Declaration → Prop where
  | last {name mark : Token} (kind : name.kind = .identifier) (colon : mark.kind = .colon) :
      BuildsHeader [name, mark] [⟨name.text, name.span⟩]
  | more {name mark : Token} {ts : List Token} {declared : List Declaration}
      (kind : name.kind = .identifier) (comma : mark.kind = .comma)
      (later : BuildsHeader ts declared) :
      BuildsHeader (name :: mark :: ts) (⟨name.text, name.span⟩ :: declared)

/-- The tokens derive a program and build it. -/
inductive BuildsProgram : List Token → Program → Prop where
  | bare {ts : List Token} {body : Expr} (present : body ≠ .missing)
      (sum : Builds .sum ts body) : BuildsProgram ts (.bare body present)
  | declaring {opening : Token} {ts us : List Token} {declared : List Declaration} {body : Expr}
      (kind : opening.kind = .withKeyword) (header : BuildsHeader ts declared)
      (sum : Builds .sum us body) :
      BuildsProgram (opening :: (ts ++ us)) (.declaring opening.span declared body)

/-- What is built has no hole at its root. -/
theorem Builds.ne_missing {phrase : Phrase} {ts : List Token} {e : Expr}
    (h : Builds phrase ts e) : e ≠ .missing := by
  induction h with
  | name => simp
  | number => simp
  | parentheses _ _ _ ih => exact mt Expr.parenthesized_eq_missing_iff.1 ih
  | first _ ih => exact ih
  | extend => simp [Expr.ofOperands]

/-- A phrase starts with a number, a variable or a parenthesis. -/
theorem Builds.exists_cons {phrase : Phrase} {ts : List Token} {e : Expr}
    (h : Builds phrase ts e) : ∃ t us, ts = t :: us ∧ t.kind.startsFactor = true := by
  induction h with
  | @name t hk => exact ⟨t, [], rfl, by rw [hk]; rfl⟩
  | @number t _ hk => exact ⟨t, [], rfl, by rw [hk]; rfl⟩
  | @parentheses opening closing ts _ ho => exact ⟨opening, ts ++ [closing], rfl, by rw [ho]; rfl⟩
  | first _ ih => exact ih
  | extend _ _ _ ih =>
    obtain ⟨t, us, rfl, ht⟩ := ih
    exact ⟨t, _, rfl, ht⟩

/-- What any phrase builds, a sum builds. -/
theorem Builds.toSum {phrase : Phrase} {ts : List Token} {e : Expr} (h : Builds phrase ts e) :
    Builds .sum ts e := by
  cases phrase with
  | factor =>
    have hproduct : Builds Layer.product.phrase ts e := .first h
    have hsum : Builds Layer.sum.phrase ts e := .first hproduct
    exact hsum
  | product =>
    have hsum : Builds Layer.sum.phrase ts e := .first h
    exact hsum
  | sum => exact h

/-! ## §2. From reading to building. -/

/-- The tokens `us` build what the reader has made of them; behind a left part that is
built by other tokens, both together build it. -/
def Reader.Built (us : List Token) (e : Expr) : Reader → Prop
  | operand layer => Builds layer.operand us e
  | chain layer => Builds layer.phrase us e
  | extension layer left =>
    ∀ ls, Builds layer.phrase ls left → Builds layer.phrase (ls ++ us) e
  | factor => Builds .factor us e

/-- What a reader makes of tokens without an error is built by them. -/
theorem Reads.builds {reader : Reader} {ts rest : List Token} {e : Expr} {events : List Event}
    (h : Reads size reader ts e rest events) (he : errorsOf events = []) :
    ∃ us, ts = us ++ rest ∧ reader.Built us e := by
  induction h with
  | sumOperand _ ih =>
    obtain ⟨us, rfl, hu⟩ := ih he
    exact ⟨us, rfl, hu⟩
  | productOperand _ ih =>
    obtain ⟨us, rfl, hu⟩ := ih he
    exact ⟨us, rfl, hu⟩
  | chain _ _ ihf ihm =>
    simp only [errorsOf_append, List.append_eq_nil_iff] at he
    obtain ⟨us, rfl, hu⟩ := ihf he.1
    obtain ⟨vs, rfl, hv⟩ := ihm he.2
    -- the first operand is the left part of what extends it
    exact ⟨us ++ vs, (List.append_assoc us vs _).symm, hv us (.first hu)⟩
  | stop =>
    refine ⟨[], rfl, ?_⟩
    intro ls hl
    rwa [List.append_nil]
  | @extend layer left right e t op ts mid rest before after hop _ _ ihr ihm =>
    simp only [errorsOf_sighted, errorsOf_append, List.append_eq_nil_iff] at he
    obtain ⟨us, rfl, hu⟩ := ihr he.1
    obtain ⟨vs, rfl, hv⟩ := ihm he.2
    refine ⟨t :: (us ++ vs), by simp, ?_⟩
    intro ls hl
    -- the left part grows by the operator and its right operand
    have hwhole := hv (ls ++ t :: us) (.extend hl hop hu)
    rwa [List.append_assoc, List.cons_append] at hwhole
  | @literal t ts value hk hv => exact ⟨[t], rfl, .number hk hv⟩
  -- here and below, an operand that is lost is an error
  | outOfRange => simp at he
  | @reference t ts hk => exact ⟨[t], rfl, .name hk⟩
  | @group opening closing ts rest inner events hk _ hc ih =>
    simp only [errorsOf_sighted, errorsOf_append, errorsOf_nil, List.append_nil] at he
    obtain ⟨us, rfl, hu⟩ := ih he
    exact ⟨opening :: (us ++ [closing]), by simp, .parentheses hk hu hc⟩
  | unclosed => simp at he
  | unexpected => simp at he

/-- Declared variables that are read are built. -/
theorem ReadsHeader.builds {ts rest : List Token} {value : Except SyntaxError (List Declaration)}
    {events : List Event} (h : ReadsHeader size ts value rest events)
    {declared : List Declaration} (hv : value = .ok declared) :
    ∃ us, ts = us ++ rest ∧ BuildsHeader us declared := by
  induction h generalizing declared with
  | @last name mark ts hn hc =>
    cases hv
    exact ⟨[name, mark], rfl, .last hn hc⟩
  | @more name mark ts rest value events hn hm _ ih =>
    cases value with
    | error error => cases hv
    | ok later =>
      cases hv
      obtain ⟨us, rfl, hu⟩ := ih rfl
      exact ⟨name :: mark :: us, rfl, .more hn hm hu⟩
  | noName => cases hv
  | noMark => cases hv

/-- A program that is read of tokens without an error is built by them. -/
theorem ReadsUnit.builds {ts rest : List Token} {program : Option Program}
    {events : List Event} (h : ReadsUnit size ts program rest events)
    (he : errorsOf events = []) :
    ∃ us p, ts = us ++ rest ∧ program = some p ∧ BuildsProgram us p := by
  cases h with
  | @bare _ _ body _ _ hs =>
    obtain ⟨us, rfl, hu⟩ := hs.builds he
    exact ⟨us, _, rfl, Program.ofExpr?_of_ne hu.ne_missing, .bare hu.ne_missing hu⟩
  | @declaring opening ts mid rest declared body before after hw hh hs =>
    simp only [errorsOf_sighted, errorsOf_append, List.append_eq_nil_iff] at he
    obtain ⟨us, rfl, hu⟩ := hh.builds rfl
    obtain ⟨vs, rfl, hv⟩ := hs.builds he.2
    exact ⟨opening :: (us ++ vs), _, by simp, rfl, .declaring hw hu hv⟩
  | abandoned => simp at he

/-! ## §3. From building to reading. -/

/-- Without an error the reader makes `e` of the tokens `ts` and leaves `rest`. -/
def Accepts (size : Nat) (reader : Reader) (ts : List Token) (e : Expr)
    (rest : List Token) : Prop :=
  ∃ events, Reads size reader ts e rest events ∧ errorsOf events = []

/-- No operator stands ahead that an operand of the layer would take. -/
def NoTighter (size : Nat) (layer : Layer) (rest : List Token) : Prop :=
  layer = .sum → Layer.product.operator? (lookAhead size rest).kind = none

theorem noTighter_product (size : Nat) (rest : List Token) : NoTighter size .product rest := by
  intro h
  cases h

/-- In front of an operator of the layer no tighter one stands. -/
theorem noTighter_cons {layer : Layer} {t : Token} {op : Operator}
    (h : layer.operator? t.kind = some op) (rest : List Token) :
    NoTighter size layer (t :: rest) := by
  rintro rfl
  rw [lookAhead_cons]
  rcases Layer.operator?_sum_eq_some_iff.1 h with ⟨hk, -⟩ | ⟨hk, -⟩
  · rw [hk]
    rfl
  · rw [hk]
    rfl

/-- Whatever stands behind the tokens `us`, reading a chain makes `e` of them first, so
that what extends `e` extends the chain. -/
def LeavesOpen (size : Nat) (layer : Layer) (us : List Token) (e : Expr) : Prop :=
  ∀ rest, NoTighter size layer rest →
    ∃ before, errorsOf before = [] ∧
      ∀ {whole : Expr} {out : List Token} {after : List Event},
        Reads size (.extension layer e) rest whole out after →
          Reads size (.chain layer) (us ++ rest) whole out (before ++ after)

/-- How tokens that build an expression of the phrase are read. -/
def Phrase.IsAccepted (size : Nat) (us : List Token) (e : Expr) : Phrase → Prop
  | factor => ∀ rest, Accepts size .factor (us ++ rest) e rest
  | product => LeavesOpen size .product us e
  | sum => LeavesOpen size .sum us e

theorem isAccepted_phrase_iff {layer : Layer} {us : List Token} {e : Expr} :
    layer.phrase.IsAccepted size us e ↔ LeavesOpen size layer us e := by
  cases layer <;> exact Iff.rfl

/-- A chain that is left open is read as a whole where no operator of its layer follows. -/
theorem LeavesOpen.accepts {layer : Layer} {us rest : List Token} {e : Expr}
    (h : LeavesOpen size layer us e) (ht : NoTighter size layer rest)
    (hl : layer.operator? (lookAhead size rest).kind = none) :
    Accepts size (.chain layer) (us ++ rest) e rest := by
  obtain ⟨before, hb, hext⟩ := h rest ht
  exact ⟨before ++ [], hext (.stop hl), by simpa using hb⟩

/-- What is accepted of an operand of a layer is read where no tighter operator follows. -/
theorem Phrase.IsAccepted.operand {layer : Layer} {us rest : List Token} {e : Expr}
    (h : layer.operand.IsAccepted size us e) (ht : NoTighter size layer rest) :
    Accepts size (.operand layer) (us ++ rest) e rest := by
  cases layer with
  | product =>
    obtain ⟨events, hread, he⟩ := h rest
    exact ⟨events, .productOperand hread, he⟩
  | sum =>
    have hproduct : LeavesOpen size .product us e := h
    obtain ⟨events, hread, he⟩ := hproduct.accepts (noTighter_product _ _) (ht rfl)
    exact ⟨events, .sumOperand hread, he⟩

/-- What builds an expression is read as it. -/
theorem Builds.isAccepted {phrase : Phrase} {us : List Token} {e : Expr}
    (h : Builds phrase us e) (size : Nat) : phrase.IsAccepted size us e := by
  induction h with
  | name hk =>
    intro rest
    exact ⟨_, .reference hk, rfl⟩
  | number hk hv =>
    intro rest
    exact ⟨_, .literal hk hv, rfl⟩
  | @parentheses opening closing ts e ho _ hc ih =>
    intro rest
    have hsum : LeavesOpen size .sum ts e := ih
    -- behind the sum stands the closing parenthesis, which is no operator
    have hnone : ∀ layer : Layer,
        layer.operator? (lookAhead size (closing :: rest)).kind = none := by
      intro layer
      rw [lookAhead_cons, hc]
      cases layer <;> rfl
    obtain ⟨events, hread, he⟩ := hsum.accepts (fun _ => hnone .product) (hnone .sum)
    have hgroup := Reads.group ho hread hc
    refine ⟨_, by simpa using hgroup, ?_⟩
    simp [he]
  | first _ ih =>
    apply isAccepted_phrase_iff.2
    intro rest ht
    obtain ⟨events, hread, he⟩ := ih.operand ht
    exact ⟨events, he, fun hmore => .chain hread hmore⟩
  | @extend layer t op ts us e f _ hmark _ ihl ihr =>
    apply isAccepted_phrase_iff.2
    intro rest ht
    obtain ⟨before, hb, hext⟩ :=
      isAccepted_phrase_iff.1 ihl (t :: (us ++ rest)) (noTighter_cons hmark _)
    obtain ⟨events, hread, he⟩ := ihr.operand ht
    refine ⟨before ++ .sighted (lookAhead size (us ++ rest)) :: events, ?_, ?_⟩
    · simp [hb, he]
    · intro whole out after hmore
      have hwhole := hext (.extend hmark hread hmore)
      simpa using hwhole

/-- What builds declared variables is read as them. -/
theorem BuildsHeader.readsHeader {us : List Token} {declared : List Declaration}
    (h : BuildsHeader us declared) (size : Nat) (rest : List Token) :
    ∃ events, ReadsHeader size (us ++ rest) (.ok declared) rest events := by
  induction h with
  | last hn hc => exact ⟨_, .last hn hc⟩
  | more hn hm _ ih =>
    obtain ⟨events, hread⟩ := ih
    exact ⟨_, .more hn hm hread⟩

/-- What builds a program is read as it, and nothing is left. -/
theorem BuildsProgram.readsUnit {ts : List Token} {p : Program} (h : BuildsProgram ts p)
    (size : Nat) : ∃ events, ReadsUnit size ts (some p) [] events ∧ errorsOf events = [] := by
  -- behind the whole source there is no operator
  have ht : NoTighter size .sum [] := by
    intro _
    rfl
  cases h with
  | @bare _ body present hs =>
    have hsum : LeavesOpen size .sum ts body := hs.isAccepted size
    obtain ⟨events, hread, he⟩ := hsum.accepts ht rfl
    rw [List.append_nil] at hread
    -- a phrase does not start with the word of a declaration
    have hstart : (lookAhead size ts).kind ≠ .withKeyword := by
      obtain ⟨t, us, rfl, hk⟩ := hs.exists_cons
      intro hw
      rw [lookAhead_cons] at hw
      rw [hw] at hk
      cases hk
    refine ⟨events, ?_, he⟩
    rw [← Program.ofExpr?_of_ne present]
    exact .bare hstart hread
  | @declaring opening us vs declared body hw hh hs =>
    obtain ⟨before, hdeclared⟩ := hh.readsHeader size vs
    have hsum : LeavesOpen size .sum vs body := hs.isAccepted size
    obtain ⟨events, hread, he⟩ := hsum.accepts ht rfl
    rw [List.append_nil] at hread
    refine ⟨_, .declaring hw hdeclared hread, ?_⟩
    simp [hdeclared.errorsOf_eq, he]

/-! ## §4. Sources. -/

/-- A source is read without an error as a program exactly if its tokens build it. -/
theorem parse_builds_iff {source : String} {p : Program} :
    (parse source).errors = [] ∧ (parse source).program = some p ↔
      BuildsProgram (tokens source) p := by
  constructor
  · rintro ⟨he, hp⟩
    rw [errors_parse, List.append_eq_nil_iff, errorsOf_trailing_eq_nil_iff] at he
    obtain ⟨us, q, hus, hq, hbuilds⟩ :=
      (readsUnit_parseUnit (sourceSize source) (tokens source)).builds he.1
    -- no error behind the program means that nothing is left there
    rw [he.2, List.append_nil] at hus
    subst hus
    cases hp.symm.trans hq
    exact hbuilds
  · intro h
    obtain ⟨events, hread, he⟩ := h.readsUnit (sourceSize source)
    obtain ⟨hvalue, hrest, hevents⟩ := hread.parseUnit_eq
    refine ⟨?_, hvalue⟩
    rw [errors_parse, hevents, hrest, he]
    rfl

/-- A source without errors has a program. -/
theorem exists_builds_of_errors_eq_nil {source : String} (h : (parse source).errors = []) :
    ∃ p, (parse source).program = some p ∧ BuildsProgram (tokens source) p := by
  have he := h
  rw [errors_parse, List.append_eq_nil_iff] at he
  obtain ⟨us, p, -, hp, -⟩ :=
    (readsUnit_parseUnit (sourceSize source) (tokens source)).builds he.1
  exact ⟨p, hp, parse_builds_iff.1 ⟨h, hp⟩⟩

end Calculator
