/-
  Calculator.Proofs.Pointing
  ──────────────────────────
  **EVERY REPORT POINTS AT THE TEXT IT NAMES.**

  What is told of a source has labels that point into it, and each stage takes its places from
  somewhere else: a reader from the tokens around the error, the check and an evaluation from
  the nodes of the tree.  Tokens have their texts at their places, and so has a variable, but
  for the parentheses that may be around it (`Salvages.wrapped`).  Everything else reaches from
  the start of one token to the stop of another.

  Main statement: `reports_point_at_what_they_name`.
-/
import Calculator.Proofs.Layout
import Calculator.Proofs.Listing
import Calculator.Proofs.Origins

namespace Calculator

open Text (width)

/-! ## §1. Where syntax errors point. -/

/-- All labels are in the source, from one character boundary to another. -/
def AreIn (source : String) (labels : List Label) : Prop :=
  ∀ label ∈ labels, ∃ text, label.span.text? source = some text

/-- A token that a message refers to: it is one of the source, named by its text in quotes, or
the end of the source, with the empty place there. -/
inductive IsShown (source : String) (t : Token) : Prop where
  | token (mem : t ∈ tokens source) (here : t.span.text? source = some t.text)
      (named : t.describe = "'" ++ t.text ++ "'")
  | atEnd (eq : t = endToken source) (here : t.span = ⟨width source.toList, 0⟩)
      (named : t.describe = "end of input")

/-- What a syntax error says of its places is so. -/
inductive SyntaxError.PointsAt (source : String) : SyntaxError → Prop where
  | unexpectedToken {found : Token} (shown : IsShown source found) (expected : TokenKind) :
      PointsAt source (.unexpectedToken found expected)
  | unexpectedInExpression {found : Token} (shown : IsShown source found) :
      PointsAt source (.unexpectedInExpression found)
  | unclosedParenthesis {opener found : Token} (shown : IsShown source found)
      (opens : opener.span.text? source = some "(") (order : opener.span.stop ≤ found.span.start) :
      PointsAt source (.unclosedParenthesis opener found)
  | trailingInput {found : Token} (shown : IsShown source found)
      (kind : found.kind ≠ .endOfInput) : PointsAt source (.trailingInput found)
  | numberOutOfRange {found : Token} (shown : IsShown source found) (kind : found.kind = .number)
      (here : found.span.text? source = some found.text) :
      PointsAt source (.numberOutOfRange found)

theorem isShown_of_mem_tokens {source : String} {t : Token} (h : t ∈ tokens source) :
    IsShown source t := by
  refine .token h (text?_span_of_mem_tokens h) ?_
  have hkind := kind_ne_endOfInput_of_mem_tokensFrom h
  unfold Token.describe
  split
  · next hend => exact absurd hend hkind
  · rfl

theorem isShown_of_mem_scan {source : String} {t : Token} (h : t ∈ scan source) :
    IsShown source t := by
  rcases List.mem_append.1 h with h | h
  · exact isShown_of_mem_tokens h
  · cases List.mem_singleton.1 h
    exact .atEnd rfl rfl rfl

theorem IsShown.exists_text {source : String} {t : Token} (h : IsShown source t) :
    ∃ text, t.span.text? source = some text := by
  cases h with
  | token _ here _ => exact ⟨t.text, here⟩
  | atEnd _ here _ =>
    refine ⟨"", Span.text?_eq_some_iff.2 ⟨source.toList, [], ?_, here⟩⟩
    simp

/-- A token of the kind of a character that stands for itself is written so. -/
theorem HasKind.eq_mark {text : List Char} {kind : TokenKind} {c : Char} (h : HasKind text kind)
    (hm : (c, kind) ∈ marks) : text = [c] := by
  simp only [marks, List.mem_cons, Prod.mk.injEq, List.not_mem_nil, or_false] at hm
  rcases hm with ⟨rfl, rfl⟩ | ⟨rfl, rfl⟩ | ⟨rfl, rfl⟩ | ⟨rfl, rfl⟩ | ⟨rfl, rfl⟩ | ⟨rfl, rfl⟩ |
    ⟨rfl, rfl⟩ | ⟨rfl, rfl⟩ <;> cases h with | mark mem => simpa [marks] using mem

theorem HasKind.word_of_leftParen {t : Token} (h : HasKind t.text.toList t.kind)
    (hk : t.kind = .leftParen) : t.word = (.leftParen, "(") := by
  rw [hk] at h
  have hchars : t.text.toList = ['('] := h.eq_mark (by simp [marks])
  have htext : t.text = "(" := String.toList_inj.1 hchars
  rw [Token.word, hk, htext]

theorem HasKind.word_of_rightParen {t : Token} (h : HasKind t.text.toList t.kind)
    (hk : t.kind = .rightParen) : t.word = (.rightParen, ")") := by
  rw [hk] at h
  have hchars : t.text.toList = [')'] := h.eq_mark (by simp [marks])
  have htext : t.text = ")" := String.toList_inj.1 hchars
  rw [Token.word, hk, htext]

/-- An error that is about the tokens of a source points at them. -/
theorem SyntaxError.ArisesIn.pointsAt {source : String} {error : SyntaxError}
    (h : error.ArisesIn (sourceSize source) (tokens source)) : error.PointsAt source := by
  cases h with
  | header ahead expected => exact .unexpectedToken (isShown_of_mem_scan ahead) expected
  | operand ahead => exact .unexpectedInExpression (isShown_of_mem_scan ahead)
  | @parenthesis opener found opens order =>
    have horder : [opener, found].Sublist (scan source) := order
    have hfound : found ∈ scan source := horder.subset (by simp)
    -- the end is no parenthesis, so the one that opens is a token
    have hopener : opener ∈ tokens source := by
      rcases List.mem_append.1 (horder.subset (List.mem_cons_self ..)) with hmem | hmem
      · exact hmem
      · rw [List.mem_singleton.1 hmem] at opens
        cases opens
    have hword := (hasKind_of_mem_tokens hopener).word_of_leftParen opens
    have htext : opener.text = "(" := congrArg Prod.snd hword
    have hordered : Ordered (scan source) :=
      (scans_tokensFrom 0 source.toList).pieces.isPartition.ordered
    have hpair := hordered.sublist horder
    refine .unclosedParenthesis (isShown_of_mem_scan hfound) ?_
      ((List.pairwise_cons.1 hpair).1 found (List.mem_singleton_self found))
    rw [text?_span_of_mem_tokens hopener, htext]
  | number kind mem =>
    exact .numberOutOfRange (isShown_of_mem_tokens mem) kind (text?_span_of_mem_tokens mem)
  | behind mem =>
    exact .trailingInput (isShown_of_mem_tokens mem) (kind_ne_endOfInput_of_mem_tokensFrom mem)

/-- The labels of an error are where it points. -/
theorem SyntaxError.PointsAt.labels {source : String} {error : SyntaxError}
    (h : error.PointsAt source) : AreIn source error.labels := by
  cases h with
  | unexpectedToken shown => exact List.forall_mem_singleton.2 shown.exists_text
  | unexpectedInExpression shown => exact List.forall_mem_singleton.2 shown.exists_text
  | unclosedParenthesis shown opens =>
    exact List.forall_mem_cons.2 ⟨⟨_, opens⟩, List.forall_mem_singleton.2 shown.exists_text⟩
  | trailingInput shown => exact List.forall_mem_singleton.2 shown.exists_text
  | numberOutOfRange shown => exact List.forall_mem_singleton.2 shown.exists_text

/-! ## §2. Where problems point. -/

/-- A variable called `name` in `n` pairs of parentheses, word by word. -/
def wrapped (n : Nat) (name : String) : List (TokenKind × String) :=
  List.replicate n (.leftParen, "(") ++ (.identifier, name) :: List.replicate n (.rightParen, ")")

/-- What a problem says of its places is so. -/
inductive SemanticError.PointsAt (source : String) : SemanticError → Prop where
  /-- The first of two variables of one name is in front of the other. -/
  | alreadyDeclared {name : String} {again first : Span} (here : again.text? source = some name)
      (there : first.text? source = some name) (nonempty : first.start < first.stop)
      (order : first.stop ≤ again.start) : PointsAt source (.alreadyDeclared name again first)
  /-- The variable is there, maybe in parentheses. -/
  | notDeclared {name text : String} {use : Span} {n : Nat} (here : use.text? source = some text)
      (word : (tokens text).map Token.word = wrapped n name) :
      PointsAt source (.notDeclared name use)
  | missingOperand {op : Operator} {opSpan : Span} (here : opSpan.text? source = some op.symbol) :
      PointsAt source (.missingOperand op opSpan)
  | missingBody {declaration : Span} {text : String}
      (here : declaration.text? source = some text) : PointsAt source (.missingBody declaration)
  | missingProgram : PointsAt source .missingProgram

theorem SemanticError.PointsAt.labels {source : String} {problem : SemanticError}
    (h : problem.PointsAt source) : AreIn source problem.labels := by
  cases h with
  | alreadyDeclared here there =>
    exact List.forall_mem_cons.2 ⟨⟨_, here⟩, List.forall_mem_singleton.2 ⟨_, there⟩⟩
  | notDeclared here => exact List.forall_mem_singleton.2 ⟨_, here⟩
  | missingOperand here => exact List.forall_mem_singleton.2 ⟨_, here⟩
  | missingBody here => exact List.forall_mem_singleton.2 ⟨_, here⟩
  | missingProgram => exact List.forall_mem_nil _

/-- One pair of parentheses more stands around the others. -/
theorem wrapped_succ (n : Nat) (name : String) :
    wrapped (n + 1) name = (.leftParen, "(") :: (wrapped n name ++ [(.rightParen, ")")]) := by
  unfold wrapped
  rw [List.replicate_succ, List.replicate_succ']
  simp

/-- What is made of tokens that a variable is made of: they are the variable in parentheses,
and its place reaches from the first of them to the last. -/
theorem Salvages.wrapped {phrase : Phrase} {ts : List Token} {name : String} {span : Span}
    (h : Salvages phrase ts (.reference name span)) (ho : Ordered ts)
    (hk : ∀ t ∈ ts, HasKind t.text.toList t.kind) :
    (∃ n, ts.map Token.word = Calculator.wrapped n name) ∧ Covers span ts := by
  generalize he : Expr.reference name span = e at h
  induction h generalizing name span with
  | lost => cases he
  | @name t kind =>
    cases he
    refine ⟨⟨0, ?_⟩, covers_singleton t⟩
    show [(t.kind, t.text)] = _
    rw [kind]
    rfl
  | number => cases he
  | @parentheses opening closing ts e hopens _ hcloses ih =>
    have hmiddle : Ordered ts := (List.pairwise_append.1 (List.pairwise_cons.1 ho).2).1
    have hkinds : ∀ t ∈ ts, HasKind t.text.toList t.kind := fun t ht => hk t (by simp [ht])
    -- what they stand around is the variable with fewer parentheses
    obtain ⟨inner, rfl, rfl⟩ : ∃ inner, e = .reference name inner ∧
        span = opening.span.hull closing.span := by
      cases e with
      | reference =>
        cases he
        exact ⟨_, rfl, rfl⟩
      | missing => cases he
      | literal => cases he
      | binary => cases he
    obtain ⟨⟨n, hwords⟩, -⟩ := ih hmiddle hkinds rfl
    constructor
    · refine ⟨n + 1, ?_⟩
      rw [wrapped_succ, ← hwords, List.map_cons, List.map_append, List.map_singleton,
        (hk opening (by simp)).word_of_leftParen hopens,
        (hk closing (by simp)).word_of_rightParen hcloses]
    · show Covers (opening.span.hull closing.span) ([opening] ++ (ts ++ [closing]))
      exact Covers.hull ho (covers_singleton opening) (covers_singleton closing)
  | first _ ih => exact ih ho hk he
  | extend => cases he

/-- Each node is made of tokens that stand side by side. -/
theorem Salvages.node {phrase : Phrase} {ts : List Token} {e x : Expr} (h : Salvages phrase ts e)
    (hx : x ∈ e.nodes) :
    ∃ before us after, ts = before ++ (us ++ after) ∧ ∃ phrase, Salvages phrase us x := by
  have hroot : ∀ {phrase ts e}, Salvages phrase ts e →
      ∃ before us after, ts = before ++ (us ++ after) ∧ ∃ phrase, Salvages phrase us e :=
    fun {phrase ts _} h => ⟨[], ts, [], by simp, phrase, h⟩
  induction h with
  | lost => cases hx
  | name hk =>
    cases List.mem_singleton.1 hx
    exact hroot (.name hk)
  | number hk hv =>
    cases List.mem_singleton.1 hx
    exact hroot (.number hk hv)
  | @parentheses opening closing ts e ho hs hc ih =>
    rcases Expr.mem_nodes_parenthesized hx with rfl | hx
    · exact hroot (.parentheses ho hs hc)
    · obtain ⟨before, us, after, rfl, hus⟩ := ih hx
      exact ⟨opening :: before, us, after ++ [closing], by simp, hus⟩
  | first _ ih => exact ih hx
  | @extend layer t op ts us e f hl hmark hr ihl ihr =>
    rcases List.mem_cons.1 hx with rfl | hx
    · exact hroot (.extend hl hmark hr)
    rcases List.mem_append.1 hx with hx | hx
    · obtain ⟨before, vs, after, rfl, hvs⟩ := ihl hx
      exact ⟨before, vs, after ++ t :: us, by simp, hvs⟩
    · obtain ⟨before, vs, after, rfl, hvs⟩ := ihr hx
      exact ⟨ts ++ t :: before, vs, after, by simp, hvs⟩

/-- Each node of a program is made of tokens that stand side by side. -/
theorem SalvagesProgram.node {ts : List Token} {p : Program} {x : Expr} (h : SalvagesProgram ts p)
    (hx : x ∈ p.body.nodes) :
    ∃ before us after, ts = before ++ (us ++ after) ∧ ∃ phrase, Salvages phrase us x := by
  cases h with
  | bare _ hs => exact hs.node hx
  | @declaring opening ts us declared body _ _ hs =>
    obtain ⟨before, vs, after, rfl, hvs⟩ := hs.node hx
    exact ⟨opening :: (ts ++ before), vs, after, by simp, hvs⟩

/-- The declared variables of a program are some of the tokens, in order. -/
theorem SalvagesProgram.exists_names {ts : List Token} {p : Program} (h : SalvagesProgram ts p) :
    ∃ names : List Token, names.Sublist ts ∧ p.declared = names.map Token.declaration := by
  cases h with
  | bare => exact ⟨[], List.nil_sublist _, rfl⟩
  | @declaring opening ts us declared body _ hh _ =>
    obtain ⟨names, hsub, -, hnames⟩ := hh.exists_names
    exact ⟨names, (hsub.trans (List.sublist_append_left _ _)).cons opening, hnames⟩

/-- What stands at a position of an expression is one of its nodes, unless it is missing. -/
theorem Expr.mem_nodes_of_at? {e x : Expr} {path : List Side} (h : e.at? path = some x)
    (hne : x ≠ .missing) : x ∈ e.nodes := by
  induction path generalizing e with
  | nil =>
    cases h
    cases x with
    | missing => exact absurd rfl hne
    | literal => exact List.mem_singleton_self _
    | reference => exact List.mem_singleton_self _
    | binary => exact List.mem_cons_self ..
  | cons side path ih =>
    cases e with
    | missing => cases h
    | literal => cases h
    | reference => cases h
    | binary op opSpan left right span =>
      have hbelow : x ∈ (side.choose left right).nodes := ih h
      apply List.mem_cons_of_mem
      cases side with
      | left => exact List.mem_append_left _ hbelow
      | right => exact List.mem_append_right _ hbelow

/-- The program is made of the first tokens of the source. -/
structure MadeOf (source : String) (us : List Token) (p : Program) : Prop where
  front : us <+: tokens source
  salvages : SalvagesProgram us p

namespace MadeOf

variable {source : String} {us : List Token} {p : Program}

theorem mem_tokens (h : MadeOf source us p) {t : Token} (ht : t ∈ us) : t ∈ tokens source :=
  h.front.subset ht

theorem ordered (h : MadeOf source us p) : Ordered us :=
  (ordered_tokens source).sublist h.front.sublist

/-- The places of a program and of its nodes are in the source. -/
theorem nested (h : MadeOf source us p) :
    Nested (Among (tokens source)) p.span p.parts ∧ p.body.LiesIn (tokens source) := by
  obtain ⟨hroot, hnodes⟩ :=
    h.salvages.nested h.ordered (fun t ht => solid_tokens source t (h.mem_tokens ht))
  exact ⟨hroot.mono fun s hs => hs.mono h.front.subset, hnodes.mono h.front.subset⟩

/-- At the place of a variable it stands, maybe in parentheses. -/
theorem text_of_reference (h : MadeOf source us p) {name : String} {use : Span}
    (hx : .reference name use ∈ p.body.nodes) :
    ∃ text n, use.text? source = some text ∧ (tokens text).map Token.word = wrapped n name := by
  obtain ⟨before, vs, after, rfl, phrase, hvs⟩ := h.salvages.node hx
  obtain ⟨rest, htokens⟩ := h.front
  have hordered : Ordered vs :=
    h.ordered.sublist ((List.sublist_append_left _ _).trans (List.sublist_append_right _ _))
  have hkinds : ∀ t ∈ vs, HasKind t.text.toList t.kind :=
    fun t ht => hasKind_of_mem_tokens (h.mem_tokens (by simp [ht]))
  obtain ⟨⟨n, hwords⟩, hcovers⟩ := hvs.wrapped hordered hkinds
  have hsplit : tokens source = before ++ (vs ++ (after ++ rest)) := by
    rw [← htokens]
    simp
  obtain ⟨text, htext, hmoved⟩ := exists_text_of_tokens hsplit hcovers
  refine ⟨text, n, htext, ?_⟩
  rw [← hwords, hmoved, List.map_map]
  rfl

/-- At the place of an operator it stands. -/
theorem text_of_operator (h : MadeOf source us p) {op : Operator} {opSpan span : Span}
    {left right : Expr} (hx : .binary op opSpan left right span ∈ p.body.nodes) :
    opSpan.text? source = some op.symbol := by
  obtain ⟨t, ht, rfl, layer, hop⟩ := h.salvages.exists_operator hx
  have hkind := hasKind_of_mem_tokens (h.mem_tokens ht)
  rw [text?_span_of_mem_tokens (h.mem_tokens ht), String.toList_inj.1 (hkind.eq_symbol hop)]

/-- At the places of two variables that are declared one behind the other they stand. -/
theorem text_of_declared (h : MadeOf source us p) {i j : Nat} {d first : Declaration}
    (hd : p.declared[i]? = some d) (hf : p.declared[j]? = some first) (hlt : j < i) :
    d.span.text? source = some d.name ∧ first.span.text? source = some first.name ∧
      first.span.start < first.span.stop ∧ first.span.stop ≤ d.span.start := by
  obtain ⟨names, hsub, hnames⟩ := h.salvages.exists_names
  rw [hnames, List.getElem?_map, Option.map_eq_some_iff] at hd hf
  obtain ⟨t, ht, rfl⟩ := hd
  obtain ⟨u, hu, rfl⟩ := hf
  have hmem : ∀ {k : Nat} {v : Token}, names[k]? = some v → v ∈ tokens source :=
    fun hv => h.mem_tokens (hsub.subset (List.mem_of_getElem? hv))
  have hordered := List.pairwise_iff_getElem.1 (h.ordered.sublist hsub)
  obtain ⟨hi, rfl⟩ := List.getElem?_eq_some_iff.1 ht
  obtain ⟨hj, rfl⟩ := List.getElem?_eq_some_iff.1 hu
  exact ⟨text?_span_of_mem_tokens (hmem ht), text?_span_of_mem_tokens (hmem hu),
    solid_tokens source _ (hmem hu), hordered j i hj hi hlt⟩

theorem pointsAt_of_mem_problems (h : MadeOf source us p) {problem : SemanticError}
    (hp : problem ∈ p.problems) : problem.PointsAt source := by
  rw [← p.map_snd_sites] at hp
  obtain ⟨⟨site, problem⟩, hsite, rfl⟩ := List.mem_map.1 hp
  cases Program.mem_sites_iff.1 hsite with
  | again here there earlier same =>
    obtain ⟨hagain, hfirst, hnonempty, horder⟩ := h.text_of_declared here there earlier
    exact .alreadyDeclared hagain (same ▸ hfirst) hnonempty horder
  | fault hfault =>
    cases hfault with
    | undeclared here =>
      obtain ⟨text, n, htext, hwords⟩ :=
        h.text_of_reference (Expr.mem_nodes_of_at? here (by simp))
      exact .notDeclared htext hwords
    | operand above =>
      exact .missingOperand (h.text_of_operator (Expr.mem_nodes_of_at? above (by simp)))
    | whole =>
      obtain ⟨text, htext⟩ := h.nested.1.place.exists_text
      exact .missingBody htext

end MadeOf

/-! ## §3. Where failures point. -/

/-- The labels of a failure are in the source. -/
theorem MadeOf.areIn_of_isAbout {source : String} {us : List Token} {p : Program}
    (h : MadeOf source us p) {error : RuntimeError} (he : error.IsAbout p) :
    AreIn source error.labels := by
  have hnode : ∀ {op : Operator} {opSpan node : Span} {left right : Expr},
      .binary op opSpan left right node ∈ p.body.nodes →
        ∃ text, node.text? source = some text := fun {_ _ node _ _} hx =>
    (h.nested.2 _ hx).place.exists_text
  cases he with
  | divisionByZero here => exact List.forall_mem_singleton.2 (hnode here)
  | overflow here => exact List.forall_mem_singleton.2 (hnode here)
  | undefinedVariable here =>
    obtain ⟨text, -, htext, -⟩ := h.text_of_reference here
    exact List.forall_mem_singleton.2 ⟨text, htext⟩
  | operand here => exact List.forall_mem_singleton.2 ⟨_, h.text_of_operator here⟩
  | body => exact List.forall_mem_singleton.2 h.nested.1.place.exists_text
  | outside unlabelled =>
    rw [unlabelled]
    exact List.forall_mem_nil _

/-! ## §4. Sources. -/

/-- **EVERY REPORT POINTS AT THE TEXT IT NAMES.**  Whatever is told of a source, all its labels
are places in the source that start and stop at character boundaries.  A syntax error is about
a token of the source, which it names by its text in quotes, or about the end of the source;
the parenthesis that is not closed is in front of it, and the tokens behind the program do not
start with the end.  The two places of a variable that is declared again both have its name,
the first one in front of the other; an operator that lacks an operand is where the problem
says; and so is a variable that is not declared, maybe in parentheses.  A run that fails, on a
console or on any other lawful runtime, points at a node of the program, or at nothing. -/
theorem reports_point_at_what_they_name (source : String) :
    (∀ error ∈ (parse source).errors,
        AreIn source error.labels ∧ error.PointsAt source) ∧
      (∀ problem ∈ check (parse source).program,
        AreIn source problem.labels ∧ problem.PointsAt source) ∧
      ∀ p, (parse source).program = some p → ∀ (σ : Type) [Runtime σ] [LawfulRuntime σ]
        (s : Session σ) (error : RuntimeError),
        (s.evaluate p).1 = .error error ∨ (s.run p).1 = .error error →
          AreIn source error.labels ∧ error.IsAbout p := by
  have hmade : ∀ p, (parse source).program = some p → ∃ us, MadeOf source us p := by
    intro p hp
    obtain ⟨us, rest, htokens, hs⟩ := exists_salvagesProgram hp
    exact ⟨us, ⟨rest, htokens.symm⟩, hs⟩
  refine ⟨?_, ?_, ?_⟩
  · intro error herror
    have hpoints := (arises_of_mem_errors herror).pointsAt
    exact ⟨hpoints.labels, hpoints⟩
  · intro problem hproblem
    have hpoints : problem.PointsAt source := by
      cases hp : (parse source).program with
      | none =>
        rw [hp] at hproblem
        cases List.mem_singleton.1 hproblem
        exact .missingProgram
      | some p =>
        rw [hp] at hproblem
        obtain ⟨us, hus⟩ := hmade p hp
        exact hus.pointsAt_of_mem_problems hproblem
    exact ⟨hpoints.labels, hpoints⟩
  · intro p hp σ _ _ s error hfails
    obtain ⟨us, hus⟩ := hmade p hp
    have habout : error.IsAbout p := by
      rcases hfails with hfails | hfails
      · exact Session.isAbout_of_evaluate hfails
      · exact Session.isAbout_of_run hfails
    exact ⟨hus.areIn_of_isAbout habout, habout⟩

/-- In `with a, a: ((b)) * é + (3` the last parenthesis is not closed at the end, and `b` stands
in two pairs of parentheses.  In `with a: (1 / (a))` the divisor can be 0. -/
theorem reports_point_at_what_they_name_nested :
    (AreIn "with a, a: ((b)) * é + (3" [⟨"Opening parenthesis here", ⟨24, 1⟩⟩,
        ⟨"Found end of input instead", ⟨26, 0⟩⟩] ∧
        SyntaxError.PointsAt "with a, a: ((b)) * é + (3"
          (.unclosedParenthesis ⟨.leftParen, "(", ⟨24, 1⟩⟩ ⟨.endOfInput, "", ⟨26, 0⟩⟩)) ∧
      SemanticError.PointsAt "with a, a: ((b)) * é + (3" (.notDeclared "b" ⟨11, 5⟩) ∧
      ∃ p, (parse "with a: (1 / (a))").program = some p ∧
        ((Session.ofConsole (Console.ofInput [48, 10])).run p).1 = .error (.divisionByZero ⟨8, 9⟩) ∧
        RuntimeError.IsAbout p (.divisionByZero ⟨8, 9⟩) := by
  obtain ⟨hread, hcheck, -⟩ := reports_point_at_what_they_name "with a, a: ((b)) * é + (3"
  obtain ⟨-, -, hruns⟩ := reports_point_at_what_they_name "with a: (1 / (a))"
  obtain ⟨-, hname⟩ := hcheck (.notDeclared "b" ⟨11, 5⟩) (by decide +kernel)
  let p : Program := .declaring ⟨0, 4⟩ [⟨"a", ⟨5, 1⟩⟩]
    (.binary .div ⟨11, 1⟩ (.literal 1 "1" ⟨9, 1⟩) (.reference "a" ⟨13, 3⟩) ⟨8, 9⟩)
  have hp : (parse "with a: (1 / (a))").program = some p := by decide +kernel
  have hrun : ((Session.ofConsole (Console.ofInput [48, 10])).run p).1 =
      .error (.divisionByZero ⟨8, 9⟩) := rfl
  exact ⟨hread (.unclosedParenthesis ⟨.leftParen, "(", ⟨24, 1⟩⟩ ⟨.endOfInput, "", ⟨26, 0⟩⟩)
    (by decide +kernel), hname, p, hp, hrun, (hruns p hp _ _ _ (.inr hrun)).2⟩

end Calculator
