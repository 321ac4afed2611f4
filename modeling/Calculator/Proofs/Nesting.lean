/-
  Calculator.Proofs.Nesting
  ─────────────────────────
  **THE PLACES OF A TREE NEST AND ARE ORDERED.**

  Whatever was lost of a source, the tree made of the rest lies over the source in order:
  the place of a node is a nonempty piece of the source from one token to another, and
  inside it stand the places of its parts, one behind the other.

  For tokens in order this is one observation (`InRow.hull`): the hull of the first and the
  last of some places in a row contains all of them.  A node takes its place from its first
  and its last part, also where an operand is missing, and parentheses stand around
  everything between them.

  Main statement: `places_nest`.
-/
import Calculator.Proofs.NodeText
import Calculator.Proofs.Salvage

namespace Calculator

open Text (width width_append)

/-! ## §1. Parts and their places. -/

/-- The place of an expression, if there is one. -/
def Expr.span? : Expr → Option Span
  | missing => none
  | literal _ _ span => some span
  | reference _ span => some span
  | binary _ _ _ _ span => some span

/-- The places of the parts of a node from left to right: its operator between the
operands that are there. -/
def Expr.parts : Expr → List Span
  | missing => []
  | literal _ _ _ => []
  | reference _ _ => []
  | binary _ opSpan left right _ => left.span?.toList ++ opSpan :: right.span?.toList

/-- The places of the parts of a declaration from left to right: the word `with`, the
variables, and the expression if it is there. -/
def Program.parts : Program → List Span
  | bare _ _ => []
  | declaring withSpan declared body =>
    withSpan :: (declared.map Declaration.span ++ body.span?.toList)

/-- Something stands at the place: it reaches from the start of one of the tokens to the
stop of one. -/
structure Among (ts : List Token) (s : Span) : Prop where
  nonempty : s.start < s.stop
  starts : ∃ t ∈ ts, t.span.start = s.start
  stops : ∃ t ∈ ts, t.span.stop = s.stop

/-- The whole and its parts are places, whatever these are; the whole contains the parts,
and no part starts before the one in front of it stops. -/
structure Nested (IsPlace : Span → Prop) (whole : Span) (parts : List Span) : Prop where
  place : IsPlace whole
  places : ∀ s ∈ parts, IsPlace s
  inside : ∀ s ∈ parts, whole.start ≤ s.start ∧ s.stop ≤ whole.stop
  ordered : parts.Pairwise fun s r => s.stop ≤ r.start

/-! ## §2. Places among tokens in order. -/

/-- No token is empty. -/
def Solid (ts : List Token) : Prop := ∀ t ∈ ts, t.span.start < t.span.stop

theorem Among.mono {ts us : List Token} {s : Span} (h : Among ts s) (hsub : ts ⊆ us) :
    Among us s where
  nonempty := h.nonempty
  starts := by
    obtain ⟨t, ht, hs⟩ := h.starts
    exact ⟨t, hsub ht, hs⟩
  stops := by
    obtain ⟨t, ht, hs⟩ := h.stops
    exact ⟨t, hsub ht, hs⟩

theorem Nested.mono {P Q : Span → Prop} {whole : Span} {parts : List Span}
    (h : Nested P whole parts) (hpq : ∀ s, P s → Q s) : Nested Q whole parts where
  place := hpq whole h.place
  places := fun s hs => hpq s (h.places s hs)
  inside := h.inside
  ordered := h.ordered

/-- A token is a place among tokens that are not empty. -/
theorem Solid.among {ts : List Token} (h : Solid ts) {t : Token} (ht : t ∈ ts) :
    Among ts t.span :=
  ⟨h t ht, ⟨t, ht, rfl⟩, ⟨t, ht, rfl⟩⟩

/-- Of ordered tokens the first ones have their places in front of those of the others. -/
theorem Among.stop_le_start {ts us : List Token} {s r : Span} (ho : Ordered (ts ++ us))
    (hs : Among ts s) (hr : Among us r) : s.stop ≤ r.start := by
  obtain ⟨t, ht, hstop⟩ := hs.stops
  obtain ⟨u, hu, hstart⟩ := hr.starts
  rw [← hstop, ← hstart]
  exact (List.pairwise_append.1 ho).2.2 t ht u hu

/-- The places stand among the tokens, one behind the other. -/
structure InRow (ts : List Token) (parts : List Span) : Prop where
  places : ∀ s ∈ parts, Among ts s
  ordered : parts.Pairwise fun s r => s.stop ≤ r.start

/-- Some of the tokens stand in a row. -/
theorem inRow_tokens {ts us : List Token} (ho : Ordered ts) (hs : Solid ts)
    (hsub : us.Sublist ts) : InRow ts (us.map Token.span) where
  places := by
    intro s hmem
    obtain ⟨t, ht, rfl⟩ := List.mem_map.1 hmem
    exact hs.among (hsub.subset ht)
  ordered := List.pairwise_map.2 (List.Pairwise.sublist hsub ho)

theorem inRow_token {t : Token} (ht : t.span.start < t.span.stop) : InRow [t] [t.span] :=
  inRow_tokens (List.pairwise_singleton _ t) (List.forall_mem_singleton.2 ht) (.refl [t])

/-- Of ordered tokens a row among the first ones goes on with one among the others. -/
theorem InRow.append {ts us : List Token} {parts later : List Span} (ho : Ordered (ts ++ us))
    (hp : InRow ts parts) (hl : InRow us later) : InRow (ts ++ us) (parts ++ later) where
  places := by
    refine List.forall_mem_append.2 ⟨?_, ?_⟩
    · intro s hs
      exact (hp.places s hs).mono (List.subset_append_left ts us)
    · intro s hs
      exact (hl.places s hs).mono (List.subset_append_right ts us)
  ordered := by
    refine List.pairwise_append.2 ⟨hp.ordered, hl.ordered, ?_⟩
    intro s hs r hr
    exact (hp.places s hs).stop_le_start ho (hl.places r hr)

/-- No place of a row starts before the first one. -/
theorem InRow.start_le {ts : List Token} {parts : List Span} {first : Span} (h : InRow ts parts)
    (hfirst : parts.head? = some first) : ∀ s ∈ parts, first.start ≤ s.start := by
  obtain ⟨later, rfl⟩ := List.head?_eq_some_iff.1 hfirst
  refine List.forall_mem_cons.2 ⟨Nat.le_refl _, ?_⟩
  intro s hs
  exact Nat.le_trans first.start_le_stop ((List.pairwise_cons.1 h.ordered).1 s hs)

/-- None stops behind the last one. -/
theorem InRow.le_stop {ts : List Token} {parts : List Span} {last : Span} (h : InRow ts parts)
    (hlast : parts.getLast? = some last) : ∀ s ∈ parts, s.stop ≤ last.stop := by
  obtain ⟨init, rfl⟩ := List.getLast?_eq_some_iff.1 hlast
  refine List.forall_mem_append.2 ⟨?_, List.forall_mem_singleton.2 (Nat.le_refl _)⟩
  intro s hs
  have hle : s.stop ≤ last.start :=
    (List.pairwise_append.1 h.ordered).2.2 s hs last (List.mem_singleton_self last)
  exact Nat.le_trans hle last.start_le_stop

/-- The hull of the first and the last of the places in a row contains all of them. -/
theorem InRow.hull {ts : List Token} {parts : List Span} {first last : Span} (h : InRow ts parts)
    (hfirst : parts.head? = some first) (hlast : parts.getLast? = some last) :
    Nested (Among ts) (first.hull last) parts := by
  have hf : first ∈ parts := List.mem_of_mem_head? hfirst
  have hl : last ∈ parts := List.mem_of_getLast? hlast
  -- the hull starts where the first place does and stops where the last one does
  have hstart : (first.hull last).start = first.start := by
    have hle := h.start_le hfirst last hl
    rw [Span.start_hull]
    omega
  have hstop : (first.hull last).stop = last.stop := by
    have hle := h.le_stop hlast first hf
    rw [Span.stop_hull]
    omega
  refine ⟨⟨?_, ?_, ?_⟩, h.places, ?_, h.ordered⟩
  · have hle := h.start_le hfirst last hl
    have hlt := (h.places last hl).nonempty
    omega
  · rw [hstart]
    exact (h.places first hf).starts
  · rw [hstop]
    exact (h.places last hl).stops
  · intro s hs
    rw [hstart, hstop]
    exact ⟨h.start_le hfirst s hs, h.le_stop hlast s hs⟩

/-! ## §3. Expressions. -/

theorem Expr.spanOr_eq (e : Expr) (fallback : Span) :
    e.spanOr fallback = e.span?.getD fallback := by
  cases e <;> rfl

theorem Expr.parts_parenthesized (parens : Span) (e : Expr) :
    (e.parenthesized parens).parts = e.parts := by
  cases e <;> rfl

/-- All nodes of the expression lie among the tokens, with their parts inside. -/
def Expr.LiesIn (ts : List Token) (e : Expr) : Prop :=
  ∀ x ∈ e.nodes, Nested (Among ts) (x.spanOr ⟨0, 0⟩) x.parts

theorem Expr.LiesIn.mono {ts us : List Token} {e : Expr} (h : e.LiesIn ts) (hsub : ts ⊆ us) :
    e.LiesIn us :=
  fun x hx => (h x hx).mono fun _ hs => hs.mono hsub

/-- An expression that is there is one of its nodes. -/
theorem Expr.LiesIn.self {ts : List Token} {e : Expr} (h : e.LiesIn ts) (hne : e ≠ .missing) :
    Nested (Among ts) (e.spanOr ⟨0, 0⟩) e.parts := by
  apply h
  cases e with
  | missing => exact absurd rfl hne
  | literal => exact List.mem_singleton_self _
  | reference => exact List.mem_singleton_self _
  | binary => exact List.mem_cons_self ..

theorem Expr.LiesIn.among {ts : List Token} {e : Expr} (h : e.LiesIn ts) :
    ∀ s ∈ e.span?, Among ts s := by
  intro s hs
  have hne : e ≠ .missing := by
    rintro rfl
    cases hs
  have hplace := (h.self hne).place
  rw [Expr.spanOr_eq, Option.mem_def.1 hs] at hplace
  exact hplace

/-- An expression is a row of one place, or of none if it is missing. -/
theorem Expr.LiesIn.inRow {ts : List Token} {e : Expr} (h : e.LiesIn ts) :
    InRow ts e.span?.toList where
  places := fun s hs => h.among s (Option.mem_toList.1 hs)
  ordered := by cases e.span? <;> simp

/-- An operator between two operands, each of which may be missing. -/
theorem Expr.LiesIn.ofOperands {ts us : List Token} {t : Token} {e f : Expr}
    (he : e.LiesIn ts) (hf : f.LiesIn us) (ho : Ordered (ts ++ t :: us))
    (ht : t.span.start < t.span.stop) (op : Operator) :
    (Expr.ofOperands op t.span e f).LiesIn (ts ++ t :: us) := by
  have hus : us ⊆ ts ++ t :: us := fun u hu => by simp [hu]
  intro x hx
  rcases List.mem_cons.1 hx with rfl | hx
  · -- the node itself reaches from its first part to its last
    have hright : Ordered ([t] ++ us) := (List.pairwise_append.1 ho).2.1
    have hrow : InRow (ts ++ t :: us) (e.span?.toList ++ t.span :: f.span?.toList) :=
      he.inRow.append ho ((inRow_token ht).append hright hf.inRow)
    show Nested _ ((e.spanOr t.span).hull (f.spanOr t.span)) _
    apply hrow.hull
    · rw [Expr.spanOr_eq]
      cases e.span? <;> rfl
    · rw [Expr.spanOr_eq]
      cases f.span? <;> simp
  · rcases List.mem_append.1 hx with hx | hx
    · exact he.mono (List.subset_append_left _ _) x hx
    · exact hf.mono hus x hx

/-- Parentheses around an expression, which may be missing. -/
theorem Expr.LiesIn.parenthesized {ts : List Token} {opening closing : Token} {e : Expr}
    (he : e.LiesIn ts) (ho : Ordered (opening :: (ts ++ [closing])))
    (hopening : opening.span.start < opening.span.stop)
    (hclosing : closing.span.start < closing.span.stop) :
    (e.parenthesized (opening.span.hull closing.span)).LiesIn (opening :: (ts ++ [closing])) := by
  have hsub : ts ⊆ opening :: (ts ++ [closing]) := fun t ht => by simp [ht]
  intro x hx
  by_cases hne : e = .missing
  · rw [hne] at hx
    cases hx
  rcases Expr.mem_nodes_parenthesized hx with rfl | hx
  · -- the parts stay where they are, between the two parentheses
    have hinner := he.self hne
    have hafter : ∀ t ∈ ts ++ [closing], opening.span.stop ≤ t.span.start :=
      (List.pairwise_cons.1 ho).1
    have hbefore : ∀ t ∈ ts, t.span.stop ≤ closing.span.start := by
      intro t ht
      exact (List.pairwise_append.1 (List.pairwise_cons.1 ho).2).2.2 t ht closing (by simp)
    have hpair := hafter closing (by simp)
    have hstart : (opening.span.hull closing.span).start = opening.span.start := by
      rw [Span.start_hull]
      omega
    have hstop : (opening.span.hull closing.span).stop = closing.span.stop := by
      rw [Span.stop_hull]
      omega
    rw [Expr.spanOr_parenthesized hne, Expr.parts_parenthesized]
    refine ⟨⟨?_, ?_, ?_⟩, ?_, ?_, hinner.ordered⟩
    · omega
    · exact ⟨opening, by simp, hstart.symm⟩
    · exact ⟨closing, by simp, hstop.symm⟩
    · intro s hs
      exact (hinner.places s hs).mono hsub
    · intro s hs
      obtain ⟨-, ⟨t, ht, htstart⟩, ⟨u, hu, hustop⟩⟩ := hinner.places s hs
      have hlow := hafter t (List.mem_append_left _ ht)
      have hhigh := hbefore u hu
      rw [hstart, hstop]
      omega
  · exact he.mono hsub x hx

/-- What is made of tokens in order lies among them. -/
theorem Salvages.liesIn {phrase : Phrase} {ts : List Token} {e : Expr} (h : Salvages phrase ts e)
    (ho : Ordered ts) (hs : Solid ts) : e.LiesIn ts := by
  have hleaf : ∀ {t : Token} {e : Expr}, Solid [t] → e.nodes = [e] → e.spanOr ⟨0, 0⟩ = t.span →
      e.parts = [] → e.LiesIn [t] := by
    intro t e hs hnodes hspan hparts x hx
    rw [hnodes, List.mem_singleton] at hx
    rw [hx, hspan, hparts]
    exact ⟨hs.among (by simp), by simp, by simp, .nil⟩
  induction h with
  | lost =>
    intro x hx
    cases hx
  | name => exact hleaf hs rfl rfl rfl
  | number => exact hleaf hs rfl rfl rfl
  | @parentheses opening closing ts e _ _ _ ih =>
    have hin := ih (List.pairwise_append.1 (List.pairwise_cons.1 ho).2).1
      (fun t ht => hs t (by simp [ht]))
    exact hin.parenthesized ho (hs opening (by simp)) (hs closing (by simp))
  | first _ ih => exact ih ho hs
  | @extend layer t op ts us e f _ _ _ ihl ihr =>
    have hl := ihl (List.pairwise_append.1 ho).1 (fun u hu => hs u (by simp [hu]))
    have hr := ihr (List.pairwise_cons.1 (List.pairwise_append.1 ho).2.1).2
      (fun u hu => hs u (by simp [hu]))
    exact hl.ofOperands hr ho (hs t (by simp)) op

/-! ## §4. Programs. -/

/-- The declaration that the token makes where a name is due. -/
def Token.declaration (t : Token) : Declaration := ⟨t.text, t.span⟩

/-- The declared variables are some of the tokens, in order. -/
theorem BuildsHeader.exists_names {ts : List Token} {declared : List Declaration}
    (h : BuildsHeader ts declared) :
    ∃ names : List Token, names.Sublist ts ∧ (∀ t ∈ names, t.kind = .identifier) ∧
      declared = names.map Token.declaration := by
  induction h with
  | @last name mark hn _ =>
    exact ⟨[name], by simp, by simp [hn], rfl⟩
  | @more name mark ts declared hn _ _ ih =>
    obtain ⟨names, hsub, hkind, rfl⟩ := ih
    refine ⟨name :: names, (hsub.cons mark).cons_cons name, ?_, rfl⟩
    exact List.forall_mem_cons.2 ⟨hn, hkind⟩

/-- What makes a program stands in it in order: the parts of a declaration inside the
declaration, and the expression with all its nodes. -/
theorem SalvagesProgram.nested {ts : List Token} {p : Program} (h : SalvagesProgram ts p)
    (ho : Ordered ts) (hs : Solid ts) : Nested (Among ts) p.span p.parts ∧ p.body.LiesIn ts := by
  cases h with
  | @bare _ body present hsum =>
    have hin := hsum.liesIn ho hs
    refine ⟨⟨?_, by simp [Program.parts], by simp [Program.parts], .nil⟩, hin⟩
    exact (hin.self present).place
  | @declaring opening ts us declared body hw hh hsum =>
    obtain ⟨hopening, hts⟩ := List.forall_mem_cons.1 hs
    obtain ⟨hts, hus⟩ := List.forall_mem_append.1 hts
    have hrest : Ordered (ts ++ us) := (List.pairwise_cons.1 ho).2
    obtain ⟨hots, hous, -⟩ := List.pairwise_append.1 hrest
    have hin := hsum.liesIn hous hus
    refine ⟨?_, hin.mono fun u hu => by simp [hu]⟩
    obtain ⟨names, hsub, -, rfl⟩ := hh.exists_names
    have hmap : (names.map Token.declaration).map Declaration.span = names.map Token.span := by
      rw [List.map_map]
      rfl
    have hrow : InRow (opening :: (ts ++ us))
        (opening.span :: (names.map Token.span ++ body.span?.toList)) :=
      (inRow_token hopening).append ho ((inRow_tokens hots hts hsub).append hrest hin.inRow)
    show Nested _ (opening.span.hull (body.spanOr _))
      (opening.span :: ((names.map Token.declaration).map Declaration.span ++ body.span?.toList))
    rw [hmap]
    apply hrow.hull rfl
    rw [Expr.spanOr_eq, List.getLast?_cons]
    -- the last part is the expression, or the last variable if that is missing
    cases body.span? with
    | some s => simp
    | none =>
      rw [← hmap, Option.toList_none, List.append_nil, List.getLast?_map]
      rfl

/-! ## §5. What stands at a place. -/

/-- The operator of a node is one of the tokens. -/
theorem Salvages.exists_operator {phrase : Phrase} {ts : List Token} {e : Expr}
    (h : Salvages phrase ts e) {op : Operator} {opSpan span : Span} {left right : Expr}
    (hx : .binary op opSpan left right span ∈ e.nodes) :
    ∃ t ∈ ts, t.span = opSpan ∧ ∃ layer : Layer, layer.operator? t.kind = some op := by
  induction h generalizing span with
  | lost => cases hx
  | name => cases List.mem_singleton.1 hx
  | number => cases List.mem_singleton.1 hx
  | @parentheses opening closing ts e _ _ _ ih =>
    have hnode : ∃ span, .binary op opSpan left right span ∈ e.nodes := by
      rcases Expr.mem_nodes_parenthesized hx with hx | hx
      · -- parentheses change nothing of a node but its place
        cases e with
        | missing => cases hx
        | literal => cases hx
        | reference => cases hx
        | binary =>
          cases hx
          exact ⟨_, List.mem_cons_self ..⟩
      · exact ⟨span, hx⟩
    obtain ⟨span, hnode⟩ := hnode
    obtain ⟨t, ht, hop⟩ := ih hnode
    exact ⟨t, by simp [ht], hop⟩
  | first _ ih => exact ih hx
  | @extend layer t op ts us e f _ hmark _ ihl ihr =>
    rcases List.mem_cons.1 hx with hx | hx
    · cases hx
      exact ⟨t, by simp, rfl, layer, hmark⟩
    · rcases List.mem_append.1 hx with hx | hx
      · obtain ⟨u, hu, hop⟩ := ihl hx
        exact ⟨u, by simp [hu], hop⟩
      · obtain ⟨u, hu, hop⟩ := ihr hx
        exact ⟨u, by simp [hu], hop⟩

/-- The operators of a program are some of the tokens. -/
theorem SalvagesProgram.exists_operator {ts : List Token} {p : Program}
    (h : SalvagesProgram ts p) {op : Operator} {opSpan span : Span} {left right : Expr}
    (hx : .binary op opSpan left right span ∈ p.body.nodes) :
    ∃ t ∈ ts, t.span = opSpan ∧ ∃ layer : Layer, layer.operator? t.kind = some op := by
  cases h with
  | bare _ hs => exact hs.exists_operator hx
  | declaring _ _ hs =>
    obtain ⟨t, ht, hop⟩ := hs.exists_operator hx
    exact ⟨t, by simp [ht], hop⟩

/-- A token of the kind of an operator is written as the operator. -/
theorem HasKind.eq_symbol {text : List Char} {kind : TokenKind} (h : HasKind text kind)
    {layer : Layer} {op : Operator} (hop : layer.operator? kind = some op) :
    text = op.symbol.toList := by
  cases h with
  | mark hm =>
    simp only [marks, List.mem_cons, Prod.mk.injEq, List.not_mem_nil, or_false] at hm
    rcases hm with ⟨rfl, rfl⟩ | ⟨rfl, rfl⟩ | ⟨rfl, rfl⟩ | ⟨rfl, rfl⟩ | ⟨rfl, rfl⟩ | ⟨rfl, rfl⟩ |
      ⟨rfl, rfl⟩ | ⟨rfl, rfl⟩ <;> cases layer <;> cases hop <;> rfl
  | endOfInput => cases layer <;> cases hop
  | withKeyword => cases layer <;> cases hop
  | identifier => cases layer <;> cases hop
  | number => cases layer <;> cases hop
  | unknown => cases layer <;> cases hop

/-- A token of the kind of the word `with` is written so. -/
theorem HasKind.eq_with {text : List Char} (h : HasKind text .withKeyword) :
    text = "with".toList := by
  cases h with
  | withKeyword => rfl
  | mark hm => simp [marks] at hm

/-- At the place of a token stands its text. -/
theorem text?_span_of_mem_tokens {source : String} {t : Token} (h : t ∈ tokens source) :
    t.span.text? source = some t.text := by
  obtain ⟨before, after, hsource, hspan, -⟩ :=
    (scans_tokensFrom 0 source.toList).pieces.placed t h
  rw [Nat.zero_add] at hspan
  exact Span.text?_eq_some_iff.2 ⟨before, after, hsource, hspan⟩

/-- The kind of a token is that of its text. -/
theorem hasKind_of_mem_tokens {source : String} {t : Token} (h : t ∈ tokens source) :
    HasKind t.text.toList t.kind :=
  (scans_tokensFrom 0 source.toList).pieces.kind t h

theorem solid_tokens (source : String) : Solid (tokens source) := by
  intro t ht
  have hpieces := (scans_tokensFrom 0 source.toList).pieces
  obtain ⟨before, after, -, hspan, -⟩ := hpieces.placed t ht
  have hpos := width_pos (hpieces.nonempty t ht)
  rw [hspan]
  simp only [Span.stop]
  omega

/-- A place among the tokens of a source starts and stops at character boundaries. -/
theorem Among.exists_text {source : String} {s : Span} (h : Among (tokens source) s) :
    ∃ text, s.text? source = some text := by
  obtain ⟨hlt, ⟨t, ht, hstart⟩, ⟨u, hu, hstop⟩⟩ := h
  obtain ⟨front, after, hfront, htspan⟩ := Span.text?_eq_some_iff.1 (text?_span_of_mem_tokens ht)
  obtain ⟨before, back, hback, huspan⟩ := Span.text?_eq_some_iff.1 (text?_span_of_mem_tokens hu)
  rw [htspan] at hstart
  rw [huspan, Span.stop, ← width_append] at hstop
  -- the text up to the first place is the front of the text up to the second
  have hle : width front ≤ width (before ++ u.text.toList) := by
    simp only at hstart
    omega
  have hcuts : front ++ (t.text.toList ++ after) = before ++ u.text.toList ++ back := by
    rw [← hfront, hback, List.append_assoc]
  obtain ⟨mid, hmid, hrest⟩ := exists_append_of_width_le hcuts hle
  refine ⟨String.ofList mid, Span.text?_eq_some_iff.2 ⟨front, back, ?_, ?_⟩⟩
  · rw [String.toList_ofList, hfront, hrest]
  · rw [String.toList_ofList]
    apply Span.ext_ends
    · exact hstart.symm
    · rw [← hstop, hmid, width_append]
      rfl

/-! ## §6. Sources. -/

/-- A place in a source: it is not empty, reaches from one character boundary to another,
and starts and stops where tokens do. -/
structure IsPlace (source : String) (s : Span) : Prop where
  nonempty : 0 < s.length
  text : ∃ text, s.text? source = some text
  starts : ∃ t ∈ scan source, t.span.start = s.start
  stops : ∃ t ∈ scan source, t.span.stop = s.stop

theorem Among.isPlace {source : String} {s : Span} (h : Among (tokens source) s) :
    IsPlace source s where
  nonempty := by
    have hlt := h.nonempty
    rw [Span.stop] at hlt
    omega
  text := h.exists_text
  starts := by
    obtain ⟨t, ht, hs⟩ := h.starts
    exact ⟨t, List.mem_append_left _ ht, hs⟩
  stops := by
    obtain ⟨t, ht, hs⟩ := h.stops
    exact ⟨t, List.mem_append_left _ ht, hs⟩

/-- **THE PLACES OF A TREE NEST AND ARE ORDERED.**  Whatever is wrong with a source, if there
is a program then all places in it are pieces of the source from one token to another.  The
place of each node contains its operator and the operands that are there, from left to
right; that of a declaration contains the word `with`, the variables and the expression if
it is there; and no part starts before the one in front of it stops.  At the places of
operators, variables and the word stands what they are called. -/
theorem places_nest {source : String} {p : Program} (h : (parse source).program = some p) :
    Nested (IsPlace source) p.span p.parts ∧
      (∀ x ∈ p.body.nodes, Nested (IsPlace source) (x.spanOr ⟨0, 0⟩) x.parts) ∧
      (∀ withSpan declared body, p = .declaring withSpan declared body →
        withSpan.text? source = some "with" ∧ ∀ d ∈ declared, d.span.text? source = some d.name) ∧
      ∀ op opSpan left right span, .binary op opSpan left right span ∈ p.body.nodes →
        opSpan.text? source = some op.symbol := by
  obtain ⟨us, rest, htokens, hp⟩ := exists_salvagesProgram h
  have hsub : us ⊆ tokens source := by
    rw [htokens]
    exact List.subset_append_left us rest
  have hordered : Ordered us := by
    have hall := ordered_tokens source
    rw [htokens] at hall
    exact (List.pairwise_append.1 hall).1
  have hplace : ∀ s, Among us s → IsPlace source s := fun s hs => (hs.mono hsub).isPlace
  obtain ⟨hroot, hnodes⟩ := hp.nested hordered (fun t ht => solid_tokens source t (hsub ht))
  refine ⟨hroot.mono hplace, fun x hx => (hnodes x hx).mono hplace, ?_, ?_⟩
  · rintro withSpan declared body rfl
    cases hp with
    | @declaring opening ts us _ _ hw hh _ =>
      obtain ⟨names, hnames, -, rfl⟩ := hh.exists_names
      constructor
      · have hopening : opening ∈ tokens source := hsub (by simp)
        have hkind := hasKind_of_mem_tokens hopening
        rw [hw] at hkind
        rw [text?_span_of_mem_tokens hopening, ← String.toList_inj.1 hkind.eq_with]
      · intro d hd
        obtain ⟨t, ht, rfl⟩ := List.mem_map.1 hd
        exact text?_span_of_mem_tokens (hsub (by simp [hnames.subset ht]))
  · intro op opSpan left right span hx
    obtain ⟨t, ht, rfl, layer, hop⟩ := hp.exists_operator hx
    have hkind := hasKind_of_mem_tokens (hsub ht)
    rw [text?_span_of_mem_tokens (hsub ht), String.toList_inj.1 (hkind.eq_symbol hop)]

/-- In `with a, b: é - (a / ) * 2 b` the place of the difference starts at its operator, since
its left operand is missing; that of the quotient is that of the parentheses around it.  The
second `b` is behind the program, and so outside of its place. -/
theorem places_nest_faulty :
    ∃ p x, (parse "with a, b: é - (a / ) * 2 b").program = some p ∧ x ∈ p.body.nodes ∧
      p.render = "(with (a b) (- <error> (* (/ a <error>) 2)))" ∧
      x.render = "(* (/ a <error>) 2)" ∧
      Nested (IsPlace "with a, b: é - (a / ) * 2 b") ⟨0, 26⟩
        [⟨0, 4⟩, ⟨5, 1⟩, ⟨8, 1⟩, ⟨14, 12⟩] ∧
      Nested (IsPlace "with a, b: é - (a / ) * 2 b") ⟨16, 10⟩ [⟨16, 6⟩, ⟨23, 1⟩, ⟨25, 1⟩] ∧
      (⟨0, 4⟩ : Span).text? "with a, b: é - (a / ) * 2 b" = some "with" ∧
      (⟨23, 1⟩ : Span).text? "with a, b: é - (a / ) * 2 b" = some Operator.mul.symbol := by
  let quotient : Expr := .binary .div ⟨19, 1⟩ (.reference "a" ⟨17, 1⟩) .missing ⟨16, 6⟩
  let product : Expr := .binary .mul ⟨23, 1⟩ quotient (.literal 2 "2" ⟨25, 1⟩) ⟨16, 10⟩
  let difference : Expr := .binary .sub ⟨14, 1⟩ .missing product ⟨14, 12⟩
  let p : Program := .declaring ⟨0, 4⟩ [⟨"a", ⟨5, 1⟩⟩, ⟨"b", ⟨8, 1⟩⟩] difference
  have hp : (parse "with a, b: é - (a / ) * 2 b").program = some p := by decide +kernel
  have hmem : product ∈ p.body.nodes := by decide
  obtain ⟨hroot, hnodes, hnames, hsymbols⟩ := places_nest hp
  exact ⟨p, product, hp, hmem, by decide, by decide, hroot, hnodes product hmem,
    (hnames _ _ _ rfl).1, hsymbols _ _ _ _ _ hmem⟩

end Calculator
