/-
  Calculator.Proofs.NodeText
  ──────────────────────────
  **THE PLACE OF A NODE HOLDS ITS PROGRAM TEXT.**

  Cut out of its source at its place, the text of a node is a source of its own, and
  reading it gives the node again, only further to the left.

  A node is built by some of the tokens of the source that stand side by side
  (`Builds.node`), and its place reaches from the first of these to the last
  (`Builds.place`).  What stands at this place scans to the same tokens, up to where they
  are (`exists_text_of_tokens`), and tokens that are moved build a tree that is moved
  (`Builds.of_moved`).

  Main statement: `parse_text_of_node`.
-/
import Calculator.Proofs.Construction
import Calculator.Proofs.Partition

namespace Calculator

open Text (width)

/-! ## §1. Trees further on. -/

/-- The expression `n` bytes further on. -/
def Expr.moved (n : Nat) : Expr → Expr
  | missing => .missing
  | literal value text span => .literal value text (span.moved n)
  | reference name span => .reference name (span.moved n)
  | binary op opSpan left right span =>
    .binary op (opSpan.moved n) (left.moved n) (right.moved n) (span.moved n)

/-- The declaration `n` bytes further on. -/
def Declaration.moved (n : Nat) (d : Declaration) : Declaration := { d with span := d.span.moved n }

theorem Expr.moved_eq_missing_iff {n : Nat} {e : Expr} : e.moved n = missing ↔ e = missing := by
  cases e <;> simp [moved]

/-- The program `n` bytes further on. -/
def Program.moved (n : Nat) : Program → Program
  | .bare body present => .bare (body.moved n) (mt Expr.moved_eq_missing_iff.1 present)
  | .declaring withSpan declared body =>
    .declaring (withSpan.moved n) (declared.map (Declaration.moved n)) (body.moved n)

theorem Span.hull_moved (n : Nat) (s t : Span) :
    (s.moved n).hull (t.moved n) = (s.hull t).moved n := by
  apply Span.ext_ends
  · simp only [Span.start_hull, Span.moved]
    omega
  · have hstop : ∀ r : Span, (r.moved n).stop = n + r.stop := by
      intro r
      simp only [Span.stop, Span.moved]
      omega
    rw [hstop, Span.stop_hull, Span.stop_hull, hstop, hstop]
    omega

theorem Expr.spanOr_moved (n : Nat) (fallback : Span) (e : Expr) :
    (e.moved n).spanOr (fallback.moved n) = (e.spanOr fallback).moved n := by
  cases e <;> rfl

theorem Expr.moved_ofOperands (n : Nat) (op : Operator) (opSpan : Span) (left right : Expr) :
    (ofOperands op opSpan left right).moved n =
      ofOperands op (opSpan.moved n) (left.moved n) (right.moved n) := by
  unfold ofOperands
  rw [moved, spanOr_moved, spanOr_moved, Span.hull_moved]

theorem Expr.moved_parenthesized (n : Nat) (parens : Span) (e : Expr) :
    (e.parenthesized parens).moved n = (e.moved n).parenthesized (parens.moved n) := by
  cases e <;> rfl

/-- What tokens build further on, they build where they stand. -/
theorem Builds.of_moved {n : Nat} {phrase : Phrase} {ts : List Token} {e : Expr}
    (h : Builds phrase (ts.map (Token.moved n)) e) :
    ∃ f, Builds phrase ts f ∧ f.moved n = e := by
  generalize hus : ts.map (Token.moved n) = us at h
  induction h generalizing ts with
  | name hk =>
    obtain ⟨t, rfl, rfl⟩ := List.map_eq_singleton_iff.1 hus
    exact ⟨.reference t.text t.span, .name hk, rfl⟩
  | @number _ value hk hv =>
    obtain ⟨t, rfl, rfl⟩ := List.map_eq_singleton_iff.1 hus
    exact ⟨.literal value t.text t.span, .number hk hv, rfl⟩
  | parentheses ho _ hc ih =>
    obtain ⟨opening, rest, rfl, rfl, hrest⟩ := List.map_eq_cons_iff.1 hus
    obtain ⟨inner, last, rfl, hinner, hlast⟩ := List.map_eq_append_iff.1 hrest
    obtain ⟨closing, rfl, rfl⟩ := List.map_eq_singleton_iff.1 hlast
    obtain ⟨f, hf, rfl⟩ := ih hinner
    refine ⟨_, .parentheses ho hf hc, ?_⟩
    rw [Expr.moved_parenthesized, ← Span.hull_moved]
    rfl
  | first _ ih =>
    obtain ⟨f, hf, rfl⟩ := ih hus
    exact ⟨f, .first hf, rfl⟩
  | extend _ hmark _ ihl ihr =>
    obtain ⟨before, rest, rfl, hbefore, hrest⟩ := List.map_eq_append_iff.1 hus
    obtain ⟨t, after, rfl, rfl, hafter⟩ := List.map_eq_cons_iff.1 hrest
    obtain ⟨l, hl, rfl⟩ := ihl hbefore
    obtain ⟨r, hr, rfl⟩ := ihr hafter
    exact ⟨_, .extend hl hmark hr, Expr.moved_ofOperands n _ t.span l r⟩

/-- Variables that tokens declare further on, they declare where they stand. -/
theorem BuildsHeader.of_moved {n : Nat} {ts : List Token} {declared : List Declaration}
    (h : BuildsHeader (ts.map (Token.moved n)) declared) :
    ∃ ds, BuildsHeader ts ds ∧ ds.map (Declaration.moved n) = declared := by
  generalize hus : ts.map (Token.moved n) = us at h
  induction h generalizing ts with
  | last hn hc =>
    obtain ⟨name, rest, rfl, rfl, hrest⟩ := List.map_eq_cons_iff.1 hus
    obtain ⟨mark, rfl, rfl⟩ := List.map_eq_singleton_iff.1 hrest
    exact ⟨[⟨name.text, name.span⟩], .last hn hc, rfl⟩
  | more hn hm _ ih =>
    obtain ⟨name, rest, rfl, rfl, hrest⟩ := List.map_eq_cons_iff.1 hus
    obtain ⟨mark, later, rfl, rfl, hlater⟩ := List.map_eq_cons_iff.1 hrest
    obtain ⟨ds, hds, rfl⟩ := ih hlater
    exact ⟨⟨name.text, name.span⟩ :: ds, .more hn hm hds, rfl⟩

/-- A program that tokens build further on, they build where they stand. -/
theorem BuildsProgram.of_moved {n : Nat} {ts : List Token} {p : Program}
    (h : BuildsProgram (ts.map (Token.moved n)) p) :
    ∃ q, BuildsProgram ts q ∧ q.moved n = p := by
  generalize hus : ts.map (Token.moved n) = us at h
  cases h with
  | bare present hs =>
    subst hus
    obtain ⟨f, hf, rfl⟩ := hs.of_moved
    exact ⟨.bare f hf.ne_missing, .bare hf.ne_missing hf, rfl⟩
  | declaring hw hh hs =>
    obtain ⟨opening, rest, rfl, rfl, hrest⟩ := List.map_eq_cons_iff.1 hus
    obtain ⟨header, sum, rfl, rfl, rfl⟩ := List.map_eq_append_iff.1 hrest
    obtain ⟨ds, hds, rfl⟩ := hh.of_moved
    obtain ⟨f, hf, rfl⟩ := hs.of_moved
    exact ⟨_, .declaring hw hds hf, rfl⟩

/-! ## §2. Nodes. -/

/-- The nodes of the expression: itself and the nodes of its operands, without the holes. -/
def Expr.nodes : Expr → List Expr
  | missing => []
  | literal value text span => [.literal value text span]
  | reference name span => [.reference name span]
  | binary op opSpan left right span =>
    .binary op opSpan left right span :: (left.nodes ++ right.nodes)

/-- Parentheses change no node but the one that they stand around. -/
theorem Expr.mem_nodes_parenthesized {parens : Span} {e x : Expr}
    (h : x ∈ (e.parenthesized parens).nodes) : x = e.parenthesized parens ∨ x ∈ e.nodes := by
  cases e with
  | missing => cases h
  | literal => exact .inl (List.mem_singleton.1 h)
  | reference => exact .inl (List.mem_singleton.1 h)
  | binary =>
    rcases List.mem_cons.1 h with h | h
    · exact .inl h
    · exact .inr (List.mem_cons_of_mem _ h)

/-- Each node is built by tokens that stand side by side. -/
theorem Builds.node {phrase : Phrase} {ts : List Token} {e x : Expr} (h : Builds phrase ts e)
    (hx : x ∈ e.nodes) :
    ∃ before us after, ts = before ++ (us ++ after) ∧ Builds .sum us x := by
  have hroot : ∀ {phrase ts e}, Builds phrase ts e →
      ∃ before us after, ts = before ++ (us ++ after) ∧ Builds .sum us e :=
    fun {_ ts _} h => ⟨[], ts, [], by simp, h.toSum⟩
  induction h with
  | name hk =>
    cases List.mem_singleton.1 hx
    exact hroot (.name hk)
  | number hk hv =>
    cases List.mem_singleton.1 hx
    exact hroot (.number hk hv)
  | @parentheses opening closing ts e ho hs hc ih =>
    -- the node that they stand around has their tokens too, the nodes below have not
    rcases Expr.mem_nodes_parenthesized hx with rfl | hx
    · exact hroot (.parentheses ho hs hc)
    · obtain ⟨before, us, after, rfl, hus⟩ := ih hx
      exact ⟨opening :: before, us, after ++ [closing], by simp, hus⟩
  | first _ ih => exact ih hx
  | @extend layer t op ts us e f hl hmark hr ihl ihr =>
    rcases List.mem_cons.1 hx with rfl | hx
    · exact hroot (.extend hl hmark hr)
    rcases List.mem_append.1 hx with hx | hx
    · obtain ⟨before, vs, after, rfl, hvs⟩ := ihl hx
      exact ⟨before, vs, after ++ t :: us, by simp, hvs⟩
    · obtain ⟨before, vs, after, rfl, hvs⟩ := ihr hx
      exact ⟨ts ++ t :: before, vs, after, by simp, hvs⟩

/-- Each node of the expression of a program is built by tokens that stand side by side. -/
theorem BuildsProgram.node {ts : List Token} {p : Program} {x : Expr} (h : BuildsProgram ts p)
    (hx : x ∈ p.body.nodes) :
    ∃ before us after, ts = before ++ (us ++ after) ∧ Builds .sum us x := by
  cases h with
  | bare _ hs => exact hs.node hx
  | @declaring opening header sum declared body _ _ hs =>
    obtain ⟨before, us, after, rfl, hus⟩ := hs.node hx
    exact ⟨opening :: (header ++ before), us, after, by simp, hus⟩

/-! ## §3. Places. -/

/-- No token starts before an earlier one stops. -/
def Ordered (ts : List Token) : Prop := ts.Pairwise fun t u => t.span.stop ≤ u.span.start

theorem stopOf_append_cons (offset : Nat) (ts us : List Token) (u : Token) :
    stopOf offset (ts ++ u :: us) = stopOf 0 (u :: us) := by
  induction ts generalizing offset with
  | nil => rw [List.nil_append, stopOf_cons, stopOf_cons]
  | cons t ts ih => rw [List.cons_append, stopOf_cons, ih]

/-- Tokens end where one of them stops. -/
theorem exists_mem_stopOf (offset : Nat) (t : Token) (ts : List Token) :
    ∃ u ∈ t :: ts, stopOf offset (t :: ts) = u.span.stop := by
  induction ts generalizing offset t with
  | nil => exact ⟨t, List.mem_singleton_self t, rfl⟩
  | cons u ts ih =>
    obtain ⟨v, hv, hstop⟩ := ih t.span.stop u
    exact ⟨v, List.mem_cons_of_mem t hv, by rw [stopOf_cons, hstop]⟩

/-- Ordered tokens end behind their start. -/
theorem Ordered.start_le_stopOf {t : Token} {ts : List Token} (h : Ordered (t :: ts)) :
    t.span.start ≤ stopOf 0 (t :: ts) := by
  obtain ⟨u, hu, hstop⟩ := exists_mem_stopOf 0 t ts
  rw [hstop]
  have htt := t.span.start_le_stop
  rcases List.mem_cons.1 hu with rfl | hu
  · exact htt
  · have htu := (List.pairwise_cons.1 h).1 u hu
    have huu := u.span.start_le_stop
    omega

/-- The first of two parts of ordered tokens ends before the second starts. -/
theorem Ordered.stopOf_le_start {t u : Token} {ts us : List Token}
    (h : Ordered (t :: ts ++ us)) (hu : u ∈ us) : stopOf 0 (t :: ts) ≤ u.span.start := by
  obtain ⟨v, hv, hstop⟩ := exists_mem_stopOf 0 t ts
  rw [hstop]
  exact (List.pairwise_append.1 h).2.2 v hv u hu

/-- The span reaches from the start of the first token to the end of the last. -/
def Covers (s : Span) (ts : List Token) : Prop :=
  ∃ t us, ts = t :: us ∧ s.start = t.span.start ∧ s.stop = stopOf 0 ts

/-- The hull of the spans of two parts of ordered tokens is the span of all of them. -/
theorem Covers.hull {s r : Span} {ts us vs : List Token} (ho : Ordered (ts ++ (us ++ vs)))
    (hs : Covers s ts) (hr : Covers r vs) : Covers (s.hull r) (ts ++ (us ++ vs)) := by
  obtain ⟨t, ts, rfl, hstart, hstop⟩ := hs
  obtain ⟨v, vs, rfl, hstart', hstop'⟩ := hr
  have hv : v ∈ us ++ v :: vs := List.mem_append_right us (List.mem_cons_self ..)
  have hlow := Ordered.start_le_stopOf (List.pairwise_append.1 ho).1
  have hmid := Ordered.stopOf_le_start ho hv
  have hvs : Ordered (v :: vs) := (List.pairwise_append.1 (List.pairwise_append.1 ho).2.1).2.1
  have hhigh := hvs.start_le_stopOf
  refine ⟨t, ts ++ (us ++ v :: vs), rfl, ?_, ?_⟩
  · rw [Span.start_hull, hstart, hstart']
    omega
  · rw [Span.stop_hull, hstop, hstop', ← List.append_assoc, stopOf_append_cons]
    omega

theorem covers_singleton (t : Token) : Covers t.span [t] := ⟨t, [], rfl, rfl, rfl⟩

/-- The place of an expression reaches from the first of its tokens to the last. -/
theorem Builds.place {phrase : Phrase} {ts : List Token} {e : Expr} (h : Builds phrase ts e)
    (ho : Ordered ts) (fallback : Span) : Covers (e.spanOr fallback) ts := by
  induction h generalizing fallback with
  | @name t => exact covers_singleton t
  | @number t => exact covers_singleton t
  | @parentheses opening closing ts e _ hs _ ih =>
    rw [Expr.spanOr_parenthesized hs.ne_missing]
    show Covers (opening.span.hull closing.span) ([opening] ++ (ts ++ [closing]))
    exact Covers.hull ho (covers_singleton opening) (covers_singleton closing)
  | first _ ih => exact ih ho fallback
  | @extend layer t op ts us e f _ _ _ ihl ihr =>
    rw [Expr.spanOr_ofOperands]
    have hts : Ordered ts := (List.pairwise_append.1 ho).1
    have hus : Ordered us := (List.pairwise_cons.1 (List.pairwise_append.1 ho).2.1).2
    show Covers _ (ts ++ ([t] ++ us))
    exact Covers.hull ho (ihl hts t.span) (ihr hus t.span)

/-- The place of a program reaches from the first of its tokens to the last. -/
theorem BuildsProgram.place {ts : List Token} {p : Program} (h : BuildsProgram ts p)
    (ho : Ordered ts) : Covers p.span ts := by
  cases h with
  | bare _ hs => exact hs.place ho ⟨0, 0⟩
  | @declaring opening ts us declared body _ _ hs =>
    have hus : Ordered us := (List.pairwise_append.1 (List.pairwise_cons.1 ho).2).2.1
    show Covers (opening.span.hull (body.spanOr _)) ([opening] ++ (ts ++ us))
    exact Covers.hull ho (covers_singleton opening) (hs.place hus _)

/-! ## §4. Texts. -/

/-- A place from the first to the last of some tokens that stand side by side cuts the source
into three, and the tokens with it. -/
theorem Covers.parts {source : String} {before us after : List Token} {s : Span}
    (hs : Covers s us) (h : tokens source = before ++ (us ++ after)) :
    ∃ front mid back, source.toList = front ++ (mid ++ back) ∧ s = ⟨width front, width mid⟩ ∧
      Scans 0 front before ∧ Scans (width front) mid us ∧
      Scans (width front + width mid) back after := by
  obtain ⟨t, vs, rfl, hstart, hstop⟩ := hs
  have hscan : Scans 0 source.toList (before ++ (t :: vs ++ after)) := scans_iff.2 h.symm
  obtain ⟨front, mid, back, hsource, hfront, hmid, hbefore, hus, hafter⟩ := hscan.parts
  rw [Nat.zero_add] at hfront
  rw [hfront] at hus hafter
  refine ⟨front, mid, back, hsource, ?_, hbefore, hus, hafter⟩
  apply Span.ext_ends
  · rw [hstart, hfront]
  · rw [hstop, hmid, hfront]
    rfl

/-- Where some of the tokens of a source stand side by side, the text from the first to
the last of them has the same tokens, only further to the left. -/
theorem exists_text_of_tokens {source : String} {before us after : List Token} {s : Span}
    (h : tokens source = before ++ (us ++ after)) (hs : Covers s us) :
    ∃ text, s.text? source = some text ∧ us = (tokens text).map (Token.moved s.start) := by
  obtain ⟨front, mid, back, hsource, rfl, -, hus, -⟩ := hs.parts h
  refine ⟨String.ofList mid, ?_, ?_⟩
  · apply Span.text?_eq_some_iff.2
    rw [String.toList_ofList]
    exact ⟨front, back, hsource, rfl⟩
  · have hmoved := tokensFrom_moved (width front) 0 mid
    rw [tokens, String.toList_ofList, ← hmoved]
    exact hus.eq_tokensFrom

/-- The tokens of a source are in order. -/
theorem ordered_tokens (source : String) : Ordered (tokens source) :=
  (scans_tokensFrom 0 source.toList).pieces.ordered

/-- **THE PLACE OF A NODE HOLDS ITS PROGRAM TEXT.**  Take a source that is read without an
error.  What stands at the place of any node of its expression is itself read without an
error, as that node alone; and what stands at the place of the whole program is read as
that program.  All places are the same, only moved to the left by what was cut off. -/
theorem parse_text_of_node {source : String} {p : Program} (he : (parse source).errors = [])
    (hp : (parse source).program = some p) :
    (∀ x ∈ p.body.nodes, ∃ text f, (x.spanOr ⟨0, 0⟩).text? source = some text ∧
        (parse text).errors = [] ∧ (∃ h, (parse text).program = some (.bare f h)) ∧
        f.moved (x.spanOr ⟨0, 0⟩).start = x) ∧
      ∃ text q, p.span.text? source = some text ∧ (parse text).errors = [] ∧
        (parse text).program = some q ∧ q.moved p.span.start = p := by
  have hbuilds := parse_builds_iff.1 ⟨he, hp⟩
  have hordered := ordered_tokens source
  refine ⟨?_, ?_⟩
  · intro x hx
    obtain ⟨before, us, after, hts, hus⟩ := hbuilds.node hx
    rw [hts] at hordered
    have hordered' : Ordered us :=
      (List.pairwise_append.1 (List.pairwise_append.1 hordered).2.1).1
    obtain ⟨text, htext, hmoved⟩ := exists_text_of_tokens hts (hus.place hordered' ⟨0, 0⟩)
    -- the text has its tokens further to the left, and they build the node there
    rw [hmoved] at hus
    obtain ⟨f, hf, hfx⟩ := hus.of_moved
    obtain ⟨he', hp'⟩ := parse_builds_iff.2 (.bare hf.ne_missing hf)
    exact ⟨text, f, htext, he', ⟨hf.ne_missing, hp'⟩, hfx⟩
  · have hts : tokens source = [] ++ (tokens source ++ []) := by simp
    obtain ⟨text, htext, hmoved⟩ := exists_text_of_tokens hts (hbuilds.place hordered)
    rw [hmoved] at hbuilds
    obtain ⟨q, hq, hqp⟩ := hbuilds.of_moved
    obtain ⟨he', hp'⟩ := parse_builds_iff.2 hq
    exact ⟨text, q, htext, he', hp', hqp⟩

/-- In `with a: 1 + ((a) * 02)` the place of the product is that of the parentheses around
it, and the parentheses of `a` are inside; the place of the program is the whole source. -/
theorem parse_text_of_node_parenthesized :
    ∃ p x, (parse "with a: 1 + ((a) * 02)").program = some p ∧ x ∈ p.body.nodes ∧
      x.spanOr ⟨0, 0⟩ = ⟨12, 10⟩ ∧ p.span = ⟨0, 22⟩ ∧
      (∃ text f, (⟨12, 10⟩ : Span).text? "with a: 1 + ((a) * 02)" = some text ∧
        (parse text).errors = [] ∧ (∃ h, (parse text).program = some (.bare f h)) ∧
        f.moved 12 = x) ∧
      ∃ text q, (⟨0, 22⟩ : Span).text? "with a: 1 + ((a) * 02)" = some text ∧
        (parse text).errors = [] ∧ (parse text).program = some q ∧ q.moved 0 = p := by
  let number : Expr := .literal 2 "02" ⟨19, 2⟩
  let product : Expr := .binary .mul ⟨17, 1⟩ (.reference "a" ⟨13, 3⟩) number ⟨12, 10⟩
  let sum : Expr := .binary .add ⟨10, 1⟩ (.literal 1 "1" ⟨8, 1⟩) product ⟨8, 14⟩
  let p : Program := .declaring ⟨0, 4⟩ [⟨"a", ⟨5, 1⟩⟩] sum
  have hp : (parse "with a: 1 + ((a) * 02)").program = some p := by decide +kernel
  have hmem : product ∈ p.body.nodes := by decide
  have hspan : p.span = ⟨0, 22⟩ := by decide
  obtain ⟨hnodes, hroot⟩ := parse_text_of_node (by decide +kernel) hp
  rw [hspan] at hroot
  exact ⟨p, product, hp, hmem, rfl, hspan, hnodes product hmem, hroot⟩

end Calculator
