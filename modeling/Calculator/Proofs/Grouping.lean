/-
  Calculator.Proofs.Grouping
  ──────────────────────────
  **PARENTHESES AROUND A NODE CHANGE NOTHING.**

  A source is read without an error, and parentheses are put around the place of any node of
  its expression.  Then the source is still read without an error, as the same program up to
  places, so that it does the same on any runtime.

  In the text the two parentheses are words of their own, whatever they are put next to, so the
  tokens are the old ones, two more, and nothing else but further on (`tokens_group`).  Among
  the tokens they stand around some that build the node, and what builds a node in parentheses
  goes wherever the node can go (`Builds.groups`).

  Main statement: `grouping_changes_nothing`.
-/
import Calculator.Proofs.Layout
import Calculator.Proofs.NodeText

namespace Calculator

open Text (width width_append)

/-! ## §1. Texts. -/

/-- The text with one more character in front of the byte `n`. -/
def insertAt? (n : Nat) (c : Char) (text : String) : Option String :=
  (Text.takeBytes? n text.toList).bind fun front =>
    (Text.dropBytes? n text.toList).map fun back => .ofList (front ++ c :: back)

/-- The text with parentheses around the place. -/
def group? (s : Span) (text : String) : Option String :=
  (insertAt? s.stop ')' text).bind (insertAt? s.start '(')

theorem insertAt?_append {text : String} {front back : List Char} (c : Char)
    (h : text.toList = front ++ back) :
    insertAt? (width front) c text = some (.ofList (front ++ c :: back)) := by
  rw [insertAt?, h, Text.takeBytes?_append, Text.dropBytes?_append]
  rfl

/-- The parentheses stand next to the text at the place. -/
theorem group?_of_append {text : String} {front mid back : List Char}
    (h : text.toList = front ++ (mid ++ back)) :
    group? ⟨width front, width mid⟩ text =
      some (.ofList (front ++ '(' :: (mid ++ ')' :: back))) := by
  have hstop : (⟨width front, width mid⟩ : Span).stop = width (front ++ mid) :=
    (width_append front mid).symm
  have hclose : insertAt? (width (front ++ mid)) ')' text =
      some (.ofList (front ++ (mid ++ ')' :: back))) := by
    rw [insertAt?_append ')' (by rw [h, List.append_assoc]), List.append_assoc]
  rw [group?, hstop, hclose, Option.bind_some]
  exact insertAt?_append '(' String.toList_ofList

/-! ## §2. Tokens. -/

/-- A character that is neither layout nor a letter nor a digit is a word of its own, in front
of any text. -/
theorem Scans.mark {offset : Nat} {c : Char} {cs : List Char} {ts : List Token}
    (hlayout : isLayout c = false) (halone : ∀ d, joins c d = false)
    (h : Scans (offset + c.utf8Size) cs ts) :
    Scans offset (c :: cs) (.ofText offset [c] :: ts) := by
  have hword : IsWord [c] := ⟨hlayout, by simp⟩
  have hclosed : Closed [c] cs := by
    intro a ha d _
    cases ha
    exact halone d
  exact .word isGap_nil hword hclosed h

/-- Parentheses around a part of a text are two more tokens; the others move on. -/
theorem Scans.enclosed {front mid back : List Char} {before us after : List Token}
    (hbefore : Scans 0 front before) (hus : Scans (width front) mid us)
    (hafter : Scans (width front + width mid) back after) :
    Scans 0 (front ++ '(' :: (mid ++ ')' :: back))
      (before ++ .ofText (width front) ['('] :: (us.map (Token.moved 1) ++
        .ofText (1 + width front + width mid) [')'] :: after.map (Token.moved 2))) := by
  have hopening : '('.utf8Size = 1 := rfl
  have hclosing : ')'.utf8Size = 1 := rfl
  -- from right to left: what is behind, then the part itself, then what is in front
  have hclose : Scans (1 + width front + width mid) (')' :: back)
      (.ofText (1 + width front + width mid) [')'] :: after.map (Token.moved 2)) := by
    refine .mark rfl (fun _ => rfl) ?_
    have hmoved := hafter.moved 2
    have hplace : 2 + (width front + width mid) = 1 + width front + width mid + ')'.utf8Size := by
      omega
    rwa [hplace] at hmoved
  have hopen : Scans (width front) ('(' :: (mid ++ ')' :: back)) (.ofText (width front) ['('] ::
      (us.map (Token.moved 1) ++
        .ofText (1 + width front + width mid) [')'] :: after.map (Token.moved 2))) := by
    refine .mark rfl (fun _ => rfl) ?_
    rw [hopening, Nat.add_comm]
    exact (hus.moved 1).append hclose (by simp)
  exact hbefore.append (by rwa [Nat.zero_add]) (by simp)

/-- The tokens of a text with parentheses around a place are those of the text, with the
parentheses around those at the place. -/
theorem tokens_group {source : String} {before us after : List Token} {s : Span}
    (h : tokens source = before ++ (us ++ after)) (hs : Covers s us) :
    ∃ text, group? s source = some text ∧
      (tokens text).map Token.unplaced =
        (before ++ .ofText 0 ['('] :: (us ++ .ofText 0 [')'] :: after)).map Token.unplaced := by
  obtain ⟨front, mid, back, hsource, rfl, hbefore, hus, hafter⟩ := hs.parts h
  refine ⟨_, group?_of_append hsource, ?_⟩
  rw [tokens, String.toList_ofList, ← (hbefore.enclosed hus hafter).eq_tokensFrom]
  -- a token that is moved is the same without its place
  simp only [List.map_append, List.map_cons, List.map_map]
  rfl

/-! ## §3. Trees. -/

/-- What a factor builds, any phrase builds. -/
theorem Builds.ofFactor {ts : List Token} {e : Expr} (h : Builds .factor ts e) (phrase : Phrase) :
    Builds phrase ts e := by
  have hproduct : Builds Layer.product.phrase ts e := .first h
  cases phrase with
  | factor => exact h
  | product => exact hproduct
  | sum => exact h.toSum

theorem Expr.parenthesized_unplaced (e : Expr) :
    e.unplaced.parenthesized .nowhere = e.unplaced := by
  cases e <;> rfl

variable {opening closing : Token} {x : Expr}

/-- Tokens in parentheses build what the tokens build, up to places. -/
theorem Builds.around {phrase : Phrase} {ts : List Token} {e : Expr} (h : Builds phrase ts e)
    (ho : opening.kind = .leftParen) (hc : closing.kind = .rightParen) :
    ∃ f, Builds phrase (opening :: (ts ++ [closing])) f ∧ f.unplaced = e.unplaced := by
  refine ⟨_, (Builds.parentheses ho h.toSum hc).ofFactor phrase, ?_⟩
  rw [Expr.unplaced_parenthesized, Expr.parenthesized_unplaced]

/-- Among the tokens of an expression there are some that build the node, and with parentheses
around these the tokens build the expression as well, up to places. -/
def Groups (opening closing : Token) (phrase : Phrase) (ts : List Token) (e x : Expr) : Prop :=
  ∃ before us after f, ts = before ++ (us ++ after) ∧ Builds .sum us x ∧
    Builds phrase (before ++ opening :: (us ++ closing :: after)) f ∧ f.unplaced = e.unplaced

/-- Around the tokens of a node there may be parentheses. -/
theorem Builds.groups {phrase : Phrase} {ts : List Token} {e : Expr} (h : Builds phrase ts e)
    (hx : x ∈ e.nodes) (ho : opening.kind = .leftParen) (hc : closing.kind = .rightParen) :
    Groups opening closing phrase ts e x := by
  -- parentheses make a factor, and a factor may stand for any phrase
  have hroot : ∀ {phrase ts e}, Builds phrase ts e → Groups opening closing phrase ts e e := by
    intro phrase ts e h
    obtain ⟨f, hf, heq⟩ := h.around ho hc
    exact ⟨[], ts, [], f, by simp, h.toSum, hf, heq⟩
  induction h with
  | name hk =>
    cases List.mem_singleton.1 hx
    exact hroot (.name hk)
  | number hk hv =>
    cases List.mem_singleton.1 hx
    exact hroot (.number hk hv)
  | @parentheses outer last ts e hp hs hl ih =>
    -- the node that the old ones stand around takes them along, the nodes below do not
    rcases Expr.mem_nodes_parenthesized hx with rfl | hx
    · exact hroot (.parentheses hp hs hl)
    · obtain ⟨before, us, after, f, rfl, hus, hf, heq⟩ := ih hx
      have hwhole := Builds.parentheses hp hf hl
      refine ⟨outer :: before, us, after ++ [last], _, by simp, hus, by simpa using hwhole, ?_⟩
      rw [Expr.unplaced_parenthesized, Expr.unplaced_parenthesized, heq]
  | first _ ih =>
    obtain ⟨before, us, after, f, rfl, hus, hf, heq⟩ := ih hx
    exact ⟨before, us, after, f, rfl, hus, .first hf, heq⟩
  | @extend layer t op ts us e f hl hmark hr ihl ihr =>
    rcases List.mem_cons.1 hx with rfl | hx
    · exact hroot (.extend hl hmark hr)
    -- the operand with the new ones goes where the operand was
    rcases List.mem_append.1 hx with hx | hx
    · obtain ⟨before, vs, after, g, rfl, hvs, hg, heq⟩ := ihl hx
      have hwhole := Builds.extend hg hmark hr
      refine ⟨before, vs, after ++ t :: us, _, by simp, hvs, by simpa using hwhole, ?_⟩
      rw [Expr.unplaced_ofOperands, Expr.unplaced_ofOperands, heq]
    · obtain ⟨before, vs, after, g, rfl, hvs, hg, heq⟩ := ihr hx
      have hwhole := Builds.extend hl hmark hg
      refine ⟨ts ++ t :: before, vs, after, _, by simp, hvs, by simpa using hwhole, ?_⟩
      rw [Expr.unplaced_ofOperands, Expr.unplaced_ofOperands, heq]

/-- Around the tokens of a node of a program there may be parentheses. -/
theorem BuildsProgram.grouped {ts : List Token} {p : Program} (h : BuildsProgram ts p)
    (hx : x ∈ p.body.nodes) (ho : opening.kind = .leftParen) (hc : closing.kind = .rightParen) :
    ∃ before us after q, ts = before ++ (us ++ after) ∧ Builds .sum us x ∧
      BuildsProgram (before ++ opening :: (us ++ closing :: after)) q ∧
        q.unplaced = p.unplaced := by
  cases h with
  | @bare _ body _ hs =>
    obtain ⟨before, us, after, f, hts, hus, hf, heq⟩ := hs.groups hx ho hc
    refine ⟨before, us, after, .bare f hf.ne_missing, hts, hus, .bare _ hf, ?_⟩
    simp only [Program.unplaced, heq]
  | @declaring word header sum declared body hw hh hs =>
    obtain ⟨before, us, after, f, rfl, hus, hf, heq⟩ := hs.groups hx ho hc
    have hwhole := BuildsProgram.declaring hw hh hf
    refine ⟨word :: (header ++ before), us, after, .declaring word.span declared f, by simp, hus,
      by simpa using hwhole, ?_⟩
    simp only [Program.unplaced, heq]

/-- A source whose tokens, up to places, build a program is read as that, up to places. -/
theorem parse_of_builds_unplaced {text : String} {ts : List Token} {p : Program}
    (h : BuildsProgram ts p) (hts : (tokens text).map Token.unplaced = ts.map Token.unplaced) :
    (parse text).errors = [] ∧
      ∃ q, (parse text).program = some q ∧ q.unplaced = p.unplaced := by
  obtain ⟨events, hread, he⟩ := h.readsUnit 0
  obtain ⟨hvalue, hrest, hevents⟩ := hread.parseUnit_eq
  have herrors : (parseTokens 0 ts).errors = [] := by
    show Journal.errors (.entry _ (.join _ _)) = _
    have hunit : (parseUnit 0 ts).journal.errors = [] := (congrArg errorsOf hevents).trans he
    rw [Journal.errors_sighted, Journal.errors_join, hunit, hrest]
    rfl
  -- without places these are the same tokens, so the same is made of them
  obtain ⟨hq, hf⟩ := parseTokens_unplaced (sourceSize text) (tokens text)
  obtain ⟨hp, hg⟩ := parseTokens_unplaced 0 ts
  rw [hts, ← hp] at hq
  rw [hts, ← hg] at hf
  constructor
  · have hmap : (parse text).errors.map SyntaxError.unplaced =
        (parseTokens 0 ts).errors.map SyntaxError.unplaced := by
      rw [Parse.errors, Parse.errors, Journal.errors_unplaced, Journal.errors_unplaced]
      exact congrArg (List.filterMap Event.error?) hf
    rw [herrors] at hmap
    exact List.map_eq_nil_iff.1 hmap
  · exact Option.map_eq_some_iff.1 (hq.trans (congrArg (Option.map Program.unplaced) hvalue))

/-! ## §4. Sources. -/

/-- **PARENTHESES AROUND A NODE CHANGE NOTHING.**  Let a source be read without an error, and
let parentheses be put right in front of and right behind the place of any node of its
expression.  The new source is read without an error too, as the same program up to places.  So
in any session, on a console or on any other runtime, the two programs have the same value or, up
to its place, the same failure, and leave the same session, whether they are run or evaluated. -/
theorem grouping_changes_nothing {source : String} {p : Program}
    (he : (parse source).errors = []) (hp : (parse source).program = some p) {x : Expr}
    (hx : x ∈ p.body.nodes) :
    ∃ text q, group? (x.spanOr ⟨0, 0⟩) source = some text ∧ (parse text).errors = [] ∧
      (parse text).program = some q ∧ q.unplaced = p.unplaced ∧
      ∀ (σ : Type) [Runtime σ] (session : Session σ),
        Session.unplacedResult (session.run q) = Session.unplacedResult (session.run p) ∧
          Session.unplacedResult (session.evaluate q) =
            Session.unplacedResult (session.evaluate p) := by
  have hbuilds := parse_builds_iff.1 ⟨he, hp⟩
  have hordered := ordered_tokens source
  obtain ⟨before, us, after, r, hts, hus, hr, hrp⟩ :=
    hbuilds.grouped hx (Token.kind_ofText 0 ['(']) (Token.kind_ofText 0 [')'])
  rw [hts] at hordered
  have hordered' : Ordered us :=
    (List.pairwise_append.1 (List.pairwise_append.1 hordered).2.1).1
  obtain ⟨text, htext, htokens⟩ := tokens_group hts (hus.place hordered' ⟨0, 0⟩)
  obtain ⟨he', q, hq, hqr⟩ := parse_of_builds_unplaced hr htokens
  have hqp := hqr.trans hrp
  exact ⟨text, q, htext, he', hq, hqp, fun _ _ session => session.run_eq_of_unplaced hqp⟩

/-- In `with a:1/a-03` the left operand `1/a` gets parentheses.  For the value 0 it fails with
them as without, and only the place that is told of has grown. -/
theorem grouping_changes_nothing_operand :
    ∃ p x q, (parse "with a:1/a-03").errors = [] ∧ (parse "with a:1/a-03").program = some p ∧
      x ∈ p.body.nodes ∧ x.spanOr ⟨0, 0⟩ = ⟨7, 3⟩ ∧
      group? ⟨7, 3⟩ "with a:1/a-03" = some "with a:(1/a)-03" ∧
      (parse "with a:(1/a)-03").errors = [] ∧ (parse "with a:(1/a)-03").program = some q ∧
      q.unplaced = p.unplaced ∧ q ≠ p ∧
      ((Session.ofConsole (Console.ofInput [48, 10])).run p).1 = .error (.divisionByZero ⟨7, 3⟩) ∧
      ((Session.ofConsole (Console.ofInput [48, 10])).run q).1.mapError RuntimeError.unplaced =
        .error (.divisionByZero .nowhere) := by
  let quotient : Expr :=
    .binary .div ⟨8, 1⟩ (.literal 1 "1" ⟨7, 1⟩) (.reference "a" ⟨9, 1⟩) ⟨7, 3⟩
  let p : Program := .declaring ⟨0, 4⟩ [⟨"a", ⟨5, 1⟩⟩]
    (.binary .sub ⟨10, 1⟩ quotient (.literal 3 "03" ⟨11, 2⟩) ⟨7, 6⟩)
  have he : (parse "with a:1/a-03").errors = [] := by decide +kernel
  have hp : (parse "with a:1/a-03").program = some p := by decide +kernel
  have hmem : quotient ∈ p.body.nodes := by decide
  have hgroup : group? ⟨7, 3⟩ "with a:1/a-03" = some "with a:(1/a)-03" := by decide +kernel
  have hrun : ((Session.ofConsole (Console.ofInput [48, 10])).run p).1 =
      .error (.divisionByZero ⟨7, 3⟩) := rfl
  obtain ⟨text, q, htext, he', hq, hqp, hruns⟩ := grouping_changes_nothing he hp hmem
  obtain rfl : "with a:(1/a)-03" = text := Option.some.inj (hgroup.symm.trans htext)
  have hne : q ≠ p := by
    rintro rfl
    exact absurd hq (by decide +kernel)
  refine ⟨p, quotient, q, he, hp, hmem, rfl, hgroup, he', hq, hqp, hne, hrun, ?_⟩
  rw [(Prod.mk.inj (hruns _ _).1).1, hrun]
  rfl

end Calculator
