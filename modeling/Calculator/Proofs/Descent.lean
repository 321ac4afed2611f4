/-
  Calculator.Proofs.Descent
  ─────────────────────────
  **READING ENDS.**

  The functions that read call each other, and behind an error they can go on at a token that
  was looked at before.  Yet each call leaves less to do: a round of a loop and a sum in
  parentheses have a token less before them, and without a token being taken only readers of
  smaller and smaller things are called.  There are no other calls: with right answers to
  these, each function gives what it gives.

  Main statements:
    * `Calls.load_lt`, `wellFounded_calls` — calls come to an end;
    * `Helpers.right_round`                — no other calls are made;
    * `Helpers.right_of_round_eq`          — so there is one way of reading.
-/
import Calculator.Proofs.Reading.Program

namespace Calculator

variable {size : Nat}

/-! ## §1. Calls. -/

/-- What there is to do with tokens. -/
inductive Task where
  /-- Reading a program. -/
  | program
  /-- Reading declared variables. -/
  | header
  /-- Reading a part of an expression. -/
  | read (reader : Reader)
  /-- Leaving out tokens up to one whose kind `resumes`, when `skipped` have been left out. -/
  | skip (resumes : TokenKind → Bool) (skipped : Nat)

/-- Doing the first task with its tokens leads to doing the second with those given to it. -/
inductive Calls (size : Nat) : Task × List Token → Task × List Token → Prop where
  | bare {ts : List Token} (kind : (lookAhead size ts).kind ≠ .withKeyword) :
      Calls size (.program, ts) (.read (.chain .sum), ts)
  | declared {t : Token} (kind : t.kind = .withKeyword) (ts : List Token) :
      Calls size (.program, t :: ts) (.header, ts)
  | body {t : Token} {ts : List Token} {declared : List Declaration} (kind : t.kind = .withKeyword)
      (value : (parseDeclared size ts).value = .ok declared) :
      Calls size (.program, t :: ts) (.read (.chain .sum), (parseDeclared size ts).rest)
  | abandoned {t : Token} {ts : List Token} {error : SyntaxError} (kind : t.kind = .withKeyword)
      (value : (parseDeclared size ts).value = .error error) :
      Calls size (.program, t :: ts) (.skip (fun _ => false) 0, (parseDeclared size ts).rest)
  /-- The next round of the loop over declared variables. -/
  | name {t mark : Token} (kind : t.kind = .identifier) (comma : mark.kind = .comma)
      (ts : List Token) : Calls size (.header, t :: mark :: ts) (.header, ts)
  | sumOperand (ts : List Token) :
      Calls size (.read (.operand .sum), ts) (.read (.chain .product), ts)
  | productOperand (ts : List Token) :
      Calls size (.read (.operand .product), ts) (.read .factor, ts)
  | first (layer : Layer) (ts : List Token) :
      Calls size (.read (.chain layer), ts) (.read (.operand layer), ts)
  | more (layer : Layer) (ts : List Token) :
      Calls size (.read (.chain layer), ts)
        (.read (.extension layer (parseOperand size layer ts).value),
          (parseOperand size layer ts).rest)
  | right {layer : Layer} {t : Token} {op : Operator} (mark : layer.operator? t.kind = some op)
      (left : Expr) (ts : List Token) :
      Calls size (.read (.extension layer left), t :: ts) (.read (.operand layer), ts)
  /-- The next round of the loop over the operators of a layer. -/
  | operator {layer : Layer} {t : Token} {op : Operator} (mark : layer.operator? t.kind = some op)
      (left : Expr) (ts : List Token) :
      Calls size (.read (.extension layer left), t :: ts)
        (.read (.extension layer (.ofOperands op t.span left (parseOperand size layer ts).value)),
          (parseOperand size layer ts).rest)
  /-- A sum in parentheses. -/
  | nested {t : Token} (opens : t.kind = .leftParen) (ts : List Token) :
      Calls size (.read .factor, t :: ts) (.read (.chain .sum), ts)
  | outOfRange {t : Token} (kind : t.kind = .number)
      (large : Number.read? t.text.toList = none) (ts : List Token) :
      Calls size (.read .factor, t :: ts) (.skip TokenKind.followsOperand 0, ts)
  | unclosed {t : Token} {ts : List Token} (opens : t.kind = .leftParen)
      (unclosed : (lookAhead size (parseChain size .sum ts).rest).kind ≠ .rightParen) :
      Calls size (.read .factor, t :: ts)
        (.skip TokenKind.followsOperand 0, (parseChain size .sum ts).rest)
  | unexpected {ts : List Token} (kind : (lookAhead size ts).kind.startsFactor = false) :
      Calls size (.read .factor, ts) (.skip TokenKind.followsOperand 0, ts)
  /-- The next round of the loop that leaves tokens out. -/
  | pass {resumes : TokenKind → Bool} {t : Token} (kind : resumes t.kind = false)
      (skipped : Nat) (ts : List Token) :
      Calls size (.skip resumes skipped, t :: ts) (.skip resumes (skipped + 1), ts)

/-- The second task is another round of the loop that the first is a round of, or the sum
inside a factor. -/
inductive Task.Repeats : Task → Task → Prop where
  | names : Repeats .header .header
  | operators (layer : Layer) (left more : Expr) :
      Repeats (.read (.extension layer left)) (.read (.extension layer more))
  | parentheses : Repeats (.read .factor) (.read (.chain .sum))
  | skipped (resumes : TokenKind → Bool) (n m : Nat) :
      Repeats (.skip resumes n) (.skip resumes m)

/-! ## §2. Calls come to an end. -/

/-- How far from its end a task is: how many tokens there are, and how many calls it can take
until one of them is taken. -/
def Task.load : Task × List Token → Nat
  | (.program, ts) => 6 * ts.length + 6
  | (.header, ts) => 6 * ts.length
  | (.read (.chain layer), ts) => 6 * ts.length + layer.rank + 2
  | (.read (.operand layer), ts) => 6 * ts.length + layer.rank + 1
  | (.read .factor, ts) => 6 * ts.length + 1
  | (.read (.extension _ _), ts) => 6 * ts.length
  | (.skip _ _, ts) => 6 * ts.length

namespace Calls

variable {task called : Task} {ts us : List Token}

/-- No call gives tokens back. -/
theorem suffix (h : Calls size (task, ts) (called, us)) : us <:+ ts := by
  have hcons : ∀ {t : Token} {ts us : List Token}, us <:+ ts → us <:+ t :: ts :=
    fun {t ts _} hsub => hsub.trans (List.suffix_cons t ts)
  cases h with
  | bare => exact List.suffix_rfl
  | declared => exact List.suffix_cons _ _
  | body => exact hcons (parseDeclared size _).suffix
  | abandoned => exact hcons (parseDeclared size _).suffix
  | name => exact hcons (List.suffix_cons _ _)
  | sumOperand => exact List.suffix_rfl
  | productOperand => exact List.suffix_rfl
  | first => exact List.suffix_rfl
  | more layer => exact (parseOperand size layer ts).suffix
  | right => exact List.suffix_cons _ _
  | @operator layer => exact hcons (parseOperand size layer _).suffix
  | nested => exact List.suffix_cons _ _
  | outOfRange => exact List.suffix_cons _ _
  | unclosed => exact hcons (parseChain size .sum _).suffix
  | unexpected => exact List.suffix_rfl
  | pass => exact List.suffix_cons _ _

/-- Each round of a loop and each sum in parentheses takes a token. -/
theorem length_lt (h : Calls size (task, ts) (called, us)) (hr : task.Repeats called) :
    us.length < ts.length := by
  cases hr with
  | names =>
    cases h with
    | name => exact Nat.lt_succ_of_lt (Nat.lt_succ_self _)
  | operators =>
    cases h with
    | operator _ _ ts => exact Nat.lt_succ_of_le (parseOperand size _ ts).length_rest_le
  | parentheses =>
    cases h with
    | nested => exact Nat.lt_succ_self _
  | skipped =>
    cases h with
    | pass => exact Nat.lt_succ_self _

/-- Each call leaves less to do. -/
theorem load_lt (h : Calls size (task, ts) (called, us)) :
    Task.load (called, us) < Task.load (task, ts) := by
  -- a token less outweighs whatever is called next, and with the same tokens the rank goes down
  cases h with
  | bare => simp only [Task.load, Layer.rank]; omega
  | declared => simp only [Task.load, List.length_cons]; omega
  | @body _ ts =>
    have hrest := (parseDeclared size ts).length_rest_le
    simp only [Task.load, Layer.rank, List.length_cons]
    omega
  | @abandoned _ ts =>
    have hrest := (parseDeclared size ts).length_rest_le
    simp only [Task.load, List.length_cons]
    omega
  | name => simp only [Task.load, List.length_cons]; omega
  | sumOperand => simp only [Task.load, Layer.rank]; omega
  | productOperand => simp only [Task.load, Layer.rank]; omega
  | first => simp only [Task.load]; omega
  | more layer =>
    have hrest := (parseOperand size layer ts).length_rest_le
    simp only [Task.load]
    omega
  | @right layer =>
    have hrank := layer.rank_le
    simp only [Task.load, List.length_cons]
    omega
  | @operator layer _ _ _ _ ts =>
    have hrest := (parseOperand size layer ts).length_rest_le
    simp only [Task.load, List.length_cons]
    omega
  | nested => simp only [Task.load, Layer.rank, List.length_cons]; omega
  | outOfRange => simp only [Task.load, List.length_cons]; omega
  | @unclosed _ ts =>
    have hrest := (parseChain size .sum ts).length_rest_le
    simp only [Task.load, List.length_cons]
    omega
  | unexpected => simp only [Task.load]; omega
  | pass => simp only [Task.load, List.length_cons]; omega

end Calls

/-- No chain of calls goes on for ever. -/
theorem wellFounded_calls (size : Nat) :
    WellFounded fun called task => Calls size task called :=
  Subrelation.wf (fun {_ _} h => h.load_lt) (measure Task.load).wf

/-! ## §3. No other calls are made. -/

/-- What comes of a task: its value, the tokens that it leaves, and what happens meanwhile. -/
structure Result (α : Type) where
  value : α
  rest : List Token
  events : List Event

/-- Something has happened before. -/
def Result.after {α : Type} (before : List Event) (r : Result α) : Result α :=
  { r with events := before ++ r.events }

/-- What comes of a step. -/
def Step.result {ts : List Token} {α : Type} (s : Step ts α) : Result α :=
  ⟨s.value, s.rest, s.journal.events⟩

/-- Functions that are asked to do tasks. -/
structure Helpers where
  program : List Token → Result (Option Program)
  header : List Token → Result (Except SyntaxError (List Declaration))
  read : Reader → List Token → Result Expr
  skip : (TokenKind → Bool) → Nat → List Token → Result Unit

namespace Helpers

/-- They do the task with its tokens as it is done when a source is read. -/
def Right (size : Nat) (h : Helpers) : Task × List Token → Prop
  | (.program, ts) => h.program ts = (parseUnit size ts).result
  | (.header, ts) => h.header ts = (parseDeclared size ts).result
  | (.read reader, ts) => h.read reader ts = (reader.run size ts).result
  | (.skip resumes skipped, ts) =>
    h.skip resumes skipped ts = (skipUntil size resumes skipped ts).result

section Round

variable (size : Nat) (h : Helpers)

/-- Leaving out tokens. -/
def skipRound (resumes : TokenKind → Bool) (skipped : Nat) : List Token → Result Unit
  | [] => ⟨(), [], [.resumed skipped (.endOfInput size)]⟩
  | t :: ts =>
    if resumes t.kind then ⟨(), t :: ts, [.resumed skipped t]⟩
    else (h.skip resumes (skipped + 1) ts).after [.sighted (lookAhead size ts)]

/-- An unreadable operand. -/
def recoverRound (error : SyntaxError) (ts : List Token) : Result Expr :=
  ⟨.missing, (h.skip TokenKind.followsOperand 0 ts).rest,
    .found error :: (h.skip TokenKind.followsOperand 0 ts).events⟩

/-- The parenthesis that closes `opener` around `inner`. -/
def closeRound (opener : Token) (inner : Expr) (ts : List Token) : Result Expr :=
  let t := lookAhead size ts
  if t.kind = .rightParen then
    ⟨inner.parenthesized (opener.span.hull t.span), ts.tail, [.sighted (lookAhead size ts.tail)]⟩
  else h.recoverRound (.unclosedParenthesis opener t) ts

/-- A number, a variable or a sum in parentheses. -/
def factorRound (ts : List Token) : Result Expr :=
  let t := lookAhead size ts
  let next : List Event := [.sighted (lookAhead size ts.tail)]
  match t.kind with
  | .number =>
    match Number.read? t.text.toList with
    | some value => ⟨.literal value t.text t.span, ts.tail, next⟩
    | none => (h.recoverRound (.numberOutOfRange t) ts.tail).after next
  | .identifier => ⟨.reference t.text t.span, ts.tail, next⟩
  | .leftParen =>
    let inner := h.read (.chain .sum) ts.tail
    (h.closeRound size t inner.value inner.rest).after (next ++ inner.events)
  | _ => h.recoverRound (.unexpectedInExpression t) ts

/-- A part of an expression. -/
def readRound : Reader → List Token → Result Expr
  | .operand .sum, ts => h.read (.chain .product) ts
  | .operand .product, ts => h.read .factor ts
  | .chain layer, ts =>
    let first := h.read (.operand layer) ts
    (h.read (.extension layer first.value) first.rest).after first.events
  | .extension layer left, ts =>
    let t := lookAhead size ts
    match layer.operator? t.kind with
    | none => ⟨left, ts, []⟩
    | some op =>
      let right := h.read (.operand layer) ts.tail
      (h.read (.extension layer (.ofOperands op t.span left right.value)) right.rest).after
        (.sighted (lookAhead size ts.tail) :: right.events)
  | .factor, ts => h.factorRound size ts

/-- Declared variables. -/
def headerRound (ts : List Token) : Result (Except SyntaxError (List Declaration)) :=
  let name := lookAhead size ts
  let mark := lookAhead size ts.tail
  let behind := ts.tail.tail
  if name.kind = .identifier then
    if mark.kind = .comma then
      let later := h.header behind
      ⟨later.value.map (⟨name.text, name.span⟩ :: ·), later.rest,
        .sighted mark :: .sighted (lookAhead size behind) :: later.events⟩
    else if mark.kind = .colon then
      ⟨.ok [⟨name.text, name.span⟩], behind, [.sighted mark, .sighted (lookAhead size behind)]⟩
    else ⟨.error (.unexpectedToken mark .colon), ts.tail, [.sighted mark]⟩
  else ⟨.error (.unexpectedToken name .identifier), ts, []⟩

/-- A program. -/
def programRound (ts : List Token) : Result (Option Program) :=
  let t := lookAhead size ts
  if t.kind = .withKeyword then
    let header := h.header ts.tail
    let before := .sighted (lookAhead size ts.tail) :: header.events
    match header.value with
    | .ok declared =>
      let body := h.read (.chain .sum) header.rest
      ⟨some (.declaring t.span declared body.value), body.rest, before ++ body.events⟩
    | .error error =>
      let later := h.skip (fun _ => false) 0 header.rest
      ⟨none, later.rest, before ++ .abandoned error :: later.events⟩
  else
    let body := h.read (.chain .sum) ts
    ⟨Program.ofExpr? body.value, body.rest, body.events⟩

/-- One round: what is to be done for a task itself, with each call left to the helpers. -/
def round : Helpers where
  program := h.programRound size
  header := h.headerRound size
  read := h.readRound size
  skip := h.skipRound size

end Round

variable {h : Helpers} {ts : List Token}

/-- What is ahead is a token, unless it is the end of the source. -/
theorem exists_cons_of_lookAhead {kind : TokenKind} (h : (lookAhead size ts).kind = kind)
    (hne : kind ≠ .endOfInput) : ∃ t behind, ts = t :: behind := by
  cases ts with
  | nil => exact absurd h.symm hne
  | cons t behind => exact ⟨t, behind, rfl⟩

theorem skipRound_eq {resumes : TokenKind → Bool} {skipped : Nat}
    (hr : ∀ called, Calls size (.skip resumes skipped, ts) called → h.Right size called) :
    h.skipRound size resumes skipped ts = (skipUntil size resumes skipped ts).result := by
  cases ts with
  | nil => rfl
  | cons t ts =>
    cases hk : resumes t.kind with
    | true => simp [skipRound, skipUntil, Step.result, hk]
    | false =>
      have hlater : h.skip resumes (skipped + 1) ts = _ := hr _ (.pass hk skipped ts)
      simp [skipRound, skipUntil, Step.result, Result.after, hk, hlater]

theorem recoverRound_eq (error : SyntaxError)
    (hr : h.Right size (.skip TokenKind.followsOperand 0, ts)) :
    h.recoverRound error ts = (recover size error ts).result := by
  have hskip : h.skip TokenKind.followsOperand 0 ts = _ := hr
  rw [recoverRound, hskip]
  rfl

theorem closeRound_eq (opener : Token) (inner : Expr)
    (hr : (lookAhead size ts).kind ≠ .rightParen →
      h.Right size (.skip TokenKind.followsOperand 0, ts)) :
    h.closeRound size opener inner ts = (closeParenthesis size opener inner ts).result := by
  unfold closeRound
  dsimp only
  by_cases hk : (lookAhead size ts).kind = .rightParen
  · rw [if_pos hk]
    obtain ⟨t, ts, rfl⟩ := exists_cons_of_lookAhead hk (by decide)
    rw [lookAhead_cons] at hk
    simp [closeParenthesis, Step.result, hk]
  · rw [if_neg hk, recoverRound_eq _ (hr hk)]
    cases ts with
    | nil => rfl
    | cons t ts =>
      rw [lookAhead_cons] at hk
      simp [closeParenthesis, hk]

theorem factorRound_eq
    (hr : ∀ called, Calls size (.read .factor, ts) called → h.Right size called) :
    h.factorRound size ts = (parseFactor size ts).result := by
  have hother : ∀ t ts, t.kind.startsFactor = false →
      (∀ called, Calls size (.read .factor, t :: ts) called → h.Right size called) →
        h.recoverRound (.unexpectedInExpression t) (t :: ts) =
          (recover size (.unexpectedInExpression t) (t :: ts)).result :=
    fun t ts hk hr => recoverRound_eq _ (hr _ (.unexpected hk))
  cases ts with
  | nil =>
    rw [parseFactor]
    exact recoverRound_eq _ (hr _ (.unexpected rfl))
  | cons t ts =>
    cases hk : t.kind with
    | number =>
      cases hv : Number.read? t.text.toList with
      | some value => simp [factorRound, parseFactor, Step.result, hk, hv]
      | none =>
        have hlater := recoverRound_eq (.numberOutOfRange t) (hr _ (.outOfRange hk hv ts))
        simp [factorRound, parseFactor, Step.result, Result.after, hk, hv, hlater]
    | identifier => simp [factorRound, parseFactor, Step.result, hk]
    | leftParen =>
      have hinner : h.read (.chain .sum) ts = (parseChain size .sum ts).result :=
        hr _ (.nested hk ts)
      have hclose := closeRound_eq t (parseChain size .sum ts).value
        (fun hmark => hr _ (.unclosed hk hmark))
      simp [factorRound, parseFactor, Step.result, Result.after, hk, hinner, hclose]
    | _ =>
      -- no factor starts with a token of another kind
      have hs : t.kind.startsFactor = false := by
        rw [hk]
        rfl
      simp [factorRound, parseFactor, hk, hother t ts hs hr]

theorem readRound_eq {reader : Reader}
    (hr : ∀ called, Calls size (.read reader, ts) called → h.Right size called) :
    h.readRound size reader ts = (reader.run size ts).result := by
  cases reader with
  | operand layer =>
    cases layer with
    | sum =>
      show _ = (parseOperand size .sum ts).result
      rw [parseOperand]
      exact hr _ (.sumOperand ts)
    | product =>
      show _ = (parseOperand size .product ts).result
      rw [parseOperand]
      exact hr _ (.productOperand ts)
  | chain layer =>
    have hfirst : h.read (.operand layer) ts = (parseOperand size layer ts).result :=
      hr _ (.first layer ts)
    have hmore : h.read (.extension layer _) _ = (extendChain size layer _ _).result :=
      hr _ (.more layer ts)
    show _ = (parseChain size layer ts).result
    rw [parseChain]
    simp [readRound, hfirst, hmore, Step.result, Result.after]
  | extension layer left =>
    show _ = (extendChain size layer left ts).result
    cases ts with
    | nil =>
      rw [extendChain]
      simp [readRound, Step.result]
    | cons t ts =>
      cases hop : layer.operator? t.kind with
      | none => simp [readRound, extendChain, Step.result, hop]
      | some op =>
        have hright : h.read (.operand layer) ts = (parseOperand size layer ts).result :=
          hr _ (.right hop left ts)
        have hmore : h.read (.extension layer _) _ = (extendChain size layer _ _).result :=
          hr _ (.operator hop left ts)
        simp [readRound, extendChain, Step.result, Result.after, hop, hright, hmore]
  | factor => exact factorRound_eq hr

theorem headerRound_eq
    (hr : ∀ called, Calls size (.header, ts) called → h.Right size called) :
    h.headerRound size ts = (parseDeclared size ts).result := by
  unfold headerRound
  dsimp only
  by_cases hn : (lookAhead size ts).kind = .identifier
  · obtain ⟨name, ts, rfl⟩ := exists_cons_of_lookAhead hn (by decide)
    rw [lookAhead_cons] at hn ⊢
    rw [if_pos hn, List.tail_cons]
    cases ts with
    | nil =>
      obtain ⟨_, heq⟩ := parseDeclared_of_noMark size [] hn (by simp) (by simp)
      rw [heq]
      rfl
    | cons mark ts =>
      rw [lookAhead_cons, List.tail_cons]
      by_cases hm : mark.kind = .comma
      · have hlater : h.header ts = (parseDeclared size ts).result := hr _ (.name hn hm ts)
        obtain ⟨_, heq⟩ := parseDeclared_of_comma size ts hn hm
        rw [heq, if_pos hm, hlater]
        simp [Step.result]
      · rw [if_neg hm]
        by_cases hc : mark.kind = .colon
        · obtain ⟨_, heq⟩ := parseDeclared_of_colon size ts hn hc
          rw [heq, if_pos hc]
          simp [Step.result]
        · obtain ⟨_, heq⟩ := parseDeclared_of_noMark size (mark :: ts) hn hm hc
          rw [heq, if_neg hc]
          simp [Step.result]
  · obtain ⟨_, heq⟩ := parseDeclared_of_noName size ts hn
    rw [heq, if_neg hn]
    rfl

theorem programRound_eq
    (hr : ∀ called, Calls size (.program, ts) called → h.Right size called) :
    h.programRound size ts = (parseUnit size ts).result := by
  unfold programRound
  dsimp only
  by_cases hw : (lookAhead size ts).kind = .withKeyword
  · obtain ⟨t, ts, rfl⟩ := exists_cons_of_lookAhead hw (by decide)
    rw [lookAhead_cons] at hw ⊢
    have hheader : h.header ts = (parseDeclared size ts).result := hr _ (.declared hw ts)
    rw [if_pos hw, List.tail_cons, hheader]
    cases hv : (parseDeclared size ts).value with
    | ok declared =>
      have hbody : h.read (.chain .sum) _ = (parseChain size .sum _).result := hr _ (.body hw hv)
      obtain ⟨hvalue, hrest, hevents⟩ := parseUnit_of_declared hw hv
      simp [Step.result, hv, hbody, hvalue, hrest, hevents]
    | error error =>
      have hlater : h.skip (fun _ => false) 0 _ = (skipUntil size _ 0 _).result :=
        hr _ (.abandoned hw hv)
      obtain ⟨hvalue, hrest, hevents⟩ := parseUnit_of_abandoned hw hv
      simp [Step.result, hv, hlater, hvalue, hrest, hevents]
  · have hbody : h.read (.chain .sum) ts = (parseChain size .sum ts).result := hr _ (.bare hw)
    rw [if_neg hw, hbody]
    cases ts with
    | nil => rfl
    | cons t ts =>
      rw [lookAhead_cons] at hw
      simp only [parseUnit, if_neg hw]
      rfl

/-- If the helpers give the right answers to the calls of a task, a round of it is right. -/
theorem right_round {task : Task × List Token}
    (hr : ∀ called, Calls size task called → h.Right size called) :
    (h.round size).Right size task := by
  obtain ⟨task, ts⟩ := task
  cases task with
  | program => exact programRound_eq hr
  | header => exact headerRound_eq hr
  | read reader => exact readRound_eq hr
  | skip resumes skipped => exact skipRound_eq hr

/-- Helpers that do just what a round of them does are right: there is one way of reading. -/
theorem right_of_round_eq (heq : h.round size = h) (task : Task × List Token) :
    h.Right size task := by
  induction task using (wellFounded_calls size).induction with
  | h task ih =>
    rw [← heq]
    exact right_round ih

end Helpers

end Calculator
