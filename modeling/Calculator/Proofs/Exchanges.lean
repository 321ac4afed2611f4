/-
  Calculator.Proofs.Exchanges
  ───────────────────────────
  **QUESTIONS AND LINES STAY IN STEP.**

  A console is used again and again, for questions and for results, and each use may fail.
  The lines of the input are counted by the questions that get out (`questions`): such a
  question takes the next line, whatever comes of it, and nothing else takes any of the input
  (`unread_afterAttempts`).

  Main statement: `questions_take_lines`.
-/
import Calculator.Proofs.LineValue
import Calculator.Proofs.Truncation

namespace Calculator

/-! ## §1. The lines of an input. -/

/-- The first line of an input, up to its line feed or up to the end, and what follows it. -/
def IsFirstLine (input line rest : List UInt8) : Prop :=
  input = line ++ rest ∧
    ((∃ body, line = body ++ [10] ∧ 10 ∉ body) ∨ (10 ∉ line ∧ rest = []))

theorem isFirstLine_splitLine (input : List UInt8) :
    IsFirstLine input (splitLine input).1 (splitLine input).2 := by
  refine ⟨(fst_append_snd_splitLine input).symm, ?_⟩
  induction input with
  | nil => exact .inr ⟨List.not_mem_nil, rfl⟩
  | cons b input ih =>
    rw [splitLine]
    split
    · next hb => exact .inl ⟨[], congrArg (fun b => [b]) hb, List.not_mem_nil⟩
    · next hb =>
      have hnotMem : ∀ {body : List UInt8}, 10 ∉ body → 10 ∉ b :: body :=
        fun hbody => List.not_mem_cons_of_ne_of_not_mem (Ne.symm hb) hbody
      rcases ih with ⟨body, hline, hbody⟩ | ⟨hline, hrest⟩
      · exact .inl ⟨b :: body, congrArg (b :: ·) hline, hnotMem hbody⟩
      · exact .inr ⟨hnotMem hline, hrest⟩

/-- The line number `n` of an input, from 0 on, and what follows it. -/
inductive IsLine : Nat → List UInt8 → List UInt8 → List UInt8 → Prop where
  | first {input line rest : List UInt8} (first : IsFirstLine input line rest) :
      IsLine 0 input line rest
  | later {n : Nat} {input front more line rest : List UInt8}
      (first : IsFirstLine input front more) (later : IsLine n more line rest) :
      IsLine (n + 1) input line rest

theorem isLine_splitLine_dropLines (n : Nat) (input : List UInt8) :
    IsLine n input (splitLine (dropLines n input)).1 (splitLine (dropLines n input)).2 := by
  induction n generalizing input with
  | zero => exact .first (isFirstLine_splitLine input)
  | succ n ih => exact .later (isFirstLine_splitLine input) (ih _)

/-- Behind some lines there are the lines that follow them. -/
theorem dropLines_add (m n : Nat) (input : List UInt8) :
    dropLines (m + n) input = dropLines n (dropLines m input) := by
  induction m generalizing input with
  | zero => rw [Nat.zero_add, dropLines]
  | succ m ih => rw [Nat.add_right_comm, dropLines, dropLines, ih]

namespace Console

/-! ## §2. One use of a console. -/

/-- A use of a console, and whether passing the output on fails this time. -/
structure Attempt where
  /-- What the console is used for. -/
  use : Exchange
  /-- Whether passing the output on fails. -/
  flushFails : Bool
  deriving DecidableEq, Repr, Inhabited

/-- Uses the console once. -/
def attempt (a : Attempt) (c : Console) : Except RuntimeError (Option Int32) × Console :=
  exchange a.use { c with flushFails := a.flushFails }

/-- Whether a use is a question that gets out: the output takes the whole prompt, and it is
passed on. -/
def getsOut (a : Attempt) (c : Console) : Bool :=
  match a.use with
  | .ask name => c.takes (Text.encode (prompt name)) && !a.flushFails
  | .tell _ => false

variable {c : Console} {name : String}

/-- A question that gets out takes a line. -/
theorem attempt_ask_of_takes (h : c.takes (Text.encode (prompt name)) = true) :
    c.attempt ⟨.ask name, false⟩ = ((valueOfLine name (splitLine c.unread).1).map some,
      { c with
        unread := (splitLine c.unread).2
        written := c.written ++ Text.encode (prompt name)
        flushFails := false }) := by
  have hprint := print_of_takes (c := { c with flushFails := false }) h
  dsimp only [attempt, exchange, ask]
  rw [hprint]
  rfl

/-- A question that is not passed on takes nothing. -/
theorem attempt_ask_of_flushFails (h : c.takes (Text.encode (prompt name)) = true) :
    c.attempt ⟨.ask name, true⟩ = (.error (.console .flushFailed),
      { c with
        written := c.written ++ Text.encode (prompt name)
        flushFails := true }) := by
  have hprint := print_of_takes (c := { c with flushFails := true }) h
  dsimp only [attempt, exchange, ask]
  rw [hprint]
  rfl

/-- A question that is cut takes nothing. -/
theorem attempt_ask_of_not_takes (h : c.takes (Text.encode (prompt name)) = false)
    (fails : Bool) :
    c.attempt ⟨.ask name, fails⟩ = (.error (.console .outputFull),
      { c with
        written := c.written ++
          (Text.encode (prompt name)).take (c.room (Text.encode (prompt name)).length)
        flushFails := fails }) := by
  have hprint := print_of_not_takes (c := { c with flushFails := fails }) h
  dsimp only [attempt, exchange, ask]
  rw [hprint]
  rfl

/-- A use takes a line if it is a question that gets out, and else nothing. -/
theorem unread_attempt (a : Attempt) (c : Console) :
    (c.attempt a).2.unread = dropLines (if c.getsOut a then 1 else 0) c.unread := by
  obtain ⟨use, fails⟩ := a
  cases use with
  | tell value => rfl
  | ask name =>
    have hgets : c.getsOut ⟨.ask name, fails⟩ = (c.takes (Text.encode (prompt name)) && !fails) :=
      rfl
    rw [hgets]
    cases htakes : c.takes (Text.encode (prompt name)) with
    | false =>
      rw [attempt_ask_of_not_takes htakes]
      rfl
    | true =>
      cases fails with
      | false =>
        rw [attempt_ask_of_takes htakes]
        rfl
      | true =>
        rw [attempt_ask_of_flushFails htakes]
        rfl

theorem flushFails_attempt (a : Attempt) (c : Console) :
    (c.attempt a).2.flushFails = a.flushFails := by
  obtain ⟨use, fails⟩ := a
  cases use with
  | tell value => rfl
  | ask name =>
    cases htakes : c.takes (Text.encode (prompt name)) with
    | false => rw [attempt_ask_of_not_takes htakes]
    | true =>
      cases fails with
      | false => rw [attempt_ask_of_takes htakes]
      | true => rw [attempt_ask_of_flushFails htakes]

/-! ## §3. Many uses. -/

/-- Uses the console again and again: each result, and the console after it. -/
def attemptAll : List Attempt → Console → List (Except RuntimeError (Option Int32) × Console)
  | [], _ => []
  | a :: later, c => c.attempt a :: attemptAll later (c.attempt a).2

/-- The console after some uses. -/
def afterAttempts : List Attempt → Console → Console
  | [], c => c
  | a :: later, c => afterAttempts later (c.attempt a).2

/-- How many of the uses are questions that get out. -/
def questions : List Attempt → Console → Nat
  | [], _ => 0
  | a :: later, c => (if c.getsOut a then 1 else 0) + questions later (c.attempt a).2

/-- As many lines are taken as questions get out. -/
theorem unread_afterAttempts (attempts : List Attempt) (c : Console) :
    (c.afterAttempts attempts).unread = dropLines (c.questions attempts) c.unread := by
  induction attempts generalizing c with
  | nil => rfl
  | cons a later ih => rw [afterAttempts, ih, unread_attempt, questions, dropLines_add]

theorem getElem?_attemptAll (attempts : List Attempt) (c : Console) (i : Nat) :
    (c.attemptAll attempts)[i]? =
      attempts[i]?.map fun a => (c.afterAttempts (attempts.take i)).attempt a := by
  induction attempts generalizing c i with
  | nil => rfl
  | cons a later ih =>
    cases i with
    | zero => rfl
    | succ i => exact ih (c.attempt a).2 i

/-- A console whose output is always passed on, or never, is one whose uses agree in that. -/
theorem attemptAll_map (uses : List Exchange) (c : Console) :
    c.attemptAll (uses.map fun use => ⟨use, c.flushFails⟩) = c.exchangeAll uses := by
  induction uses generalizing c with
  | nil => rfl
  | cons use later ih =>
    have hflush : (c.exchange use).2.flushFails = c.flushFails :=
      flushFails_attempt ⟨use, c.flushFails⟩ c
    rw [exchangeAll, ← ih, hflush]
    rfl

end Console

/-! ## §4. Questions and lines. -/

/-- What a question is answered with for the line that it takes. -/
structure IsAnswer (name : String) (line : List UInt8)
    (result : Except RuntimeError (Option Int32)) : Prop where
  /-- There is a value if and only if the line holds it. -/
  value : ∀ value, result = .ok (some value) ↔ HoldsValue line value
  /-- Bad text is told of if and only if the line is no text. -/
  invalidText : result = .error (.console .invalidText) ↔ ∀ text, line ≠ Text.encode text
  /-- Any other line is told of, without its end. -/
  invalidInput : ∀ text : String, line = Text.encode text → (∀ value, ¬HoldsValue line value) →
    ∃ shown : String, IsDroppedEnd isLineEnd text.toList shown.toList ∧
      result = .error (.invalidInput name shown)
  /-- Behind the end of the input there is nothing to tell of. -/
  exhausted : line = [] → result = .error (.invalidInput name "")

theorem map_some_eq_ok_iff {result : Except RuntimeError Int32} {value : Int32} :
    result.map some = .ok (some value) ↔ result = .ok value := by
  cases result with
  | error error => simp [Except.map]
  | ok v => simp [Except.map]

theorem map_some_eq_error_iff {result : Except RuntimeError Int32} {error : RuntimeError} :
    result.map some = .error error ↔ result = .error error := by
  cases result with
  | error error => simp [Except.map]
  | ok v => simp [Except.map]

theorem isAnswer_valueOfLine (name : String) (line : List UInt8) :
    IsAnswer name line ((valueOfLine name line).map some) := by
  refine ⟨fun value => ?_, ?_, fun text htext hnone => ?_, fun hline => ?_⟩
  · rw [map_some_eq_ok_iff, valueOfLine_eq_ok_iff_holds]
  · rw [map_some_eq_error_iff, valueOfLine_eq_invalidText_iff]
  · obtain ⟨shown, hshown⟩ := exists_isDroppedEnd isLineEnd text
    subst htext
    exact ⟨shown, hshown, map_some_eq_error_iff.2 (valueOfLine_eq_invalidInput hnone hshown)⟩
  · subst hline
    rfl

/-- **QUESTIONS AND LINES STAY IN STEP, WHATEVER GOES WRONG.**  Let a console be used again and
again, whatever its input and the limit of its output are, and whenever passing the output on
fails.  A question whose prompt the output does not take, or that is not passed on, fails for
that reason and takes none of the input; no result takes any of it.  The question that gets
out with `n` others before it takes the line number `n` of the input, whatever those others
were answered with, and it is answered with what this line holds.  In particular the numeral
by which a value is told holds this value, with any white space around it. -/
theorem questions_take_lines (c : Console) (attempts : List Console.Attempt) :
    (∀ (i : Nat) (name : String) (fails : Bool), attempts[i]? = some ⟨.ask name, fails⟩ →
      ∃ result after, (c.attemptAll attempts)[i]? = some (result, after) ∧
        let before := c.afterAttempts (attempts.take i)
        let asked := Text.encode (Console.prompt name)
        (before.takes asked = false →
          result = .error (.console .outputFull) ∧ after.unread = before.unread ∧
            ∃ n < asked.length, after.written = before.written ++ asked.take n) ∧
        (before.takes asked = true → after.written = before.written ++ asked) ∧
        (before.takes asked = true → fails = true →
          result = .error (.console .flushFailed) ∧ after.unread = before.unread) ∧
        (before.takes asked = true → fails = false →
          ∃ line, IsLine (c.questions (attempts.take i)) c.unread line after.unread ∧
            before.unread = line ++ after.unread ∧ IsAnswer name line result)) ∧
    (∀ (i : Nat) (value : Int32) (fails : Bool), attempts[i]? = some ⟨.tell value, fails⟩ →
      ∃ result after, (c.attemptAll attempts)[i]? = some (result, after) ∧
        after.unread = (c.afterAttempts (attempts.take i)).unread) ∧
    (∀ value : Int32, ∃ numeral : String,
      (∀ d : Console, d.takes (Text.encode (Console.resultLine value)) = true →
        (d.tell value).2.written =
          d.written ++ Text.encode ("The result is: " ++ numeral ++ "\n")) ∧
      ∀ before after : String, (∀ b ∈ before.toList, Text.isBlank b = true) →
        (∀ b ∈ after.toList, Text.isBlank b = true) →
          HoldsValue (Text.encode (before ++ (numeral ++ after))) value) ∧
    ∀ uses : List Console.Exchange,
      c.attemptAll (uses.map fun use => ⟨use, c.flushFails⟩) = c.exchangeAll uses := by
  refine ⟨?_, ?_, ?_, fun uses => Console.attemptAll_map uses c⟩
  · intro i name fails hi
    have hline := isLine_splitLine_dropLines (c.questions (attempts.take i)) c.unread
    rw [← Console.unread_afterAttempts] at hline
    refine ⟨_, _, by rw [Console.getElem?_attemptAll, hi, Option.map_some], ?_⟩
    dsimp only
    -- what is left for this question are the lines behind those that were taken
    generalize c.afterAttempts (attempts.take i) = before at hline
    refine ⟨fun htakes => ?cut, fun htakes => ?written, ?held, ?out⟩
    case cut =>
      rw [Console.attempt_ask_of_not_takes htakes]
      exact ⟨rfl, rfl, _, Console.room_lt_of_not_takes htakes, rfl⟩
    case written =>
      cases fails with
      | false => rw [Console.attempt_ask_of_takes htakes]
      | true => rw [Console.attempt_ask_of_flushFails htakes]
    case held =>
      rintro htakes rfl
      rw [Console.attempt_ask_of_flushFails htakes]
      exact ⟨rfl, rfl⟩
    case out =>
      rintro htakes rfl
      rw [Console.attempt_ask_of_takes htakes]
      exact ⟨_, hline, (fst_append_snd_splitLine _).symm, isAnswer_valueOfLine name _⟩
  · intro i value fails hi
    have hresult : (c.attemptAll attempts)[i]? =
        some ((c.afterAttempts (attempts.take i)).attempt ⟨.tell value, fails⟩) := by
      rw [Console.getElem?_attemptAll, hi, Option.map_some]
    exact ⟨_, _, hresult, rfl⟩
  · intro value
    refine ⟨Number.write value, fun d htakes => ?_, fun before after => holdsValue_write value⟩
    unfold Console.tell
    rw [Console.print_of_takes htakes]
    rfl

/-- The question that is not passed on leaves the line for the next one, which takes it though
it is no text; the third line is not there. -/
example : ((Console.ofInput [255, 10, 43, 55, 13, 10]).attemptAll
    [⟨.ask "a", true⟩, ⟨.ask "a", false⟩, ⟨.tell 3, true⟩, ⟨.ask "b", false⟩,
      ⟨.ask "c", false⟩]).map (fun done => done.2.unread) =
    [[255, 10, 43, 55, 13, 10], [43, 55, 13, 10], [43, 55, 13, 10], [], []] := by
  decide +kernel

end Calculator
