/-
  Calculator.Proofs.Dialogue
  ──────────────────────────
  **WHAT A RUN SAYS AND WHAT IT READS.**

  On a console whose output never fails, a run asks for its variables one after the other,
  each with its prompt, and takes one line for each.  It stops behind the first line that
  holds no value (`linesRead`).  Nothing else is read, and nothing else is written but the
  result, if there is one.

  One use of the console is the step: it takes a line and adds a prompt
  (`Console.ask_of_neverFails`).  Over a list of variables the number of answers is the
  number of lines read (`Console.length_answers`), and what they leave of the console is
  the input behind these lines and the output with these prompts.

  Main statements:
    * `flatten_takeLines_append_dropLines` — the lines taken and the rest make up the input;
    * `run_is_prompts_and_result`          — the input and output of a run.
-/
import Calculator.Proofs.Asking

namespace Calculator

/-! ## §1. Lines. -/

/-- The first `n` lines of an input; those behind its end are empty. -/
def takeLines : Nat → List UInt8 → List (List UInt8)
  | 0, _ => []
  | n + 1, input => (splitLine input).1 :: takeLines n (splitLine input).2

/-- What is left of an input behind its first `n` lines. -/
def dropLines : Nat → List UInt8 → List UInt8
  | 0, input => input
  | n + 1, input => dropLines n (splitLine input).2

theorem flatten_takeLines_append_dropLines (n : Nat) (input : List UInt8) :
    (takeLines n input).flatten ++ dropLines n input = input := by
  induction n generalizing input with
  | zero => rfl
  | succ n ih =>
    rw [takeLines, dropLines, List.flatten_cons, List.append_assoc, ih,
      fst_append_snd_splitLine]

/-- The value that a line holds, if it is text and that is a number with white space
around it at most. -/
def lineValue? (line : List UInt8) : Option Int32 :=
  (Text.decode? line).bind fun text => Number.read? (Text.trim text.toList)

/-- Whether there is a value does not depend on the variable that it is for. -/
theorem valueOfLine_eq_ok_iff {name : String} {line : List UInt8} {value : Int32} :
    valueOfLine name line = .ok value ↔ lineValue? line = some value := by
  unfold valueOfLine lineValue?
  cases Text.decode? line with
  | none => simp
  | some text =>
    simp only [Option.bind_some]
    cases Number.read? (Text.trim text.toList) with
    | none => simp
    | some v => simp

/-- How many lines are read for `n` variables: one for each, but none behind the first that
holds no value. -/
def linesRead (n : Nat) (input : List UInt8) : Nat :=
  match (takeLines n input).findIdx? fun line => (lineValue? line).isNone with
  | some i => i + 1
  | none => n

theorem linesRead_of_none {n : Nat} {input : List UInt8}
    (h : lineValue? (splitLine input).1 = none) : linesRead (n + 1) input = 1 := by
  rw [linesRead, takeLines, List.findIdx?_cons, h]
  rfl

theorem linesRead_of_some {n : Nat} {input : List UInt8} {value : Int32}
    (h : lineValue? (splitLine input).1 = some value) :
    linesRead (n + 1) input = linesRead n (splitLine input).2 + 1 := by
  rw [linesRead, linesRead, takeLines, List.findIdx?_cons, h]
  cases (takeLines n (splitLine input).2).findIdx? fun line => (lineValue? line).isNone with
  | none => rfl
  | some i => rfl

/-! ## §2. Consoles whose output never fails. -/

/-- The bytes that ask for the variables, in order. -/
def promptsFor (names : List String) : List UInt8 :=
  names.flatMap fun name => Text.encode ("Enter a value for " ++ name ++ ": ")

/-- The bytes that tell a result; an error is not told. -/
def resultBytes : Except RuntimeError Int32 → List UInt8
  | .error _ => []
  | .ok value => Text.encode ("The result is: " ++ Number.write value ++ "\n")

namespace Console

/-- The output takes everything, and it is passed on. -/
structure NeverFails (c : Console) : Prop where
  unlimited : c.capacity = none
  flushes : c.flushFails = false

variable {c : Console}

/-- That stays so, whatever is read and written. -/
theorem NeverFails.used (h : c.NeverFails) (unread written : List UInt8) :
    NeverFails { c with unread, written } := ⟨h.unlimited, h.flushes⟩

theorem print_of_neverFails (h : c.NeverFails) (text : String) :
    c.print text = (.ok (), { c with written := c.written ++ Text.encode text }) := by
  have hroom : ∀ n, c.room n = n := by
    intro n
    rw [room, h.unlimited]
  simp only [print, hroom, Nat.lt_irrefl, if_false, List.take_length]

/-- One line is taken for a prompt, whether it holds a value or not. -/
theorem ask_of_neverFails (h : c.NeverFails) (name : String) :
    Runtime.ask name c = (valueOfLine name (splitLine c.unread).1,
      { c with
        unread := (splitLine c.unread).2
        written := c.written ++ promptsFor [name] }) := by
  have hprompt : Text.encode (prompt name) = promptsFor [name] := by
    rw [promptsFor, List.flatMap_singleton]
    rfl
  rw [runtime_ask]
  unfold ask
  rw [print_of_neverFails h, hprompt]
  dsimp only [flush]
  rw [h.flushes]
  rfl

theorem tell_of_neverFails (h : c.NeverFails) (value : Int32) :
    Runtime.tell value c =
      (.ok (), { c with written := c.written ++ resultBytes (.ok value) }) := by
  rw [runtime_tell]
  unfold tell
  rw [print_of_neverFails h]
  rfl

/-- There are as many answers as lines are read. -/
theorem length_answers (h : c.NeverFails) (names : List String) :
    (Runtime.answers names c).length = linesRead names.length c.unread := by
  induction names generalizing c with
  | nil => rfl
  | cons name later ih =>
    have hask := ask_of_neverFails h name
    cases hvalue : valueOfLine name (splitLine c.unread).1 with
    | error error =>
      have hnone : lineValue? (splitLine c.unread).1 = none := by
        rw [Option.eq_none_iff_forall_ne_some]
        intro value hsome
        have hok : valueOfLine name (splitLine c.unread).1 = .ok value :=
          valueOfLine_eq_ok_iff.2 hsome
        rw [hvalue] at hok
        cases hok
      rw [hvalue] at hask
      rw [Runtime.answers_of_error hask, List.length_cons, List.length_cons,
        linesRead_of_none hnone]
      rfl
    | ok value =>
      rw [hvalue] at hask
      rw [Runtime.answers_of_ok hask, List.length_cons, List.length_cons,
        linesRead_of_some (valueOfLine_eq_ok_iff.1 hvalue)]
      exact congrArg (· + 1) (ih (h.used _ _))

/-- Asking for variables takes a line for each of them and adds the prompts. -/
theorem afterAsking_of_neverFails (h : c.NeverFails) (names : List String) :
    Runtime.afterAsking names c =
      { c with
        unread := dropLines names.length c.unread
        written := c.written ++ promptsFor names } := by
  induction names generalizing c with
  | nil =>
    rw [promptsFor, List.flatMap_nil, List.append_nil]
    rfl
  | cons name later ih =>
    have hprompts : promptsFor (name :: later) = promptsFor [name] ++ promptsFor later := by
      simp only [promptsFor, List.flatMap_cons, List.flatMap_nil, List.append_nil]
    rw [Runtime.afterAsking_cons (congrArg Prod.snd (ask_of_neverFails h name))]
    dsimp only
    rw [ih (h.used _ _), hprompts, ← List.append_assoc]
    rfl

end Console

/-! ## §3. Runs. -/

namespace Session

variable {s : Session Console}

/-- An evaluation reads one line after the other until a line holds no value, and writes
the prompts for these lines. -/
theorem console_evaluate (h : s.console.NeverFails) (p : Program) :
    (s.evaluate p).2.console =
      { s.console with
        unread := dropLines (linesRead p.declared.length s.console.unread) s.console.unread
        written := s.console.written ++
          promptsFor ((p.declared.map Declaration.name).take
            (linesRead p.declared.length s.console.unread)) } := by
  have hlength : (Runtime.answers (p.declared.map Declaration.name) s.console).length =
      linesRead p.declared.length s.console.unread := by
    rw [Console.length_answers h, List.length_map]
  rw [snd_evaluate, askAll_eq]
  dsimp only
  rw [Console.afterAsking_of_neverFails h, List.length_map, Runtime.map_name_answers, hlength]

/-- A run is an evaluation and the line that tells the result. -/
theorem run_of_neverFails (h : s.console.NeverFails) (p : Program) :
    s.run p = ((s.evaluate p).1,
      { (s.evaluate p).2 with
        console := { (s.evaluate p).2.console with
          written := (s.evaluate p).2.console.written ++ resultBytes (s.evaluate p).1 } }) := by
  have hafter : (s.evaluate p).2.console.NeverFails := by
    rw [console_evaluate h p]
    exact h.used _ _
  rcases heval : s.evaluate p with ⟨error | value, t⟩
  · rw [run_of_evaluate_error heval]
    dsimp only [resultBytes]
    rw [List.append_nil]
  · rw [heval] at hafter
    rw [run_of_evaluate_ok heval, Console.tell_of_neverFails hafter]
    rfl

end Session

/-- **A RUN SAYS ITS PROMPTS AND AT MOST ONE RESULT.**  Let the output never fail, and let `k`
lines be read for the declared variables: a line for each, but none behind the first that
holds no value.  Then a run and an evaluation come to the same value or error.  Both take
just the first `k` lines off the input and write the prompts for the first `k` variables;
the run then writes the result if it has one, and neither writes anything else. -/
theorem run_is_prompts_and_result {s : Session Console} (h : s.console.NeverFails) (p : Program) :
    let input := s.console.unread
    let k := linesRead p.declared.length input
    let prompts := promptsFor ((p.declared.map Declaration.name).take k)
    (s.run p).1 = (s.evaluate p).1 ∧
      (s.run p).2.console.written =
        s.console.written ++ prompts ++ resultBytes (s.run p).1 ∧
      (s.evaluate p).2.console.written = s.console.written ++ prompts ∧
      (s.run p).2.console.unread = dropLines k input ∧
      (s.evaluate p).2.console.unread = dropLines k input ∧
      input = (takeLines k input).flatten ++ dropLines k input := by
  dsimp only
  rw [Session.run_of_neverFails h, Session.console_evaluate h]
  exact ⟨rfl, rfl, rfl, rfl, rfl, (flatten_takeLines_append_dropLines _ _).symm⟩

/-- For `with a, b, c: a / b` the second line is no text: there is no third prompt and no
result, and the third line is not read. -/
theorem run_is_prompts_and_result_invalid :
    ∃ (p : Program) (s : Session Console), p.render = "(with (a b c) (/ a b))" ∧
      s.console.NeverFails ∧ s.console.unread = [52, 10, 255, 10, 57, 10] ∧
      (s.run p).1 = .error (.console .invalidText) ∧
      (s.run p).2.console.written =
        Text.encode "Enter a value for a: Enter a value for b: " ∧
      (s.run p).2.console.unread = [57, 10] := by
  let p : Program := .declaring ⟨0, 4⟩ [⟨"a", ⟨5, 1⟩⟩, ⟨"b", ⟨8, 1⟩⟩, ⟨"c", ⟨11, 1⟩⟩]
    (.binary .div ⟨16, 1⟩ (.reference "a" ⟨14, 1⟩) (.reference "b" ⟨18, 1⟩) ⟨14, 5⟩)
  have hnever :
      (Session.ofConsole (Console.ofInput [52, 10, 255, 10, 57, 10])).console.NeverFails :=
    ⟨rfl, rfl⟩
  have herror : ((Session.ofConsole (Console.ofInput [52, 10, 255, 10, 57, 10])).run p).1 =
      .error (.console .invalidText) := rfl
  obtain ⟨-, hwritten, -, hunread, -⟩ := run_is_prompts_and_result hnever p
  refine ⟨p, _, by decide +kernel, hnever, rfl, herror, hwritten.trans ?_, hunread.trans ?_⟩
  · rw [herror]
    decide +kernel
  · decide +kernel

end Calculator
