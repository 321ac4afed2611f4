/-
  Calculator.Console
  ──────────────────
  **READING VALUES AND WRITING RESULTS.**

  A console is the input that is still unread and the output so far, both in
  bytes.  A value is asked for with a prompt and read from one line; a result is
  written on a line of its own.  The output may have a capacity, and passing it
  on may fail.

  Main statements: the lines taken off an input make it up
  (`fst_append_snd_splitLine`), so an input never grows
  (`length_unread_ask_le`).
-/
import Calculator.Runtime
import Calculator.Text.Blank
import Calculator.Text.Utf8

namespace Calculator

/-! ## §1. Lines. -/

/-- The first line, with its line feed if it has one, and what follows it. -/
def splitLine : List UInt8 → List UInt8 × List UInt8
  | [] => ([], [])
  | b :: bytes =>
    if b = 10 then ([b], bytes) else (b :: (splitLine bytes).1, (splitLine bytes).2)

theorem fst_append_snd_splitLine (bytes : List UInt8) :
    (splitLine bytes).1 ++ (splitLine bytes).2 = bytes := by
  induction bytes with
  | nil => rfl
  | cons b bytes ih =>
    rw [splitLine]
    split
    · rfl
    · simp [ih]

theorem length_snd_splitLine_le (bytes : List UInt8) :
    (splitLine bytes).2.length ≤ bytes.length := by
  conv => rhs; rw [← fst_append_snd_splitLine bytes, List.length_append]
  omega

/-- A line of a nonempty input is not empty, so taking it leaves less. -/
theorem length_snd_splitLine_lt {bytes : List UInt8} (h : bytes ≠ []) :
    (splitLine bytes).2.length < bytes.length := by
  cases bytes with
  | nil => exact absurd rfl h
  | cons b bytes =>
    rw [splitLine]
    split
    · exact Nat.lt_succ_self _
    · exact Nat.lt_succ_of_le (length_snd_splitLine_le bytes)

/-- The characters that end a line. -/
def isLineEnd (c : Char) : Bool := c == '\r' || c == '\n'

/-- The value that a line holds for the variable `name`; white space around it
does not count. -/
def valueOfLine (name : String) (line : List UInt8) : Except RuntimeError Int32 :=
  match Text.decode? line with
  | none => .error (.console .invalidText)
  | some text =>
    match Number.read? (Text.trim text.toList) with
    | some value => .ok value
    | none => .error (.invalidInput name (.ofList (Text.dropEndWhile isLineEnd text.toList)))

/-! ## §2. Consoles. -/

/-- An input and an output. -/
structure Console where
  /-- The input that has not been read. -/
  unread : List UInt8
  /-- The output so far. -/
  written : List UInt8
  /-- How many bytes the output takes, if there is a limit. -/
  capacity : Option Nat
  /-- Whether passing the output on fails. -/
  flushFails : Bool
  deriving DecidableEq, Repr, Inhabited

namespace Console

/-- The console with an input and without any limit. -/
def ofInput (input : List UInt8) : Console := ⟨input, [], none, false⟩

/-- How many of `n` more bytes the output takes. -/
def room (c : Console) (n : Nat) : Nat :=
  match c.capacity with
  | none => n
  | some capacity => min n (capacity - c.written.length)

/-- Writes a text: as much of it as the output takes, and it fails if that is not
all. -/
def print (text : String) (c : Console) : Except ConsoleFault Unit × Console :=
  let bytes := Text.encode text
  (if c.room bytes.length < bytes.length then .error .outputFull else .ok (),
    { c with written := c.written ++ bytes.take (c.room bytes.length) })

/-- Passes the output on. -/
def flush (c : Console) : Except ConsoleFault Unit :=
  if c.flushFails then .error .flushFailed else .ok ()

/-- Takes one line off the input. -/
def takeLine (c : Console) : List UInt8 × Console :=
  ((splitLine c.unread).1, { c with unread := (splitLine c.unread).2 })

/-- What a value for the variable `name` is asked for with. -/
def prompt (name : String) : String := "Enter a value for " ++ name ++ ": "

/-- The line that tells a result. -/
def resultLine (value : Int32) : String := "The result is: " ++ Number.write value ++ "\n"

/-- Asks for the value of the variable `name` and reads it from one line; nothing
is read unless the prompt has been passed on. -/
def ask (name : String) (c : Console) : Except RuntimeError Int32 × Console :=
  match c.print (prompt name) with
  | (.error fault, c) => (.error (.console fault), c)
  | (.ok (), c) =>
    match c.flush with
    | .error fault => (.error (.console fault), c)
    | .ok () => (valueOfLine name c.takeLine.1, c.takeLine.2)

/-- Writes a result. -/
def tell (value : Int32) (c : Console) : Except RuntimeError Unit × Console :=
  ((c.print (resultLine value)).1.mapError .console, (c.print (resultLine value)).2)

/-- Programs can run on a console. -/
instance : Runtime Console := ⟨ask, tell⟩

theorem runtime_ask (name : String) (c : Console) : Runtime.ask name c = c.ask name := rfl

theorem runtime_tell (value : Int32) (c : Console) : Runtime.tell value c = c.tell value := rfl

/-- One use of a console. -/
inductive Exchange where
  /-- Asking for the value of a variable. -/
  | ask (name : String)
  /-- Writing a result. -/
  | tell (value : Int32)
  deriving DecidableEq, Repr, Inhabited

/-- Uses the console once; only asking gives a value. -/
def exchange (e : Exchange) (c : Console) : Except RuntimeError (Option Int32) × Console :=
  match e with
  | .ask name => ((c.ask name).1.map some, (c.ask name).2)
  | .tell value => ((c.tell value).1.map fun _ => none, (c.tell value).2)

/-- Uses the console again and again: each result, and the console after it. -/
def exchangeAll : List Exchange → Console → List (Except RuntimeError (Option Int32) × Console)
  | [], _ => []
  | e :: later, c => c.exchange e :: exchangeAll later (c.exchange e).2

@[simp] theorem unread_print (text : String) (c : Console) : (c.print text).2.unread = c.unread :=
  rfl

@[simp] theorem unread_tell (value : Int32) (c : Console) : (c.tell value).2.unread = c.unread :=
  rfl

theorem length_unread_ask_le (name : String) (c : Console) :
    (c.ask name).2.unread.length ≤ c.unread.length := by
  have hp := unread_print (prompt name) c
  unfold ask
  split
  · next fault d hd => rw [hd] at hp; exact Nat.le_of_eq (congrArg List.length hp)
  · next d hd =>
    rw [hd] at hp
    split
    · exact Nat.le_of_eq (congrArg List.length hp)
    · rw [← hp]; exact length_snd_splitLine_le d.unread

/-! ## §3. Outputs that change. -/

/-- A console that has another output at each use, as long as there are others. -/
structure Shaky where
  console : Console
  /-- The capacities of the outputs to come, and whether passing them on fails. -/
  outputs : List (Option Nat × Bool)
  deriving DecidableEq, Repr, Inhabited

/-- The console at the next use. -/
def Shaky.now (s : Shaky) : Console :=
  match s.outputs with
  | [] => s.console
  | (capacity, flushFails) :: _ => { s.console with capacity, flushFails }

/-- Programs can run on a console whatever becomes of its output in the meantime. -/
instance : Runtime Shaky where
  ask name s := ((s.now.ask name).1, ⟨(s.now.ask name).2, s.outputs.tail⟩)
  tell value s := ((s.now.tell value).1, ⟨(s.now.tell value).2, s.outputs.tail⟩)

end Console
end Calculator
