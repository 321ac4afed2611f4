/-
  Calculator.CommandLine
  ──────────────────────
  **THE COMMAND.**

  One source is read, checked and run, each only if nothing was wrong before.
  Without an expression and without a file the command reads one source from
  each line of its input, as a line editor gives it; a program that is run there
  takes the values of its variables from the lines that follow, which are read as
  they stand.  Input is read only where a source or the values of variables come
  from there.
-/
import Calculator.Arguments
import Calculator.Program.Prepare
import Calculator.Session

namespace Calculator

/-! ## §1. What is told apart from the results. -/

/-- A remark on the work of the command. -/
inductive Notice where
  /-- The command line is wrong. -/
  | usage (error : UsageError)
  /-- The source called `title` has a problem. -/
  | problem (title : String) (report : Report)
  /-- Syntax errors have been reported. -/
  | syntaxErrors
  /-- Problems of the program have been reported. -/
  | semanticErrors
  /-- The source called `title` cannot be read. -/
  | unreadable (title : String)
  deriving DecidableEq, Repr, Inhabited

/-- The remark, line by line. -/
def Notice.lines : Notice → List String
  | usage error => [error.message, usageLine]
  | problem title report =>
    (title ++ ": " ++ report.message) ::
      report.labels.map fun label =>
        "  bytes " ++ Nat.repr label.span.start ++ " to " ++ Nat.repr label.span.stop ++ ": " ++
          label.text
  | syntaxErrors => ["Syntax errors occurred"]
  | semanticErrors => ["Semantic errors occurred"]
  | unreadable title => [title ++ ": cannot be read as text"]

/-- How the command ends. -/
inductive ExitStatus where
  /-- All went well. -/
  | success
  /-- Something failed. -/
  | failure
  /-- The command line is wrong. -/
  | misuse
  /-- The line editor breaks down. -/
  | breakdown
  deriving DecidableEq, Repr, Inhabited

/-- The number that stands for a status. -/
def ExitStatus.code : ExitStatus → Nat
  | success => 0
  | failure => 1
  | misuse => 2
  | breakdown => 101

/-! ## §2. One source. -/

/-- How the work on a source ends: the status, the console, and what is remarked. -/
structure Ending where
  status : ExitStatus
  console : Console
  notices : List Notice
  deriving DecidableEq, Repr, Inhabited

/-- Runs a program, or prints it. -/
def runProgram (title : String) (printTree : Bool) (program : Program) (c : Console) : Ending :=
  if printTree then ⟨.success, (c.print (program.render ++ "\n")).2, []⟩
  else
    match (Session.ofConsole c).run program with
    | (.ok _, s) => ⟨.success, s.console, []⟩
    | (.error e, s) => ⟨.failure, s.console, [.problem title e.report]⟩

/-- Does the work on one source. -/
def runSource (title : String) (printTree : Bool) (source : String) (c : Console) : Ending :=
  match prepare source with
  | .ready program => runProgram title printTree program c
  | .malformed errors =>
    ⟨.failure, c, errors.map (fun e => .problem title e.report) ++ [.syntaxErrors]⟩
  | .unfit problems =>
    ⟨.failure, c, problems.map (fun e => .problem title e.report) ++ [.semanticErrors]⟩

theorem length_unread_runProgram_le (title : String) (printTree : Bool) (program : Program)
    (c : Console) :
    (runProgram title printTree program c).console.unread.length ≤ c.unread.length := by
  have h := (Session.ofConsole c).length_unread_run_le program
  unfold runProgram
  split
  · exact Nat.le_refl _
  · split
    · next heq => rw [heq] at h; exact h
    · next heq => rw [heq] at h; exact h

/-- The work on a source leaves no more input than it found. -/
theorem length_unread_runSource_le (title : String) (printTree : Bool) (source : String)
    (c : Console) :
    (runSource title printTree source c).console.unread.length ≤ c.unread.length := by
  unfold runSource
  split
  · exact length_unread_runProgram_le ..
  · exact Nat.le_refl _
  · exact Nat.le_refl _

/-! ## §3. Lines of input. -/

/-- A line without its line feed and without a carriage return before that. -/
def chomp (cs : List Char) : List Char :=
  match cs.reverse with
  | '\n' :: '\r' :: rest => rest.reverse
  | '\n' :: rest => rest.reverse
  | _ => cs

/-- Whether there is nothing but white space in a line. -/
def isBlankLine (cs : List Char) : Bool := cs.all Text.isBlank

/-- A line editor: what it makes of a line without its end, if it does not break down
on it. -/
abbrev LineEditor := List Char → Option (List Char)

/-- The source that a line of input holds; without one, how the command ends. -/
def sourceOfLine (edit : LineEditor) (line : List UInt8) : Except ExitStatus (List Char) :=
  match Text.decode? line with
  | none => .error .failure
  | some text =>
    match edit (chomp text.toList) with
    | none => .error .breakdown
    | some source => .ok source

/-- Does the work on each line of the input, the lines being counted from `number`.
Blank lines are passed over, a source that fails does not end the work, and a line
that holds no source does. -/
def promptLoop (edit : LineEditor) (printTree : Bool) (number : Nat) (c : Console) : Ending :=
  if _h : c.unread = [] then ⟨.success, c, []⟩
  else
    match sourceOfLine edit c.takeLine.1 with
    | .error status => ⟨status, c.takeLine.2, [.unreadable "<stdin>"]⟩
    | .ok source =>
      if isBlankLine source then promptLoop edit printTree (number + 1) c.takeLine.2
      else
        -- the values of variables come from the lines behind the source's own
        let first :=
          runSource ("<repl-" ++ Nat.repr number ++ ">") printTree (.ofList source) c.takeLine.2
        let later := promptLoop edit printTree (number + 1) first.console
        ⟨later.status, later.console, first.notices ++ later.notices⟩
termination_by c.unread.length
decreasing_by
  · exact length_snd_splitLine_lt _h
  · exact Nat.lt_of_le_of_lt (length_unread_runSource_le ..) (length_snd_splitLine_lt _h)

/-! ## §4. The command. -/

/-- What the command leaves behind. -/
structure Outcome where
  status : ExitStatus
  output : List UInt8
  notices : List Notice
  deriving DecidableEq, Repr, Inhabited

/-- The outcome of the work on the sources that were asked for. -/
def Ending.outcome (e : Ending) : Outcome :=
  ⟨e.status, e.console.written, e.notices⟩

/-- Does what a command line asks for; `contents` gives the bytes of a file that can
be read. -/
def Invocation.outcome (edit : LineEditor) (contents : String → Option (List UInt8))
    (input : List UInt8) (invocation : Invocation) : Outcome :=
  match invocation.command with
  | .prompt => (promptLoop edit invocation.printTree 1 (.ofInput input)).outcome
  | .expression source =>
    (runSource "<input>" invocation.printTree source (.ofInput input)).outcome
  | .file path =>
    match (contents path).bind Text.decode? with
    | some source => (runSource path invocation.printTree source (.ofInput input)).outcome
    | none => ⟨.failure, [], [.unreadable path]⟩

/-- The command with its arguments. -/
def runCommand (edit : LineEditor) (contents : String → Option (List UInt8)) (input : List UInt8)
    (args : List String) : Outcome :=
  match Arguments.read args with
  | .ok invocation => invocation.outcome edit contents input
  | .error e => ⟨.misuse, [], [.usage e]⟩

/-! ## §5. What is read. -/

/-- The file that is read for a command line, if there is one. -/
def fileToRead? (args : List String) : Option String :=
  match Arguments.read args with
  | .ok ⟨_, .file path⟩ => some path
  | _ => none

/-- Whether input is read for a source: only the values of variables come from there. -/
def sourceReadsInput (printTree : Bool) (source : String) : Bool :=
  match prepare source with
  | .ready program => !printTree && !program.declared.isEmpty
  | _ => false

/-- Whether input is read for what a command line asks for. -/
def Invocation.readsInput (contents : String → Option (List UInt8)) (invocation : Invocation) :
    Bool :=
  match invocation.command with
  | .prompt => true
  | .expression source => sourceReadsInput invocation.printTree source
  | .file path =>
    ((contents path).bind Text.decode?).any (sourceReadsInput invocation.printTree)

/-- Whether input is read for a command line. -/
def readsInput (contents : String → Option (List UInt8)) (args : List String) : Bool :=
  match Arguments.read args with
  | .ok invocation => invocation.readsInput contents
  | .error _ => false

end Calculator
