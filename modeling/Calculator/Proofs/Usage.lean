/-
  Calculator.Proofs.Usage
  ───────────────────────
  **WHICH COMMAND LINES ARE UNDERSTOOD.**

  A command line whose arguments have one of the forms of `Arguments.Asks` is done what it asks
  for; every other command line is a usage error.  Nothing that is asked for ends like a usage
  error, so the two can be told apart by the status.

  What is read is decided before anything is done (`fileToRead?`, `readsInput`), and rightly so:
  what is not read plays no part in what is done (`runCommand_of_not_readsInput`).

  Main statement: `command_line_follows_usage`.
-/
import Calculator.Proofs.Prompting

namespace Calculator

/-! ## §1. How the work ends. -/

/-- The work on a source is no misuse of the command. -/
theorem status_runSource_ne (title : String) (printTree : Bool) (source : String) (c : Console) :
    (runSource title printTree source c).status ≠ .misuse := by
  unfold runSource
  split
  · unfold runProgram
    split
    · simp
    · split <;> simp
  · simp
  · simp

/-- Nor is a line that holds no source. -/
theorem ne_misuse_of_sourceOfLine {edit : LineEditor} {line : List UInt8} {status : ExitStatus}
    (h : sourceOfLine edit line = .error status) : status ≠ .misuse := by
  unfold sourceOfLine at h
  split at h
  · cases h
    simp
  · split at h
    · cases h
      simp
    · cases h

/-- Nor is anything that is typed in. -/
theorem status_promptLoop_ne (edit : LineEditor) (printTree : Bool) (number : Nat) (c : Console) :
    (promptLoop edit printTree number c).status ≠ .misuse := by
  fun_induction promptLoop edit printTree number c with
  | case1 => simp
  | case2 number c hc status hline => exact ne_misuse_of_sourceOfLine hline
  | case3 number c hc source hline hblank ih => exact ih
  | case4 => assumption

/-- What a command line asks for never ends like one that is not understood. -/
theorem status_outcome_ne (edit : LineEditor) (contents : String → Option (List UInt8))
    (input : List UInt8) (invocation : Invocation) :
    (invocation.outcome edit contents input).status ≠ .misuse := by
  unfold Invocation.outcome
  split
  · exact status_promptLoop_ne _ _ _ _
  · exact status_runSource_ne _ _ _ _
  · split
    · exact status_runSource_ne _ _ _ _
    · simp

theorem ExitStatus.code_eq_two_iff {status : ExitStatus} : status.code = 2 ↔ status = misuse := by
  cases status <;> decide

/-! ## §2. What is done with a program. -/

/-- The console once a program has been printed as a tree, or run. -/
def Program.workedOff (printTree : Bool) (p : Program) (c : Console) : Console :=
  if printTree then (c.print (p.render ++ "\n")).2
  else ((Session.ofConsole c).run p).2.console

theorem console_runSource_of_ready {source : String} {program : Program}
    (h : prepare source = .ready program) (title : String) (printTree : Bool) (c : Console) :
    (runSource title printTree source c).console = program.workedOff printTree c := by
  rw [runSource, h]
  cases printTree with
  | true => rfl
  | false => exact console_runProgram title program c

/-- A program on a line that is typed in is worked off likewise, and then what is behind. -/
theorem console_promptLoop_of_ready {edit : LineEditor} {c : Console} {source : List Char}
    {program : Program} (hunread : c.unread ≠ [])
    (hline : sourceOfLine edit c.takeLine.1 = .ok source)
    (hsource : isBlankLine source = false) (h : prepare (.ofList source) = .ready program)
    (printTree : Bool) (number : Nat) :
    (promptLoop edit printTree number c).console =
      (promptLoop edit printTree (number + 1)
        (program.workedOff printTree c.takeLine.2)).console := by
  rw [promptLoop, dif_neg hunread, hline]
  dsimp only
  rw [if_neg (by rw [hsource]; exact Bool.false_ne_true), console_runSource_of_ready h]

/-! ## §3. What is not read. -/

/-- A program that declares no variables leaves the input as it is, and does the same for any
other. -/
theorem Session.run_of_nothing_declared {p : Program} (h : p.declared = []) (b : Bindings)
    (c : Console) (unread : List UInt8) :
    run p ⟨b, { c with unread }⟩ = ((run p ⟨b, c⟩).1, { (run p ⟨b, c⟩).2 with
      console := { (run p ⟨b, c⟩).2.console with unread } }) := by
  have hevaluate : ∀ d : Console, evaluate p ⟨b, d⟩ = (p.body.evaluate b p.span, ⟨b, d⟩) := by
    intro d
    apply evaluate_of_askAll_ok (t := ⟨b, d⟩)
    rw [h, askAll]
  cases hbody : p.body.evaluate b p.span with
  | error error =>
    simp only [hbody] at hevaluate
    rw [run_of_evaluate_error (hevaluate _), run_of_evaluate_error (hevaluate _)]
  | ok value =>
    simp only [hbody] at hevaluate
    rw [run_of_evaluate_ok (hevaluate _), run_of_evaluate_ok (hevaluate _)]
    rfl

theorem outcome_runProgram_of_nothing_declared {p : Program} (h : p.declared = [])
    (title : String) (printTree : Bool) (c : Console) (unread : List UInt8) :
    (runProgram title printTree p { c with unread }).outcome =
      (runProgram title printTree p c).outcome := by
  cases printTree with
  | true => rfl
  | false =>
    unfold runProgram Session.ofConsole
    rw [if_neg Bool.false_ne_true, if_neg Bool.false_ne_true, Session.run_of_nothing_declared h]
    rcases Session.run p ⟨.empty, c⟩ with ⟨error | value, s⟩
    · rfl
    · rfl

/-- Where no input is read for a source, the work on it is the same for any input. -/
theorem outcome_runSource_of_not_readsInput {printTree : Bool} {source : String}
    (h : sourceReadsInput printTree source = false) (title : String) (c : Console)
    (unread : List UInt8) :
    (runSource title printTree source { c with unread }).outcome =
      (runSource title printTree source c).outcome := by
  unfold sourceReadsInput at h
  unfold runSource
  cases hp : prepare source with
  | malformed errors => rfl
  | unfit problems => rfl
  | ready p =>
    rw [hp] at h
    cases printTree with
    | true => rfl
    | false =>
      have hnone : p.declared = [] := by simpa using h
      exact outcome_runProgram_of_nothing_declared hnone title false c unread

section Reading

variable {contents : String → Option (List UInt8)} {args : List String} {edit : LineEditor}

/-- Where no input is read, the command does the same for any input. -/
theorem runCommand_of_not_readsInput (h : readsInput contents args = false)
    (input other : List UInt8) :
    runCommand edit contents input args = runCommand edit contents other args := by
  unfold readsInput at h
  unfold runCommand
  cases hread : Arguments.read args with
  | error e => rfl
  | ok invocation =>
    obtain ⟨printTree, command⟩ := invocation
    rw [hread] at h
    dsimp only [Invocation.readsInput, Invocation.outcome] at h ⊢
    cases command with
    | prompt => cases h
    | expression source =>
      exact outcome_runSource_of_not_readsInput h "<input>" (.ofInput other) input
    | file path =>
      dsimp only at h ⊢
      cases hsource : (contents path).bind Text.decode? with
      | none => rfl
      | some source =>
        rw [hsource] at h
        exact outcome_runSource_of_not_readsInput h path (.ofInput other) input

/-- Where no file is read, the command does the same for any files. -/
theorem runCommand_of_fileToRead?_eq_none (h : fileToRead? args = none)
    (other : String → Option (List UInt8)) (input : List UInt8) :
    runCommand edit contents input args = runCommand edit other input args := by
  unfold fileToRead? at h
  unfold runCommand
  cases hread : Arguments.read args with
  | error e => rfl
  | ok invocation =>
    obtain ⟨printTree, command⟩ := invocation
    rw [hread] at h
    cases command with
    | prompt => rfl
    | expression source => rfl
    | file path => cases h

end Reading

/-! ## §4. Command lines. -/

/-- A command line that asks for a command is done what it asks for. -/
theorem runCommand_of_asks {args : List String} {c : Command}
    (h : Arguments.Asks (args.erase Arguments.printOption) c) (edit : LineEditor)
    (contents : String → Option (List UInt8)) (input : List UInt8) :
    runCommand edit contents input args =
      Invocation.outcome edit contents input ⟨decide (Arguments.printOption ∈ args), c⟩ := by
  have hread : Arguments.read args = .ok ⟨decide (Arguments.printOption ∈ args), c⟩ :=
    Arguments.read_eq_ok_iff.2 ⟨rfl, h⟩
  rw [runCommand, hread]

/-- One that asks for none is only told to be wrong, and nothing is read for it. -/
theorem runCommand_of_not_asks {args : List String}
    (h : ¬∃ c, Arguments.Asks (args.erase Arguments.printOption) c) (edit : LineEditor)
    (contents : String → Option (List UInt8)) (input : List UInt8) :
    (∃ e, runCommand edit contents input args = ⟨.misuse, [], [.usage e]⟩) ∧
      fileToRead? args = none ∧ readsInput contents args = false := by
  cases hread : Arguments.read args with
  | ok invocation => exact absurd ⟨_, (Arguments.read_eq_ok_iff.1 hread).2⟩ h
  | error e =>
    rw [runCommand, fileToRead?, readsInput, hread]
    exact ⟨⟨e, rfl⟩, rfl, rfl⟩

/-- **A COMMAND LINE IS UNDERSTOOD EXACTLY IF IT FOLLOWS THE USAGE.**  Let the first print
option be taken out of the arguments.  If nothing is left, the command works on what is typed
in; if one argument is left that does not start like an option, on this source; if the file
option is left with an argument behind it, whatever that is, on the file of this name, provided
that it can be read.  Programs from all of these are printed as trees if there was a print
option, and run if there was none.  The status is 2 exactly if something else is left; then
nothing is written to the output, and neither a file nor any input is read.  What is not read
plays no part in what the command does. -/
theorem command_line_follows_usage (edit : LineEditor) (args : List String)
    (contents : String → Option (List UInt8)) (input : List UInt8) :
    let left := args.erase "--print-ast"
    let tree := decide ("--print-ast" ∈ args)
    let after := fun (program : Program) (c : Console) =>
      if "--print-ast" ∈ args then (c.print (program.render ++ "\n")).2
      else ((Session.ofConsole c).run program).2.console
    let outcome := runCommand edit contents input args
    (outcome.status.code = 2 ↔
        ¬(left = [] ∨ (∃ source, left = [source] ∧ ¬['-', '-'] <+: source.toList) ∨
          ∃ path, left = ["--file", path])) ∧
      (left = [] → outcome = (promptLoop edit tree 1 (.ofInput input)).outcome) ∧
      (∀ source, left = [source] → ¬['-', '-'] <+: source.toList →
        outcome = (runSource "<input>" tree source (.ofInput input)).outcome) ∧
      (∀ path, left = ["--file", path] →
        (∀ source, (contents path).bind Text.decode? = some source →
          outcome = (runSource path tree source (.ofInput input)).outcome) ∧
        ((contents path).bind Text.decode? = none →
          outcome = ⟨.failure, [], [.unreadable path]⟩)) ∧
      (∀ title source program c, prepare source = .ready program →
        (runSource title tree source c).console = after program c) ∧
      (∀ number c line program, c.unread ≠ [] → sourceOfLine edit c.takeLine.1 = .ok line →
        isBlankLine line = false → prepare (.ofList line) = .ready program →
          (promptLoop edit tree number c).console =
            (promptLoop edit tree (number + 1) (after program c.takeLine.2)).console) ∧
      (outcome.status.code = 2 →
        (∃ e, outcome = ⟨.misuse, [], [.usage e]⟩) ∧
          fileToRead? args = none ∧ readsInput contents args = false) ∧
      (fileToRead? args = none →
        ∀ contents', outcome = runCommand edit contents' input args) ∧
      (readsInput contents args = false →
        ∀ input', outcome = runCommand edit contents input' args) := by
  dsimp only
  have hasks : ∀ c, Arguments.Asks (args.erase "--print-ast") c →
      runCommand edit contents input args =
        Invocation.outcome edit contents input ⟨decide ("--print-ast" ∈ args), c⟩ :=
    fun c h => runCommand_of_asks h edit contents input
  have hstatus : (runCommand edit contents input args).status.code = 2 ↔
      ¬∃ c, Arguments.Asks (args.erase "--print-ast") c := by
    rw [ExitStatus.code_eq_two_iff]
    constructor
    · intro hmisuse h
      obtain ⟨c, hc⟩ := h
      rw [hasks c hc] at hmisuse
      exact status_outcome_ne edit contents input _ hmisuse
    · intro h
      obtain ⟨⟨e, hrun⟩, -⟩ := runCommand_of_not_asks h edit contents input
      rw [hrun]
  have hafter : ∀ (program : Program) (c : Console),
      program.workedOff (decide ("--print-ast" ∈ args)) c =
        if "--print-ast" ∈ args then (c.print (program.render ++ "\n")).2
        else ((Session.ofConsole c).run program).2.console := by
    intro program c
    simp only [Program.workedOff, decide_eq_true_eq]
  refine ⟨?forms, ?prompt, ?expression, ?file, ?source, ?line, ?usage,
    fun hfile others => runCommand_of_fileToRead?_eq_none hfile others input,
    fun hnone other => runCommand_of_not_readsInput hnone input other⟩
  case forms => rw [hstatus, Arguments.exists_asks_iff]
  case prompt =>
    intro hleft
    exact hasks _ (by rw [hleft]; exact .prompt)
  case expression =>
    intro source hleft hplain
    exact hasks _ (by rw [hleft]; exact .expression hplain)
  case file =>
    intro path hleft
    have hfile := hasks (.file path) (by rw [hleft]; exact .file)
    constructor
    · intro source hsource
      rw [hfile, Invocation.outcome]
      dsimp only
      rw [hsource]
    · intro hnone
      rw [hfile, Invocation.outcome]
      dsimp only
      rw [hnone]
  case source =>
    intro title source program c hready
    rw [console_runSource_of_ready hready, hafter]
  case line =>
    intro number c line program hunread hline hblank hready
    rw [console_promptLoop_of_ready hunread hline hblank hready, hafter]
  case usage =>
    intro hcode
    exact runCommand_of_not_asks (hstatus.1 hcode) edit contents input

/-- A print option alone, so that the line `7` is a source and no value; a source without a print
option, and whatever the input is; a file with the name of the print option, and a print option;
and a file option too many. -/
theorem command_line_follows_usage_forms :
    ∃ (contents : String → Option (List UInt8)) (p : Program),
      contents "--print-ast" = some (Text.encode "6 / 4") ∧
        prepare "with a: a * 2" = .ready p ∧
        (promptLoop Text.corrected? true 1
          (.ofInput (Text.encode "with a: a * 2\n7\n"))).console =
            (promptLoop Text.corrected? true 2
              ((Console.ofInput (Text.encode "7\n")).print (p.render ++ "\n")).2).console ∧
        runCommand Text.corrected? contents (Text.encode "with a: a * 2\n7\n") ["--print-ast"] =
          ⟨.success, Text.encode "(with (a) (* a 2))\n7\n", []⟩ ∧
        (∀ input, runCommand Text.corrected? contents input ["7 - 2 * 3"] =
          ⟨.success, Text.encode "The result is: 1\n", []⟩) ∧
        runCommand Text.corrected? contents [] ["--file", "--print-ast", "--print-ast"] =
          ⟨.success, Text.encode "(/ 6 4)\n", []⟩ ∧
        (runCommand Text.corrected? contents [] ["--file", "--file", "--file"]).status.code = 2 ∧
        (runCommand Text.corrected? contents [] ["--file", "--file", "--file"]).output = [] ∧
        fileToRead? ["--file", "--file", "--file"] = none ∧
        readsInput contents ["--file", "--file", "--file"] = false := by
  obtain ⟨contents, hcontents⟩ : ∃ contents : String → Option (List UInt8),
      contents "--print-ast" = some (Text.encode "6 / 4") := ⟨fun _ => some _, rfl⟩
  have hdecoded : (contents "--print-ast").bind Text.decode? = some "6 / 4" := by
    rw [hcontents]
    exact Text.decode?_encode "6 / 4"
  have hready : prepare "with a: a * 2" = .ready (.declaring ⟨0, 4⟩ [⟨"a", ⟨5, 1⟩⟩]
      (.binary .mul ⟨10, 1⟩ (.reference "a" ⟨8, 1⟩) (.literal 2 "2" ⟨12, 1⟩) ⟨8, 5⟩)) := by
    decide +kernel
  have hline : sourceOfLine Text.corrected? (Text.encode "with a: a * 2" ++ [10]) =
      .ok "with a: a * 2".toList :=
    sourceOfLine_line (by decide) (gives_corrected? (by decide))
  obtain ⟨-, hprompt, -, -, -, hlines, -⟩ := command_line_follows_usage Text.corrected?
    ["--print-ast"] contents (Text.encode "with a: a * 2\n7\n")
  obtain ⟨-, -, hsource, -, -, -, -, -, hunread⟩ :=
    command_line_follows_usage Text.corrected? ["7 - 2 * 3"] contents []
  obtain ⟨-, -, -, hfile, -⟩ :=
    command_line_follows_usage Text.corrected? ["--file", "--print-ast", "--print-ast"] contents []
  obtain ⟨hforms, -, -, -, -, -, husage, -⟩ :=
    command_line_follows_usage Text.corrected? ["--file", "--file", "--file"] contents []
  have hleft : ["--file", "--file", "--file"].erase "--print-ast" =
      ["--file", "--file", "--file"] := by decide
  rw [hleft] at hforms
  have hcode := hforms.2 (by simp)
  obtain ⟨⟨e, hmisuse⟩, hfiles, hinput⟩ := husage hcode
  refine ⟨contents, _, hcontents, hready, ?_, (hprompt rfl).trans ?_,
    fun input => (hunread ?_ input).symm.trans ((hsource "7 - 2 * 3" rfl (by decide)).trans ?_),
    ((hfile "--print-ast" rfl).1 "6 / 4" hdecoded).trans ?_, hcode, by rw [hmisuse], hfiles,
    hinput⟩
  · exact hlines 1 (.ofInput (Text.encode "with a: a * 2\n7\n")) "with a: a * 2".toList _
      (by decide +kernel) hline (by decide +kernel) hready
  · decide +kernel
  · show sourceReadsInput false "7 - 2 * 3" = false
    decide +kernel
  · decide +kernel
  · decide +kernel

end Calculator
