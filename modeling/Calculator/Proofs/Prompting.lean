/-
  Calculator.Proofs.Prompting
  ───────────────────────────
  **THE PROMPT IS ONE RUN AFTER THE OTHER.**

  At the prompt the sources and the values of their variables come from one input, line by
  line.  A source that is run there takes just the lines that it takes when it is run alone,
  so what is behind them plays no part in its run, and the next source is read where it ends
  (`runSource_frame`).  Nothing else goes from one source to the next.  All that is asked of the
  line editor is that it gives the lines that are typed in (`LineEditor.Gives`).

  Main statement: `prompt_is_one_run_after_the_other`.
-/
import Calculator.CommandLine
import Calculator.Proofs.Dialogue
import Calculator.Proofs.Forms
import Calculator.Text.Draft

namespace Calculator

/-! ## §1. Lines of bytes. -/

/-- The bytes of some lines, each with its line feed. -/
def feed (lines : List (List UInt8)) : List UInt8 := lines.flatMap fun line => line ++ [10]

/-- None of the lines has a line feed inside. -/
def Unbroken (lines : List (List UInt8)) : Prop := ∀ line ∈ lines, 10 ∉ line

theorem feed_cons (line : List UInt8) (lines : List (List UInt8)) :
    feed (line :: lines) = line ++ 10 :: feed lines := by
  simp [feed]

theorem feed_append (front later : List (List UInt8)) :
    feed (front ++ later) = feed front ++ feed later := List.flatMap_append

theorem splitLine_line {line : List UInt8} (h : 10 ∉ line) (behind : List UInt8) :
    splitLine (line ++ 10 :: behind) = (line ++ [10], behind) := by
  induction line with
  | nil => rfl
  | cons b line ih =>
    obtain ⟨hb, hline⟩ := not_or.1 (mt List.mem_cons.2 h)
    rw [List.cons_append, splitLine, if_neg (Ne.symm hb), ih hline]
    rfl

theorem dropLines_feed {lines : List (List UInt8)} (h : Unbroken lines) (behind : List UInt8) :
    dropLines lines.length (feed lines ++ behind) = behind := by
  induction lines with
  | nil => rfl
  | cons line lines ih =>
    obtain ⟨hline, hlines⟩ := List.forall_mem_cons.1 h
    rw [feed_cons, List.append_assoc, List.cons_append, List.length_cons, dropLines,
      splitLine_line hline]
    exact ih hlines

/-- Only the line feed has its byte in it. -/
theorem lineFeed_notMem_utf8EncodeChar {c : Char} (h : c ≠ '\n') :
    10 ∉ String.utf8EncodeChar c := by
  have hbyte : ∀ n : Nat, (10 : UInt8) = UInt8.ofNat n ↔ n % 256 = 10 := by
    intro n
    rw [← UInt8.toNat_inj, UInt8.toNat_ofNat']
    exact eq_comm
  have hval : c.val.toNat ≠ 10 := by
    intro heq
    apply h
    apply Char.ext
    apply UInt32.toNat_inj.1
    exact heq
  unfold String.utf8EncodeChar
  dsimp only
  split
  · simp only [List.mem_singleton, hbyte]
    omega
  · split
    · simp only [List.mem_cons, List.not_mem_nil, or_false, hbyte]
      omega
    · split
      · simp only [List.mem_cons, List.not_mem_nil, or_false, hbyte]
        omega
      · simp only [List.mem_cons, List.not_mem_nil, or_false, hbyte]
        omega

theorem lineFeed_notMem_encode {text : String} (h : '\n' ∉ text.toList) :
    10 ∉ Text.encode text := by
  intro hmem
  obtain ⟨c, hc, hbyte⟩ := List.mem_flatMap.1 hmem
  have hne : c ≠ '\n' := by
    intro heq
    exact h (heq ▸ hc)
  exact lineFeed_notMem_utf8EncodeChar hne hbyte

/-! ## §2. What is behind the lines that are taken. -/

theorem linesRead_succ_ne_zero (n : Nat) (input : List UInt8) : linesRead (n + 1) input ≠ 0 := by
  cases h : lineValue? (splitLine input).1 with
  | none =>
    rw [linesRead_of_none h]
    exact Nat.one_ne_zero
  | some value =>
    rw [linesRead_of_some h]
    exact Nat.succ_ne_zero _

/-- There are lines and more behind them on one console, and just the lines on another. -/
structure Frames (c d : Console) (lines : List (List UInt8)) (behind : List UInt8) : Prop where
  full : c.NeverFails
  bare : d.NeverFails
  unbroken : Unbroken lines
  more : c.unread = feed lines ++ behind
  just : d.unread = feed lines

namespace Console

variable {c d : Console} {lines : List (List UInt8)} {behind : List UInt8}

/-- One line answers one question, and what is behind it is left. -/
theorem ask_line (h : c.NeverFails) {line : List UInt8} (hline : 10 ∉ line)
    (hu : c.unread = line ++ 10 :: behind) (name : String) :
    ∃ d, d.NeverFails ∧ d.unread = behind ∧
      Runtime.ask name c = (valueOfLine name (line ++ [10]), d) := by
  have hask := ask_of_neverFails h name
  rw [hu, splitLine_line hline] at hask
  exact ⟨_, h.used _ _, rfl, hask⟩

/-- The answers do not depend on what is behind the lines that are read for them. -/
theorem answers_frame {names : List String} (h : Frames c d lines behind)
    (hread : linesRead names.length (feed lines) = lines.length) :
    Runtime.answers names c = Runtime.answers names d := by
  induction names generalizing c d lines with
  | nil => rfl
  | cons name later ih =>
    cases lines with
    | nil => exact absurd hread (linesRead_succ_ne_zero _ _)
    | cons line lines =>
      obtain ⟨hc, hd, hlines, hcu, hdu⟩ := h
      obtain ⟨hline, hlines⟩ := List.forall_mem_cons.1 hlines
      rw [feed_cons] at hread hcu hdu
      rw [List.append_assoc, List.cons_append] at hcu
      obtain ⟨c', hc', hcu', haskc⟩ := ask_line hc hline hcu name
      obtain ⟨d', hd', hdu', haskd⟩ := ask_line hd hline hdu name
      cases hvalue : valueOfLine name (line ++ [10]) with
      | error error =>
        rw [hvalue] at haskc haskd
        rw [Runtime.answers_of_error haskc, Runtime.answers_of_error haskd]
      | ok value =>
        -- the other lines are read for the other variables
        have hsome : lineValue? (splitLine (line ++ 10 :: feed lines)).1 = some value := by
          rw [splitLine_line hline]
          exact valueOfLine_eq_ok_iff.1 hvalue
        rw [List.length_cons, linesRead_of_some hsome, splitLine_line hline, List.length_cons]
          at hread
        rw [hvalue] at haskc haskd
        rw [Runtime.answers_of_ok haskc, Runtime.answers_of_ok haskd,
          ih ⟨hc', hd', hlines, hcu', hdu'⟩ (Nat.succ.inj hread)]

/-- Nor does the number of lines that are read. -/
theorem linesRead_frame {names : List String} (h : Frames c d lines behind)
    (hread : linesRead names.length (feed lines) = lines.length) :
    linesRead names.length c.unread = lines.length := by
  rw [← length_answers h.full, answers_frame h hread, length_answers h.bare, h.just, hread]

end Console

/-! ## §3. One source. -/

/-- How many lines of the input the work on a source takes: those of its variables if it gets
so far. -/
def linesTaken (printTree : Bool) (source : String) (input : List UInt8) : Nat :=
  match prepare source with
  | .ready program => if printTree then 0 else linesRead program.declared.length input
  | .malformed _ => 0
  | .unfit _ => 0

/-- Whatever comes of a run, it leaves the console of the session. -/
theorem console_runProgram (title : String) (p : Program) (c : Console) :
    (runProgram title false p c).console = ((Session.ofConsole c).run p).2.console := by
  unfold runProgram
  rw [if_neg Bool.false_ne_true]
  split
  · next heq => rw [heq]
  · next heq => rw [heq]

/-- Just these lines are taken off an input, whatever comes of them. -/
theorem unread_runSource {c : Console} (h : c.NeverFails) (title : String) (printTree : Bool)
    (source : String) :
    (runSource title printTree source c).console.unread =
      dropLines (linesTaken printTree source c.unread) c.unread := by
  unfold runSource linesTaken
  cases prepare source with
  | malformed errors => rfl
  | unfit problems => rfl
  | ready p =>
    cases printTree with
    | true => rfl
    | false =>
      have hsession : (Session.ofConsole c).console.NeverFails := h
      dsimp only
      rw [console_runProgram, Session.run_of_neverFails hsession, Session.console_evaluate hsession]
      rfl

/-- Whether the remark sums up what was wrong with a source. -/
def Notice.isSummary : Notice → Bool
  | syntaxErrors => true
  | semanticErrors => true
  | usage _ => false
  | problem _ _ => false
  | unreadable _ => false

/-- The remarks that sum up. -/
def summaries (notices : List Notice) : List Notice := notices.filter Notice.isSummary

theorem summaries_append (front later : List Notice) :
    summaries (front ++ later) = summaries front ++ summaries later :=
  List.filter_append ..

/-- A problem is no summary. -/
theorem summaries_problems {α : Type} (title : String) (report : α → Report) (problems : List α) :
    summaries (problems.map fun e => .problem title (report e)) = [] := by
  apply List.filter_eq_nil_iff.2
  intro notice hmem
  obtain ⟨e, -, rfl⟩ := List.mem_map.1 hmem
  exact Bool.false_ne_true

theorem summaries_runProgram (title : String) (printTree : Bool) (program : Program)
    (c : Console) : summaries (runProgram title printTree program c).notices = [] := by
  unfold runProgram
  split
  · rfl
  · split
    · rfl
    · rfl

section Frame

variable {c d : Console} {lines : List (List UInt8)} {behind : List UInt8}

/-- A run that takes just the lines of one console does the same on another that has more
behind them, and leaves what is behind. -/
theorem Session.run_frame {p : Program} (h : Frames c d lines behind)
    (hread : linesRead p.declared.length (feed lines) = lines.length) :
    ∃ said, ((ofConsole c).run p).2.console =
        { c with unread := behind, written := c.written ++ said } ∧
      ((ofConsole d).run p).2.console.written = d.written ++ said := by
  have hnames : linesRead (p.declared.map Declaration.name).length (feed lines) = lines.length := by
    rwa [List.length_map]
  have hcount : linesRead p.declared.length c.unread = lines.length := by
    have hframe := Console.linesRead_frame h hnames
    rwa [List.length_map] at hframe
  -- the values that the variables get are the same, so the results are
  have hvalue : ((ofConsole c).evaluate p).1 = ((ofConsole d).evaluate p).1 := by
    have hanswers : Runtime.answers (p.declared.map Declaration.name) (ofConsole c).console =
        Runtime.answers (p.declared.map Declaration.name) (ofConsole d).console :=
      Console.answers_frame h hnames
    rw [fst_evaluate, fst_evaluate, askAll_eq, askAll_eq, hanswers]
    rfl
  have hsc : (ofConsole c).console.NeverFails := h.full
  have hsd : (ofConsole d).console.NeverFails := h.bare
  refine ⟨promptsFor ((p.declared.map Declaration.name).take lines.length) ++
    resultBytes ((ofConsole d).evaluate p).1, ?_, ?_⟩
  · rw [run_of_neverFails hsc, console_evaluate hsc, hvalue]
    show Console.mk (dropLines (linesRead _ c.unread) c.unread)
      (c.written ++ promptsFor (List.take (linesRead _ c.unread) _) ++ _) _ _ = _
    rw [hcount, h.more, dropLines_feed h.unbroken, List.append_assoc]
    rfl
  · rw [run_of_neverFails hsd, console_evaluate hsd]
    show d.written ++ promptsFor (List.take (linesRead _ d.unread) _) ++ _ = _
    rw [h.just, hread, List.append_assoc]

/-- Where there are no lines, all that is unread is behind them. -/
theorem Frames.eq_of_nothing_taken (h : Frames c d lines behind) (hnone : lines.length = 0)
    (written : List UInt8) : { c with written } = { c with unread := behind, written } := by
  obtain rfl : lines = [] := List.length_eq_zero_iff.1 hnone
  obtain rfl : c.unread = behind := h.more
  rfl

/-- Work that takes no lines and says nothing leaves what is behind. -/
theorem Frames.said_nothing (h : Frames c d lines behind) (hnone : lines.length = 0) :
    ∃ said, c = { c with unread := behind, written := c.written ++ said } ∧
      d.written = d.written ++ said := by
  refine ⟨[], ?_, (List.append_nil _).symm⟩
  rw [List.append_nil]
  exact h.eq_of_nothing_taken hnone c.written

theorem runProgram_frame {printTree : Bool} {p : Program} (h : Frames c d lines behind)
    (hread : (if printTree then 0 else linesRead p.declared.length (feed lines)) = lines.length)
    (title other : String) :
    ∃ said, (runProgram title printTree p c).console =
        { c with unread := behind, written := c.written ++ said } ∧
      (runProgram other printTree p d).console.written = d.written ++ said := by
  cases printTree with
  | true =>
    refine ⟨Text.encode (p.render ++ "\n"), ?_, ?_⟩
    · show (c.print _).2 = _
      rw [Console.print_of_neverFails h.full]
      exact h.eq_of_nothing_taken hread.symm _
    · show (d.print _).2.written = _
      rw [Console.print_of_neverFails h.bare]
  | false =>
    obtain ⟨said, hconsole, hwritten⟩ := Session.run_frame h hread
    refine ⟨said, ?_, ?_⟩
    · rw [console_runProgram, hconsole]
    · rw [console_runProgram, hwritten]

/-- The work on a source takes its lines, and does the same whatever is behind them and
whatever the source is called. -/
theorem runSource_frame {printTree : Bool} {source : String} (h : Frames c d lines behind)
    (hread : linesTaken printTree source (feed lines) = lines.length) (title other : String) :
    ∃ said, (runSource title printTree source c).console =
        { c with unread := behind, written := c.written ++ said } ∧
      (runSource other printTree source d).console.written = d.written ++ said ∧
      summaries (runSource title printTree source c).notices =
        summaries (runSource other printTree source d).notices := by
  unfold linesTaken at hread
  unfold runSource
  cases hp : prepare source with
  | malformed errors =>
    rw [hp] at hread
    obtain ⟨said, hconsole, hwritten⟩ := h.said_nothing hread.symm
    refine ⟨said, hconsole, hwritten, ?_⟩
    dsimp only
    rw [summaries_append, summaries_append, summaries_problems, summaries_problems]
  | unfit problems =>
    rw [hp] at hread
    obtain ⟨said, hconsole, hwritten⟩ := h.said_nothing hread.symm
    refine ⟨said, hconsole, hwritten, ?_⟩
    dsimp only
    rw [summaries_append, summaries_append, summaries_problems, summaries_problems]
  | ready p =>
    rw [hp] at hread
    obtain ⟨said, hconsole, hwritten⟩ := runProgram_frame h hread title other
    refine ⟨said, hconsole, hwritten, ?_⟩
    dsimp only
    rw [summaries_runProgram, summaries_runProgram]

end Frame

/-! ## §4. Lines of sources. -/

/-- What is left of a line without its end was in it. -/
theorem chomp_subset (cs : List Char) : ∀ c ∈ chomp (cs ++ ['\n']), c ∈ cs := by
  intro c hc
  have hreverse : (cs ++ ['\n']).reverse = '\n' :: cs.reverse := by simp
  unfold chomp at hc
  rw [hreverse] at hc
  split at hc
  · next rest heq =>
    rw [← List.mem_reverse, (List.cons.inj heq).2]
    exact List.mem_cons_of_mem _ (List.mem_reverse.1 hc)
  · next rest _ heq =>
    rw [← List.mem_reverse, (List.cons.inj heq).2]
    exact List.mem_reverse.1 hc
  · next h => exact absurd rfl (h _)

/-- A line without a carriage return loses its line feed only. -/
theorem chomp_line {cs : List Char} (h : '\r' ∉ cs) : chomp (cs ++ ['\n']) = cs := by
  have hreverse : (cs ++ ['\n']).reverse = '\n' :: cs.reverse := by simp
  unfold chomp
  rw [hreverse]
  split
  · next rest heq =>
    have hcr : '\r' ∈ cs.reverse := by simp [(List.cons.inj heq).2]
    exact absurd (List.mem_reverse.1 hcr) h
  · next rest _ heq => rw [← (List.cons.inj heq).2, List.reverse_reverse]
  · next h => exact absurd rfl (h _)

theorem decode?_line (text : String) :
    Text.decode? (Text.encode text ++ [10]) = some (text ++ "\n") := by
  have hline : Text.encode text ++ [10] = Text.encode (text ++ "\n") := by
    rw [Text.encode_append]
    rfl
  rw [hline, Text.decode?_encode]

/-- The line editor gives the line in which the text is typed, without its end. -/
def LineEditor.Gives (edit : LineEditor) (text : String) : Prop :=
  edit (chomp (text ++ "\n").toList) = some (chomp (text ++ "\n").toList)

/-- Of an editor whose backspaces take back what was typed this is true as long as there are
none. -/
theorem gives_corrected? {text : String} (h : '\x08' ∉ text.toList) :
    LineEditor.Gives Text.corrected? text := by
  have hline : (text ++ "\n").toList = text.toList ++ ['\n'] := by simp
  unfold LineEditor.Gives
  rw [hline]
  exact Text.corrected?_eq_self fun hmem => h (chomp_subset _ _ hmem)

section Line

variable {edit : LineEditor} {text : String}

theorem sourceOfLine_of_gives (h : edit.Gives text) :
    sourceOfLine edit (Text.encode text ++ [10]) = .ok (chomp (text ++ "\n").toList) := by
  unfold sourceOfLine
  rw [decode?_line]
  dsimp only
  rw [h]

/-- A line without a carriage return holds its text. -/
theorem sourceOfLine_line (hr : '\r' ∉ text.toList) (h : edit.Gives text) :
    sourceOfLine edit (Text.encode text ++ [10]) = .ok text.toList := by
  have hline : (text ++ "\n").toList = text.toList ++ ['\n'] := by simp
  rw [sourceOfLine_of_gives h, hline, chomp_line hr]

/-- A blank line holds a blank source. -/
theorem sourceOfLine_blank (hb : isBlankLine text.toList = true) (h : edit.Gives text) :
    ∃ source, sourceOfLine edit (Text.encode text ++ [10]) = .ok source ∧
      isBlankLine source = true := by
  have hline : (text ++ "\n").toList = text.toList ++ ['\n'] := by simp
  refine ⟨_, sourceOfLine_of_gives h, List.all_eq_true.2 ?_⟩
  rw [hline]
  exact fun c hc => List.all_eq_true.1 hb c (chomp_subset _ c hc)

end Line

/-! ## §5. The loop. -/

section Loop

variable {edit : LineEditor} {c : Console} {text : String} {behind : List UInt8}

theorem takeLine_line (hn : '\n' ∉ text.toList)
    (hu : c.unread = Text.encode text ++ 10 :: behind) :
    c.takeLine = (Text.encode text ++ [10], { c with unread := behind }) := by
  unfold Console.takeLine
  rw [hu, splitLine_line (lineFeed_notMem_encode hn)]

theorem ne_nil_of_line (hu : c.unread = Text.encode text ++ 10 :: behind) : c.unread ≠ [] := by
  rw [hu]
  exact List.append_ne_nil_of_right_ne_nil _ (List.cons_ne_nil _ _)

/-- A blank line: it holds nothing but white space, and the editor gives it. -/
structure IsBlankText (edit : LineEditor) (text : String) : Prop where
  line : '\n' ∉ text.toList
  blank : isBlankLine text.toList = true
  given : edit.Gives text

/-- A blank line is passed over. -/
theorem promptLoop_blank (h : IsBlankText edit text)
    (hu : c.unread = Text.encode text ++ 10 :: behind) (printTree : Bool) (number : Nat) :
    promptLoop edit printTree number c =
      promptLoop edit printTree (number + 1) { c with unread := behind } := by
  obtain ⟨source, hsource, hblank⟩ := sourceOfLine_blank h.blank h.given
  rw [promptLoop, dif_neg (ne_nil_of_line hu), takeLine_line h.line hu]
  dsimp only
  rw [hsource]
  dsimp only
  rw [if_pos hblank]

/-- A line with a source is worked on, and then what is behind it and behind what it takes. -/
theorem promptLoop_source (hn : '\n' ∉ text.toList) (hr : '\r' ∉ text.toList)
    (hgiven : edit.Gives text) (hb : isBlankLine text.toList = false)
    (hu : c.unread = Text.encode text ++ 10 :: behind) (printTree : Bool) (number : Nat) :
    ∃ title,
      let first := runSource title printTree text { c with unread := behind }
      let later := promptLoop edit printTree (number + 1) first.console
      promptLoop edit printTree number c =
        ⟨later.status, later.console, first.notices ++ later.notices⟩ := by
  refine ⟨"<repl-" ++ Nat.repr number ++ ">", ?_⟩
  dsimp only
  rw [promptLoop, dif_neg (ne_nil_of_line hu), takeLine_line hn hu]
  dsimp only
  rw [sourceOfLine_line hr hgiven]
  dsimp only
  rw [if_neg (by rw [hb]; exact Bool.false_ne_true), String.ofList_toList]

end Loop

/-- A text of white space is a blank line for an editor whose backspaces take back what was
typed. -/
theorem isBlankText_corrected? {text : String} (hn : '\n' ∉ text.toList)
    (hb : isBlankLine text.toList = true) : IsBlankText Text.corrected? text := by
  refine ⟨hn, hb, gives_corrected? fun hmem => ?_⟩
  cases List.all_eq_true.1 hb _ hmem

/-- Any number of blank lines is passed over. -/
theorem promptLoop_blanks {edit : LineEditor} {c : Console} {blanks : List String}
    {behind : List UInt8} (hb : ∀ text ∈ blanks, IsBlankText edit text)
    (hu : c.unread = feed (blanks.map Text.encode) ++ behind) (printTree : Bool) (number : Nat) :
    ∃ next, promptLoop edit printTree number c =
      promptLoop edit printTree next { c with unread := behind } := by
  induction blanks generalizing c number with
  | nil =>
    obtain rfl : c.unread = behind := hu
    exact ⟨number, rfl⟩
  | cons text blanks ih =>
    obtain ⟨hblank, hblanks⟩ := List.forall_mem_cons.1 hb
    rw [List.map_cons, feed_cons, List.append_assoc, List.cons_append] at hu
    rw [promptLoop_blank hblank hu]
    obtain ⟨next, hnext⟩ := ih hblanks
      (c := { c with unread := feed (blanks.map Text.encode) ++ behind }) rfl (number + 1)
    exact ⟨next, hnext⟩

/-! ## §6. Whole inputs. -/

/-- What is put in for one source: blank lines, the line of the source, and the lines for its
variables. -/
structure Turn where
  blanks : List String
  source : String
  values : List (List UInt8)

namespace Turn

/-- The bytes that are put in. -/
def input (t : Turn) : List UInt8 :=
  feed (t.blanks.map Text.encode ++ Text.encode t.source :: t.values)

/-- The source is one line that can stand on a command line too, the line editor gives this
line, and there are just the lines that are taken when the source is run alone. -/
structure Fits (edit : LineEditor) (printTree : Bool) (t : Turn) : Prop where
  blanks : ∀ text ∈ t.blanks, IsBlankText edit text
  line : '\n' ∉ t.source.toList ∧ '\r' ∉ t.source.toList
  given : edit.Gives t.source
  present : isBlankLine t.source.toList = false
  argument : Arguments.isOption t.source = false
  unbroken : Unbroken t.values
  taken : linesTaken printTree t.source (feed t.values) = t.values.length

/-- The work on the source alone, with its lines as the input. -/
def alone (printTree : Bool) (t : Turn) : Ending :=
  runSource "<input>" printTree t.source (.ofInput (feed t.values))

end Turn

/-- One turn: the source is worked on as if it were alone, and the loop goes on with what is
behind its lines. -/
theorem promptLoop_turn {edit : LineEditor} {printTree : Bool} {t : Turn} {c : Console}
    {behind : List UInt8} (ht : t.Fits edit printTree) (hc : c.NeverFails)
    (hu : c.unread = t.input ++ behind) (number : Nat) :
    ∃ next d, d.NeverFails ∧ d.unread = behind ∧
      d.written = c.written ++ (t.alone printTree).console.written ∧
      (promptLoop edit printTree number c).status = (promptLoop edit printTree next d).status ∧
      (promptLoop edit printTree number c).console = (promptLoop edit printTree next d).console ∧
      summaries (promptLoop edit printTree number c).notices =
        summaries (t.alone printTree).notices ++
          summaries (promptLoop edit printTree next d).notices := by
  have hinput : c.unread = feed (t.blanks.map Text.encode) ++
      (Text.encode t.source ++ 10 :: (feed t.values ++ behind)) := by
    rw [hu, Turn.input, feed_append, feed_cons]
    simp only [List.append_assoc, List.cons_append]
  obtain ⟨here, hblanks⟩ := promptLoop_blanks ht.blanks hinput printTree number
  have hline : Console.unread { c with
      unread := Text.encode t.source ++ 10 :: (feed t.values ++ behind) } =
        Text.encode t.source ++ 10 :: (feed t.values ++ behind) := rfl
  obtain ⟨title, hsource⟩ :=
    promptLoop_source ht.line.1 ht.line.2 ht.given ht.present hline printTree here
  -- the lines of the source are in front of what is behind, so they are all that is taken
  have hframes : Frames { c with unread := feed t.values ++ behind } (.ofInput (feed t.values))
      t.values behind := ⟨hc.used _ _, ⟨rfl, rfl⟩, ht.unbroken, rfl, rfl⟩
  obtain ⟨said, hconsole, hwritten, hsummaries⟩ :=
    runSource_frame hframes ht.taken title "<input>"
  rw [hblanks, hsource]
  dsimp only
  refine ⟨here + 1, _, ?_, ?_, ?_, rfl, rfl, ?_⟩
  · rw [hconsole]
    exact hc.used _ _
  · rw [hconsole]
  · rw [hconsole, Turn.alone, hwritten]
    rfl
  · rw [summaries_append, hsummaries]
    rfl

/-- The loop works on one source after the other, each as if it were alone. -/
theorem promptLoop_turns {edit : LineEditor} {printTree : Bool} {turns : List Turn} {c : Console}
    {ending : List String} (h : ∀ t ∈ turns, t.Fits edit printTree)
    (hending : ∀ text ∈ ending, IsBlankText edit text) (hc : c.NeverFails)
    (hu : c.unread = turns.flatMap Turn.input ++ feed (ending.map Text.encode)) (number : Nat) :
    (promptLoop edit printTree number c).status = .success ∧
      (promptLoop edit printTree number c).console.written =
        c.written ++ turns.flatMap (fun t => (t.alone printTree).console.written) ∧
      summaries (promptLoop edit printTree number c).notices =
        turns.flatMap fun t => summaries (t.alone printTree).notices := by
  induction turns generalizing c number with
  | nil =>
    have hblank : c.unread = feed (ending.map Text.encode) ++ [] := by
      rw [List.append_nil]
      exact hu
    obtain ⟨next, hnext⟩ := promptLoop_blanks hending hblank printTree number
    rw [hnext, promptLoop, dif_pos rfl]
    exact ⟨rfl, (List.append_nil _).symm, rfl⟩
  | cons t turns ih =>
    obtain ⟨ht, hturns⟩ := List.forall_mem_cons.1 h
    rw [List.flatMap_cons, List.append_assoc] at hu
    obtain ⟨next, d, hd, hdu, hwritten, hstatus, hconsole, hsummaries⟩ :=
      promptLoop_turn ht hc hu number
    obtain ⟨hsuccess, hlater, hsums⟩ := ih hturns hd hdu next
    refine ⟨hstatus.trans hsuccess, ?_, ?_⟩
    · rw [hconsole, hlater, hwritten, List.append_assoc, List.flatMap_cons]
    · rw [hsummaries, hsums, List.flatMap_cons]

/-! ## §7. The command. -/

/-- The option that asks for the tree, if it is wanted. -/
def printing (printTree : Bool) : List String := if printTree then [Arguments.printOption] else []

theorem read_printing (printTree : Bool) :
    Arguments.read (printing printTree) = .ok ⟨printTree, .prompt⟩ := by
  cases printTree <;> rfl

/-- An argument that has not the form of an option is an expression. -/
theorem read_expression {source : String} (h : Arguments.isOption source = false)
    (printTree : Bool) :
    Arguments.read (printing printTree ++ [source]) = .ok ⟨printTree, .expression source⟩ := by
  have hprint : source ≠ Arguments.printOption := Arguments.ne_of_isOption h rfl
  have herase : (printing printTree ++ [source]).erase Arguments.printOption = [source] := by
    cases printTree <;> simp [printing, hprint]
  have hasked : decide (Arguments.printOption ∈ printing printTree ++ [source]) = printTree := by
    cases printTree <;> simp [printing, Ne.symm hprint]
  refine Arguments.read_eq_ok_iff.2 ⟨hasked.symm, ?_⟩
  rw [herase]
  exact .expression (Arguments.isOption_eq_false_iff.1 h)

/-- **THE PROMPT IS ONE RUN AFTER THE OTHER.**  Let sources be put in line by line, each with
the lines for its variables behind it, just as many as are taken if it is run alone, and with
any blank lines between; and let the line editor give each of the lines as it was typed.  Then
the command without a source ends well; its output is that of the commands with these sources,
one after the other, each with its own lines as the input; and so are the remarks that sum up
what was wrong with a source. -/
theorem prompt_is_one_run_after_the_other (edit : LineEditor)
    (contents : String → Option (List UInt8)) (printTree : Bool) (turns : List Turn)
    (ending : List String) (h : ∀ t ∈ turns, t.Fits edit printTree)
    (hending : ∀ text ∈ ending, IsBlankText edit text) :
    let all := runCommand edit contents (turns.flatMap Turn.input ++ feed (ending.map Text.encode))
      (printing printTree)
    let alone := fun t : Turn =>
      runCommand edit contents (feed t.values) (printing printTree ++ [t.source])
    all.status = .success ∧
      all.output = turns.flatMap (fun t => (alone t).output) ∧
      summaries all.notices = turns.flatMap fun t => summaries (alone t).notices := by
  dsimp only
  have halone : ∀ t ∈ turns,
      runCommand edit contents (feed t.values) (printing printTree ++ [t.source]) =
        (t.alone printTree).outcome := by
    intro t ht
    rw [runCommand, read_expression (h t ht).argument]
    rfl
  have houtputs : turns.flatMap (fun t =>
      (runCommand edit contents (feed t.values) (printing printTree ++ [t.source])).output) =
        turns.flatMap fun t => (t.alone printTree).console.written :=
    congrArg List.flatten
      (List.map_congr_left fun t ht => congrArg Outcome.output (halone t ht))
  have hsummaries : turns.flatMap (fun t => summaries
      (runCommand edit contents (feed t.values) (printing printTree ++ [t.source])).notices) =
        turns.flatMap fun t => summaries (t.alone printTree).notices :=
    congrArg List.flatten (List.map_congr_left fun t ht =>
      congrArg (fun outcome => summaries outcome.notices) (halone t ht))
  have hnever : Console.NeverFails (.ofInput
      (turns.flatMap Turn.input ++ feed (ending.map Text.encode))) := ⟨rfl, rfl⟩
  obtain ⟨hstatus, hwritten, hnotices⟩ := promptLoop_turns h hending hnever rfl 1
  rw [houtputs, hsummaries, runCommand, read_printing]
  exact ⟨hstatus, hwritten, hnotices⟩

/-- A blank line, a program whose second value is none, one that is cut off, and one that comes to
a result: the lines `4`, `x` and `21` are values, and none of them is a source. -/
theorem prompt_is_one_run_after_the_other_values :
    ∃ turns : List Turn, (∀ t ∈ turns, t.Fits Text.corrected? false) ∧
      turns.map Turn.source = ["with a, b: a / b", "(é + ", "with a: a * 2"] ∧
      turns.flatMap Turn.input ++ feed [[32]] = Text.encode
        "\t\nwith a, b: a / b\n4\nx\n(é + \n\n \r\nwith a: a * 2\n21\n \n" ∧
      let all :=
        runCommand Text.corrected? (fun _ => none) (turns.flatMap Turn.input ++ feed [[32]]) []
      all.status = .success ∧
        all.output = Text.encode
          "Enter a value for a: Enter a value for b: Enter a value for a: The result is: 42\n" ∧
        summaries all.notices = [.syntaxErrors] := by
  have hquotient : Turn.Fits Text.corrected? false ⟨["\t"], "with a, b: a / b", [[52], [120]]⟩ :=
    ⟨List.forall_mem_singleton.2 (isBlankText_corrected? (by decide) (by decide +kernel)),
      by decide +kernel, gives_corrected? (by decide +kernel), by decide +kernel, by decide +kernel,
      List.forall_mem_cons.2 ⟨by decide, List.forall_mem_singleton.2 (by decide)⟩,
      by decide +kernel⟩
  have hfaulty : Turn.Fits Text.corrected? false ⟨[], "(é + ", []⟩ :=
    ⟨List.forall_mem_nil _, by decide +kernel,
      gives_corrected? (by decide +kernel), by decide +kernel, by decide +kernel,
      List.forall_mem_nil _, by decide +kernel⟩
  have hdouble : Turn.Fits Text.corrected? false ⟨["", " \r"], "with a: a * 2", [[50, 49]]⟩ :=
    ⟨List.forall_mem_cons.2 ⟨isBlankText_corrected? (by decide) (by decide +kernel),
        List.forall_mem_singleton.2 (isBlankText_corrected? (by decide) (by decide +kernel))⟩,
      by decide +kernel, gives_corrected? (by decide +kernel), by decide +kernel,
      by decide +kernel, List.forall_mem_singleton.2 (by decide), by decide +kernel⟩
  have hfits : ∀ t ∈ [_, _, _], Turn.Fits Text.corrected? false t :=
    List.forall_mem_cons.2 ⟨hquotient, List.forall_mem_cons.2
      ⟨hfaulty, List.forall_mem_singleton.2 hdouble⟩⟩
  have hending : ∀ text ∈ [" "], IsBlankText Text.corrected? text :=
    List.forall_mem_singleton.2 (isBlankText_corrected? (by decide) (by decide +kernel))
  obtain ⟨hstatus, houtput, hsummaries⟩ :=
    prompt_is_one_run_after_the_other Text.corrected? (fun _ => none) false _ [" "] hfits hending
  refine ⟨_, hfits, rfl, by decide +kernel, hstatus, houtput.trans ?_, hsummaries.trans ?_⟩
  · decide +kernel
  · decide +kernel

end Calculator
