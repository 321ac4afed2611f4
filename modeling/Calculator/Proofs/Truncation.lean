/-
  Calculator.Proofs.Truncation
  ────────────────────────────
  **A FULL OUTPUT CUTS A RUN SHORT BUT NEVER ALTERS IT.**

  The same program runs twice, once on an output without a limit and once on one that takes
  `n` bytes.  As long as all that is written fits, the two go on in step; where it does not,
  the limited run ends at once, and its output is the start of the other one, which only grows
  from there on.  `CutAt` says which of the two has happened, and each part of a run keeps it:
  asking for the variables, the evaluation, and telling the result.

  Main statement: `full_output_cuts_run`.
-/
import Calculator.Proofs.Dialogue

namespace Calculator

/-! ## §1. One use of a limited console. -/

namespace Console

variable {c : Console} {n : Nat}

/-- Whether the output takes all of these bytes. -/
def takes (bytes : List UInt8) (c : Console) : Bool :=
  c.capacity.all fun capacity => decide (bytes.length ≤ capacity - c.written.length)

theorem takes_iff_le_room {bytes : List UInt8} :
    c.takes bytes = true ↔ bytes.length ≤ c.room bytes.length := by
  unfold takes room
  cases c.capacity with
  | none => exact iff_of_true rfl (Nat.le_refl _)
  | some capacity =>
    rw [Option.all_some, decide_eq_true_eq]
    dsimp only
    omega

theorem room_lt_of_not_takes {bytes : List UInt8} (h : c.takes bytes = false) :
    c.room bytes.length < bytes.length := by
  rw [← Nat.not_le, ← takes_iff_le_room, h]
  exact Bool.false_ne_true

/-- A text that the output takes is written. -/
theorem print_of_takes {text : String} (h : c.takes (Text.encode text) = true) :
    c.print text = (.ok (), { c with written := c.written ++ Text.encode text }) := by
  have hroom := takes_iff_le_room.1 h
  simp only [print, if_neg (Nat.not_lt.2 hroom), List.take_of_length_le hroom]

/-- Of any other text that part is written for which there is room, and writing it fails. -/
theorem print_of_not_takes {text : String} (h : c.takes (Text.encode text) = false) :
    c.print text = (.error .outputFull,
      { c with
        written := c.written ++ (Text.encode text).take (c.room (Text.encode text).length) }) := by
  simp only [print, if_pos (room_lt_of_not_takes h)]

/-- The console with room for `n` bytes of output in all. -/
def limited (n : Nat) (c : Console) : Console := { c with capacity := some n }

/-- A text that fits is written as without a limit. -/
theorem print_limited_of_fits {text : String}
    (h : (c.written ++ Text.encode text).length ≤ n) :
    (c.limited n).print text =
      (.ok (), { c.limited n with written := c.written ++ Text.encode text }) := by
  refine print_of_takes (decide_eq_true ?_)
  show _ ≤ n - c.written.length
  rw [List.length_append] at h
  omega

/-- Of a text that does not fit the start is written, and writing it fails. -/
theorem print_limited_of_over {text : String} (hn : c.written.length ≤ n)
    (h : n < (c.written ++ Text.encode text).length) :
    (c.limited n).print text =
      (.error .outputFull,
        { c.limited n with written := (c.written ++ Text.encode text).take n }) := by
  rw [List.length_append] at h
  have hfull : (c.limited n).takes (Text.encode text) = false := by
    refine decide_eq_false ?_
    show ¬_ ≤ n - c.written.length
    omega
  have hroom : (c.limited n).room (Text.encode text).length = n - c.written.length := by
    show min _ (n - c.written.length) = _
    omega
  rw [print_of_not_takes hfull, hroom, List.take_append, List.take_of_length_le hn]
  rfl

theorem written_ask (hc : c.NeverFails) (name : String) :
    (Runtime.ask name c).2.written = c.written ++ Text.encode (prompt name) := by
  have hprompt : promptsFor [name] = Text.encode (prompt name) := List.flatMap_singleton ..
  rw [ask_of_neverFails hc, ← hprompt]

/-- Asking with a prompt that fits goes as without a limit. -/
theorem ask_limited_of_fits (hc : c.NeverFails) (name : String)
    (h : (Runtime.ask name c).2.written.length ≤ n) :
    Runtime.ask name (c.limited n) =
      ((Runtime.ask name c).1, (Runtime.ask name c).2.limited n) := by
  rw [written_ask hc] at h
  have hflush : (c.limited n).flushFails = false := hc.flushes
  rw [runtime_ask, runtime_ask]
  unfold ask
  rw [print_limited_of_fits h, print_of_neverFails hc]
  simp only [flush, hflush, hc.flushes]
  rfl

/-- Asking with a prompt that does not fit fails. -/
theorem ask_limited_of_over (hc : c.NeverFails) (hn : c.written.length ≤ n) (name : String)
    (h : n < (Runtime.ask name c).2.written.length) :
    ∃ d, Runtime.ask name (c.limited n) = (.error (.console .outputFull), d) ∧
      d.written = (Runtime.ask name c).2.written.take n := by
  rw [written_ask hc] at h ⊢
  rw [runtime_ask]
  unfold ask
  rw [print_limited_of_over hn h]
  exact ⟨_, rfl, rfl⟩

theorem written_tell (hc : c.NeverFails) (value : Int32) :
    (Runtime.tell value c).2.written = c.written ++ Text.encode (resultLine value) := by
  rw [tell_of_neverFails hc]
  rfl

/-- A result that fits is told as without a limit. -/
theorem tell_limited_of_fits (hc : c.NeverFails) (value : Int32)
    (h : (Runtime.tell value c).2.written.length ≤ n) :
    Runtime.tell value (c.limited n) =
      ((Runtime.tell value c).1, (Runtime.tell value c).2.limited n) := by
  rw [written_tell hc] at h
  rw [runtime_tell, runtime_tell]
  unfold tell
  rw [print_limited_of_fits h, print_of_neverFails hc]
  rfl

/-- Telling a result that does not fit fails. -/
theorem tell_limited_of_over (hc : c.NeverFails) (hn : c.written.length ≤ n) (value : Int32)
    (h : n < (Runtime.tell value c).2.written.length) :
    ∃ d, Runtime.tell value (c.limited n) = (.error (.console .outputFull), d) ∧
      d.written = (Runtime.tell value c).2.written.take n := by
  rw [written_tell hc] at h ⊢
  rw [runtime_tell]
  unfold tell
  rw [print_limited_of_over hn h]
  exact ⟨_, rfl, rfl⟩

end Console

/-! ## §2. In step or cut short. -/

namespace Session

/-- The session on an output with room for `n` bytes in all. -/
def limited (n : Nat) (s : Session Console) : Session Console :=
  { s with console := s.console.limited n }

/-- How a use of a session that comes to the first goes with room for `n` bytes: in step if
all that is written fits, and else it fails, with the start of the output. -/
inductive CutAt (n : Nat) {α : Type} :
    Except RuntimeError α × Session Console → Except RuntimeError α × Session Console → Prop where
  | inStep {result : Except RuntimeError α} {s : Session Console}
      (fits : s.console.written.length ≤ n) : CutAt n (result, s) (result, s.limited n)
  | short {result : Except RuntimeError α} {s t : Session Console}
      (exceeds : n < s.console.written.length)
      (start : t.console.written = s.console.written.take n) :
      CutAt n (result, s) (.error (.console .outputFull), t)

variable {n : Nat} {s : Session Console}

/-- What is cut short stays so, whatever the use without a limit goes on to write. -/
theorem CutAt.short_of_append {α : Type} {full : Except RuntimeError α × Session Console}
    {t : Session Console} {written : List UInt8} (exceeds : n < written.length)
    (start : t.console.written = written.take n)
    (h : ∃ more, full.2.console.written = written ++ more) :
    CutAt n full (.error (.console .outputFull), t) := by
  obtain ⟨more, hfull⟩ := h
  obtain ⟨result, s⟩ := full
  refine .short ?_ ?_
  · rw [hfull, List.length_append]
    omega
  · rw [hfull, List.take_append_of_le_length (Nat.le_of_lt exceeds)]
    exact start

/-- Asking only adds to the output. -/
theorem exists_written_askAll (hs : s.console.NeverFails) (declared : List Declaration) :
    ∃ more, (s.askAll declared).2.console.written = s.console.written ++ more := by
  rw [askAll_eq]
  dsimp only
  rw [Console.afterAsking_of_neverFails hs]
  exact ⟨_, rfl⟩

/-- Asking for the variables goes in step or is cut short. -/
theorem askAll_limited (declared : List Declaration) (hs : s.console.NeverFails)
    (hn : s.console.written.length ≤ n) :
    CutAt n (s.askAll declared) ((s.limited n).askAll declared) := by
  induction declared generalizing s with
  | nil => exact .inStep hn
  | cons d later ih =>
    have hfits := Console.ask_limited_of_fits (n := n) hs d.name
    have hover := Console.ask_limited_of_over hs hn d.name
    have hused := Console.ask_of_neverFails hs d.name
    rcases hask : Runtime.ask d.name s.console with ⟨outcome, c⟩
    rw [hask] at hfits hover hused
    have hc : c.NeverFails := by
      rw [(Prod.mk.inj hused).2]
      exact hs.used _ _
    by_cases hw : c.written.length ≤ n
    · -- the prompt fits, so the same line is read
      have hlimited : Runtime.ask d.name (s.limited n).console = (outcome, c.limited n) := hfits hw
      cases outcome with
      | error error =>
        rw [askAll_of_ask_error hask, askAll_of_ask_error hlimited]
        exact .inStep hw
      | ok value =>
        rw [askAll_of_ask_ok hask, askAll_of_ask_ok hlimited]
        exact ih (s := ⟨s.bindings.set d.name value, c⟩) hc hw
    · -- the prompt is cut off, and without the limit there is only more behind it
      have hmore : ∃ more, (s.askAll (d :: later)).2.console.written = c.written ++ more := by
        cases outcome with
        | error error =>
          rw [askAll_of_ask_error hask]
          exact ⟨[], (List.append_nil _).symm⟩
        | ok value =>
          rw [askAll_of_ask_ok hask]
          exact exists_written_askAll (s := ⟨s.bindings.set d.name value, c⟩) hc later
      obtain ⟨e, hlimited, hstart⟩ := hover (Nat.lt_of_not_le hw)
      have hlimited' : Runtime.ask d.name (s.limited n).console =
          (.error (.console .outputFull), e) := hlimited
      rw [askAll_of_ask_error hlimited']
      exact .short_of_append (Nat.lt_of_not_le hw) hstart hmore

/-! ## §3. Runs. -/

/-- An evaluation goes in step or is cut short. -/
theorem evaluate_limited (p : Program) (hs : s.console.NeverFails)
    (hn : s.console.written.length ≤ n) :
    CutAt n (s.evaluate p) ((s.limited n).evaluate p) := by
  have hcut := askAll_limited p.declared hs hn
  generalize hfull : s.askAll p.declared = full at hcut
  generalize hlimited : (s.limited n).askAll p.declared = limited at hcut
  cases hcut with
  | @inStep result t fits =>
    cases result with
    | error error =>
      rw [evaluate_of_askAll_error hfull, evaluate_of_askAll_error hlimited]
      exact .inStep fits
    | ok u =>
      rw [evaluate_of_askAll_ok hfull, evaluate_of_askAll_ok hlimited]
      exact .inStep fits
  | @short result t u exceeds start =>
    rw [evaluate_of_askAll_error hlimited]
    refine .short_of_append exceeds start ⟨[], ?_⟩
    rw [snd_evaluate, hfull, List.append_nil]

/-- A run goes in step or is cut short. -/
theorem run_limited (p : Program) (hs : s.console.NeverFails)
    (hn : s.console.written.length ≤ n) : CutAt n (s.run p) ((s.limited n).run p) := by
  have hcut := evaluate_limited p hs hn
  have hrun := run_of_neverFails hs p
  have hafter : (s.evaluate p).2.console.NeverFails := by
    rw [console_evaluate hs p]
    exact hs.used _ _
  generalize hfull : s.evaluate p = full at hcut hrun hafter
  generalize hlimited : (s.limited n).evaluate p = limited at hcut
  cases hcut with
  | @short result t u exceeds start =>
    -- without a limit the result is told behind the cut
    rw [run_of_evaluate_error hlimited]
    exact .short_of_append exceeds start ⟨resultBytes result, by rw [hrun]⟩
  | @inStep result t fits =>
    cases result with
    | error error =>
      rw [run_of_evaluate_error hfull, run_of_evaluate_error hlimited]
      exact .inStep fits
    | ok value =>
      have hfits := Console.tell_limited_of_fits (n := n) hafter value
      have hover := Console.tell_limited_of_over hafter fits value
      have htold := Console.tell_of_neverFails hafter value
      rw [run_of_evaluate_ok hfull, run_of_evaluate_ok hlimited]
      generalize Runtime.tell value t.console = told at hfits hover htold ⊢
      subst htold
      dsimp only at hfits hover ⊢
      by_cases hw : (t.console.written ++ resultBytes (.ok value)).length ≤ n
      · have htell : Runtime.tell value (t.limited n).console = _ := hfits hw
        rw [htell]
        exact .inStep hw
      · obtain ⟨d, htell, hstart⟩ := hover (Nat.lt_of_not_le hw)
        have htell' : Runtime.tell value (t.limited n).console =
            (.error (.console .outputFull), d) := htell
        rw [htell']
        exact .short (Nat.lt_of_not_le hw) hstart

end Session

/-- **A FULL OUTPUT CUTS A RUN SHORT BUT NEVER ALTERS IT.**  Run a program with the same
values and the same input twice, on an output without a limit and on one that takes `n`
bytes.  The limited output is the start of the other one.  If all of that fits, the two runs
have the same value or error and leave the same values and the same input; if not, the
limited run fails because its output is full, whatever comes of the other. -/
theorem full_output_cuts_run (p : Program) (b : Bindings) (input : List UInt8) (n : Nat) :
    let full := Session.run p ⟨b, Console.mk input [] none false⟩
    let cut := Session.run p ⟨b, Console.mk input [] (some n) false⟩
    let size := full.2.console.written.length
    cut.2.console.written = full.2.console.written.take (min n size) ∧
      (size ≤ n → cut.1 = full.1 ∧ cut.2.bindings = full.2.bindings ∧
        cut.2.console.unread = full.2.console.unread) ∧
      (n < size → cut.1 = .error (.console .outputFull)) := by
  dsimp only
  have hnever : (Session.mk b (Console.mk input [] none false)).console.NeverFails := ⟨rfl, rfl⟩
  have hcut : Session.CutAt n (Session.run p ⟨b, Console.mk input [] none false⟩)
      (Session.run p ⟨b, Console.mk input [] (some n) false⟩) :=
    Session.run_limited p hnever (Nat.zero_le n)
  generalize Session.run p ⟨b, Console.mk input [] none false⟩ = full at hcut
  generalize Session.run p ⟨b, Console.mk input [] (some n) false⟩ = cut at hcut
  cases hcut with
  | @inStep result t fits =>
    refine ⟨?_, fun _ => ⟨rfl, rfl, rfl⟩, ?_⟩
    · rw [Nat.min_eq_right fits, List.take_length]
      rfl
    · intro hover
      exact absurd fits (Nat.not_le_of_lt hover)
  | @short result t u exceeds start =>
    refine ⟨?_, ?_, fun _ => rfl⟩
    · rw [Nat.min_eq_left (Nat.le_of_lt exceeds)]
      exact start
    · intro hfits
      exact absurd hfits (Nat.not_le_of_lt exceeds)

/-- The first prompt and two bytes of the second fit: the value of `b` is not read, and it
does not matter that there is none. -/
example :
    let p : Program := .declaring ⟨0, 4⟩ [⟨"a", ⟨5, 1⟩⟩, ⟨"b", ⟨8, 1⟩⟩] (.reference "a" ⟨11, 1⟩)
    let cut := Session.run p ⟨.empty, Console.mk (Text.encode "7\nx\n") [] (some 23) false⟩
    cut.2.console.written = Text.encode "Enter a value for a: En" ∧
      cut.2.console.unread = Text.encode "x\n" := by
  decide +kernel

end Calculator
