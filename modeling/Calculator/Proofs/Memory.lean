/-
  Calculator.Proofs.Memory
  ────────────────────────
  **WHAT A SESSION REMEMBERS.**

  The values of a session are those that were given to it: a variable has the value that was
  given to it last, in whatever call that was, and it has none if it was given none.  A
  call that fails changes this in no way.  The values that it was given before it failed
  stay, and nothing else is changed, whether asking, the arithmetic or the output failed.
  All this holds on any runtime, so whatever fails at one use may succeed at the next.

  The step is one call: it keeps the answers that it gets (`bindings_call`).  Over a
  session they add up to its history, and the latest value in it is the one that counts.
  A runtime that takes down what it answers has this history in the end.

  Main statements:
    * `callAll_recording`          — the history is what is taken down;
    * `bindings_callAll`           — the bindings after any number of calls are made of the
      history;
    * `bindings_are_latest_values` — so they are the latest values, also when a call fails
      half-way.
-/
import Calculator.Proofs.Asking

namespace Calculator

/-! ## §1. Latest values. -/

/-- Of the values that the answers give to `name`, `value` is the last. -/
def IsLatest (name : String) (value : Int32) (answers : List Answer) : Prop :=
  ∃ before after, answers = before ++ ⟨name, .ok value⟩ :: after ∧
    ∀ other, (⟨name, .ok other⟩ : Answer) ∉ after

theorem latest?_eq_some_iff {name : String} {value : Int32} {answers : List Answer} :
    latest? name answers = some value ↔ IsLatest name value answers := by
  unfold latest?
  rw [List.findSome?_eq_some_iff]
  constructor
  · rintro ⟨after, a, before, hsplit, ha, hafter⟩
    rw [Answer.valueFor?_eq_some_iff] at ha
    refine ⟨before.reverse, after.reverse, ?_, ?_⟩
    · rw [← List.reverse_reverse answers, hsplit, ha]
      simp
    · intro other hmem
      have hnone := hafter _ (List.mem_reverse.1 hmem)
      rw [Answer.valueFor?_eq_some_iff.2 rfl] at hnone
      cases hnone
  · rintro ⟨before, after, rfl, hafter⟩
    refine ⟨after.reverse, ⟨name, .ok value⟩, before.reverse, by simp,
      Answer.valueFor?_eq_some_iff.2 rfl, ?_⟩
    intro a hmem
    cases h : a.valueFor? name with
    | none => rfl
    | some other =>
      rw [Answer.valueFor?_eq_some_iff.1 h] at hmem
      exact absurd (List.mem_reverse.1 hmem) (hafter other)

/-- A variable has a latest value as soon as it was given one at all. -/
theorem isSome_latest?_iff {name : String} {answers : List Answer} :
    (latest? name answers).isSome = true ↔
      ∃ value, (⟨name, .ok value⟩ : Answer) ∈ answers := by
  unfold latest?
  rw [List.isSome_findSome?, List.any_reverse, List.any_eq_true]
  constructor
  · rintro ⟨a, hmem, ha⟩
    obtain ⟨value, hvalue⟩ := Option.isSome_iff_exists.1 ha
    rw [Answer.valueFor?_eq_some_iff.1 hvalue] at hmem
    exact ⟨value, hmem⟩
  · rintro ⟨value, hmem⟩
    refine ⟨_, hmem, ?_⟩
    rw [Answer.valueFor?_eq_some_iff.2 rfl]
    rfl

/-! ## §2. One call. -/

namespace Session

variable {σ : Type} [Runtime σ]

/-- Telling the result changes no value. -/
theorem bindings_run (p : Program) (s : Session σ) :
    (s.run p).2.bindings = (s.evaluate p).2.bindings := by
  rcases h : s.evaluate p with ⟨error | value, t⟩
  · rw [run_of_evaluate_error h]
  · rw [run_of_evaluate_ok h]

/-- Of all that a call does, only asking for the variables changes values. -/
theorem bindings_call (c : Call) (s : Session σ) :
    (s.call c).2.bindings = (s.askAll c.program.declared).2.bindings := by
  cases c with
  | run p => exact (bindings_run p s).trans (congrArg bindings (snd_evaluate p s))
  | evaluate p => exact congrArg bindings (snd_evaluate p s)

/-- Asking for more variables does the same as asking for the first ones and, if these all
get a value, for the others. -/
theorem askAll_append (before after : List Declaration) (s : Session σ) :
    s.askAll (before ++ after) =
      match s.askAll before with
      | (.error error, t) => (.error error, t)
      | (.ok (), t) => t.askAll after := by
  induction before generalizing s with
  | nil => rfl
  | cons d before ih =>
    rw [List.cons_append, askAll, askAll]
    rcases Runtime.ask d.name s.console with ⟨error | value, console⟩
    · rfl
    · exact ih _

/-- Where a variable gets no value, the variables in front of it have theirs, and a call
leaves it at that. -/
theorem call_of_ask_error {c : Call} {s t : Session σ} {before after : List Declaration}
    {d : Declaration} {error : RuntimeError} {console : σ}
    (hdeclared : c.program.declared = before ++ d :: after)
    (hbefore : s.askAll before = (.ok (), t))
    (hask : Runtime.ask d.name t.console = (.error error, console)) :
    s.call c = (.error error, { t with console }) := by
  have hall : s.askAll c.program.declared = (.error error, { t with console }) := by
    rw [hdeclared, askAll_append, hbefore]
    dsimp only
    rw [askAll, hask]
  cases c with
  | run p => exact run_of_evaluate_error (evaluate_of_askAll_error hall)
  | evaluate p => exact evaluate_of_askAll_error hall

/-! ## §3. Whole sessions. -/

/-- The answers that the calls get, one after the other. -/
def history : List Call → Session σ → List Answer
  | [], _ => []
  | c :: later, s =>
    Runtime.answers (c.program.declared.map Declaration.name) s.console ++
      history later (s.call c).2

/-- The bindings after some calls are made of their history. -/
theorem bindings_callAll {calls : List Call} {s : Session σ} {i : Nat}
    {r : Except RuntimeError Int32 × Session σ} (h : (s.callAll calls)[i]? = some r) :
    r.2.bindings = s.bindings.keep (s.history (calls.take (i + 1))) := by
  induction calls generalizing s i with
  | nil => cases h
  | cons c later ih =>
    have hcall : (s.call c).2.bindings =
        s.bindings.keep (Runtime.answers (c.program.declared.map Declaration.name) s.console) := by
      rw [bindings_call, askAll_eq]
    rw [List.take_succ_cons, history, Bindings.keep_append, ← hcall]
    cases i with
    | zero =>
      cases h
      rfl
    | succ i => exact ih h

theorem length_callAll (calls : List Call) (s : Session σ) :
    (s.callAll calls).length = calls.length := by
  induction calls generalizing s with
  | nil => rfl
  | cons c later ih => exact congrArg (· + 1) (ih _)

end Session

/-! ## §4. Records. -/

/-- A runtime that takes down what it is asked for and what it answers. -/
structure Recorded (σ : Type) where
  state : σ
  log : List Answer

instance {σ : Type} [Runtime σ] : Runtime (Recorded σ) where
  ask name r :=
    ((Runtime.ask name r.state).1,
      ⟨(Runtime.ask name r.state).2, r.log ++ [⟨name, (Runtime.ask name r.state).1⟩]⟩)
  tell value r :=
    ((Runtime.tell value r.state).1, { r with state := (Runtime.tell value r.state).2 })

namespace Session

variable {σ : Type} [Runtime σ]

/-- The session with what has been taken down. -/
def recording (log : List Answer) (s : Session σ) : Session (Recorded σ) :=
  ⟨s.bindings, ⟨s.console, log⟩⟩

/-- Asking takes down its answers, and else nothing is different. -/
theorem askAll_recording (declared : List Declaration) (s : Session σ) (log : List Answer) :
    (s.recording log).askAll declared = ((s.askAll declared).1,
      (s.askAll declared).2.recording
        (log ++ Runtime.answers (declared.map Declaration.name) s.console)) := by
  induction declared generalizing s log with
  | nil => rw [askAll, askAll, List.map_nil, Runtime.answers, List.append_nil]
  | cons d later ih =>
    have hask : Runtime.ask d.name (s.recording log).console =
        ((Runtime.ask d.name s.console).1, ⟨(Runtime.ask d.name s.console).2,
          log ++ [⟨d.name, (Runtime.ask d.name s.console).1⟩]⟩) := rfl
    rcases h : Runtime.ask d.name s.console with ⟨error | value, console⟩
    · rw [h] at hask
      rw [askAll_of_ask_error hask, askAll_of_ask_error h, List.map_cons,
        Runtime.answers_of_error h]
      rfl
    · rw [h] at hask
      have hlater := ih ⟨s.bindings.set d.name value, console⟩ (log ++ [⟨d.name, .ok value⟩])
      rw [List.append_assoc] at hlater
      rw [askAll_of_ask_ok hask, askAll_of_ask_ok h, List.map_cons, Runtime.answers_of_ok h]
      exact hlater

theorem evaluate_recording (p : Program) (s : Session σ) (log : List Answer) :
    (s.recording log).evaluate p = ((s.evaluate p).1, (s.evaluate p).2.recording
      (log ++ Runtime.answers (p.declared.map Declaration.name) s.console)) := by
  have hasked := askAll_recording p.declared s log
  rcases h : s.askAll p.declared with ⟨error | u, t⟩
  · rw [h] at hasked
    rw [evaluate_of_askAll_error hasked, evaluate_of_askAll_error h]
  · rw [h] at hasked
    rw [evaluate_of_askAll_ok hasked, evaluate_of_askAll_ok h]
    rfl

/-- A call takes down what its program's variables are answered with, telling the result does
not. -/
theorem call_recording (c : Call) (s : Session σ) (log : List Answer) :
    (s.recording log).call c = ((s.call c).1, (s.call c).2.recording
      (log ++ Runtime.answers (c.program.declared.map Declaration.name) s.console)) := by
  cases c with
  | evaluate p => exact evaluate_recording p s log
  | run p =>
    have hevaluated := evaluate_recording p s log
    show (s.recording log).run p = ((s.run p).1, (s.run p).2.recording _)
    rcases h : s.evaluate p with ⟨error | value, t⟩
    · rw [h] at hevaluated
      rw [run_of_evaluate_error hevaluated, run_of_evaluate_error h]
      rfl
    · rw [h] at hevaluated
      rw [run_of_evaluate_ok hevaluated, run_of_evaluate_ok h]
      rfl

/-- The history of some calls is what is taken down in them. -/
theorem callAll_recording {calls : List Call} {s : Session σ} {i : Nat}
    {r : Except RuntimeError Int32 × Session σ} (h : (s.callAll calls)[i]? = some r)
    (log : List Answer) :
    ((s.recording log).callAll calls)[i]? =
      some (r.1, r.2.recording (log ++ s.history (calls.take (i + 1)))) := by
  induction calls generalizing s i log with
  | nil => cases h
  | cons c later ih =>
    rw [callAll, call_recording, List.take_succ_cons, history, ← List.append_assoc]
    cases i with
    | zero =>
      cases h
      rw [List.take_zero, history, List.append_nil]
      rfl
    | succ i => exact ih h _

end Session

/-- **A SESSION REMEMBERS THE LATEST VALUES.**  On any runtime, whatever fails on it and
whenever, take down what is answered in a session that starts without values.  After each call
this is the history of the calls; a variable has a value exactly if it was given one in the
history, and then it is the latest.  Where a variable of a program gets no value, the call fails
with the reason, the variables in front of it have the values that they were just given, and all
others are as they were before.  Whatever else a call does changes no value. -/
theorem bindings_are_latest_values {σ : Type} [Runtime σ] (console : σ)
    (calls : List Session.Call) :
    (∀ i, i < calls.length → ∃ result t,
        ((Session.ofConsole console).callAll calls)[i]? = some (result, t) ∧
          (((Session.ofConsole console).recording []).callAll calls)[i]? = some (result,
            t.recording ((Session.ofConsole console).history (calls.take (i + 1)))) ∧
          ∀ name,
            (∀ value, t.bindings.get? name = some value ↔
              IsLatest name value ((Session.ofConsole console).history (calls.take (i + 1)))) ∧
            ((t.bindings.get? name).isSome = true ↔ ∃ value, (⟨name, .ok value⟩ : Answer) ∈
              (Session.ofConsole console).history (calls.take (i + 1)))) ∧
      (∀ (c : Session.Call) (s t : Session σ) (before after : List Declaration) (d : Declaration)
          (error : RuntimeError), c.program.declared = before ++ d :: after →
        s.askAll before = (.ok (), t) → (Runtime.ask d.name t.console).1 = .error error →
          (s.call c).1 = .error error ∧
            (∀ name ∈ before.map Declaration.name, ∃ value,
              IsLatest name value (Runtime.answers (before.map Declaration.name) s.console) ∧
                (s.call c).2.bindings.get? name = some value) ∧
            ∀ name, name ∉ before.map Declaration.name →
              (s.call c).2.bindings.get? name = s.bindings.get? name) ∧
      ∀ (c : Session.Call) (s : Session σ),
        (s.call c).2.bindings = (s.askAll c.program.declared).2.bindings := by
  refine ⟨?calls, ?asking, fun c s => Session.bindings_call c s⟩
  case calls =>
    intro i hi
    rw [← Session.length_callAll calls (Session.ofConsole console)] at hi
    obtain ⟨⟨result, t⟩, hget⟩ : ∃ r, ((Session.ofConsole console).callAll calls)[i]? = some r :=
      ⟨_, List.getElem?_eq_getElem hi⟩
    refine ⟨result, t, hget, Session.callAll_recording hget [], ?_⟩
    intro name
    -- at the start there were no values, so it is the history that gives one
    have hvalue : t.bindings.get? name =
        latest? name ((Session.ofConsole console).history (calls.take (i + 1))) := by
      rw [Session.bindings_callAll hget, Bindings.get?_keep]
      exact Option.or_none
    rw [hvalue]
    exact ⟨fun value => latest?_eq_some_iff, isSome_latest?_iff⟩
  case asking =>
    intro c s t before after d error hdeclared hbefore hask
    rw [Session.call_of_ask_error hdeclared hbefore (Prod.ext hask rfl)]
    have hvalue : ∀ name, t.bindings.get? name =
        (latest? name (Runtime.answers (before.map Declaration.name) s.console)).or
          (s.bindings.get? name) := by
      intro name
      rw [← Session.get?_askAll, hbefore]
    refine ⟨rfl, ?_, ?_⟩
    · intro name hname
      obtain ⟨value, hlatest⟩ := Session.exists_latest?_of_askAll hbefore hname
      refine ⟨value, latest?_eq_some_iff.1 hlatest, (hvalue name).trans ?_⟩
      rw [hlatest]
      rfl
    · intro name hname
      refine (hvalue name).trans ?_
      rw [latest?_answers_eq_none hname]
      rfl

/-- Three calls that fail: `with a, b: a / b` divides by 0, which leaves both values.  Then
`with a, b, a: a` gets `7` for `a`, but the prompt for `b` is not passed on, so `b` keeps its
value.  At last `with b: a` gets `8` for it, and has no room for its result. -/
theorem bindings_are_latest_values_partial :
    ∃ (p q r : Program) (console : Console.Shaky) (s : Session Console.Shaky),
      p.render = "(with (a b) (/ a b))" ∧ q.render = "(with (a b a) a)" ∧
        r.render = "(with (b) a)" ∧
        ((Session.ofConsole console).callAll [.run p, .evaluate q, .run r]).map
          (fun done => (done.1.toOption, done.2.bindings.get? "a", done.2.bindings.get? "b")) =
            [(none, some 5, some 0), (none, some 7, some 0), (none, some 7, some 8)] ∧
        IsLatest "a" 7 ((Session.ofConsole console).history [.run p, .evaluate q, .run r]) ∧
        IsLatest "b" 8 ((Session.ofConsole console).history [.run p, .evaluate q, .run r]) ∧
        s.bindings.get? "b" = some 0 ∧ (s.evaluate q).1 = .error (.console .flushFailed) ∧
        (s.evaluate q).2.bindings.get? "b" = some 0 := by
  let division : Expr :=
    .binary .div ⟨13, 1⟩ (.reference "a" ⟨11, 1⟩) (.reference "b" ⟨15, 1⟩) ⟨11, 5⟩
  let p : Program := .declaring ⟨0, 4⟩ [⟨"a", ⟨5, 1⟩⟩, ⟨"b", ⟨8, 1⟩⟩] division
  let q : Program :=
    .declaring ⟨0, 4⟩ [⟨"a", ⟨5, 1⟩⟩, ⟨"b", ⟨8, 1⟩⟩, ⟨"a", ⟨11, 1⟩⟩] (.reference "a" ⟨14, 1⟩)
  let r : Program := .declaring ⟨0, 4⟩ [⟨"b", ⟨5, 1⟩⟩] (.reference "a" ⟨8, 1⟩)
  let console : Console.Shaky := ⟨.ofInput [53, 10, 48, 10, 55, 10, 56, 10],
    [(none, false), (none, false), (none, false), (none, true), (none, false), (some 0, false)]⟩
  have hvalues : ((Session.ofConsole console).callAll [.run p, .evaluate q, .run r]).map
      (fun done => (done.1.toOption, done.2.bindings.get? "a", done.2.bindings.get? "b")) =
        [(none, some 5, some 0), (none, some 7, some 0), (none, some 7, some 8)] := by
    decide +kernel
  obtain ⟨hcalls, hpartial, -⟩ :=
    bindings_are_latest_values console [.run p, .evaluate q, .run r]
  obtain ⟨result, t, hget, -, hlatest⟩ := hcalls 2 (by decide)
  rw [List.take_of_length_le (Nat.le_refl 3)] at hlatest
  have hlast : some (result.toOption, t.bindings.get? "a", t.bindings.get? "b") =
      some (none, some 7, some 8) := by
    have hthird := congrArg (fun values => values[2]?) hvalues
    rwa [List.getElem?_map, hget] at hthird
  obtain ⟨-, ha, hb⟩ : result.toOption = none ∧ t.bindings.get? "a" = some 7 ∧
      t.bindings.get? "b" = some 8 := by simpa using hlast
  obtain ⟨herror, -, hrest⟩ := hpartial (.evaluate q)
    ⟨Bindings.empty.set "b" 0, ⟨.ofInput [55, 10, 56, 10], [(none, false), (none, true)]⟩⟩ _
    [⟨"a", ⟨5, 1⟩⟩] [⟨"a", ⟨11, 1⟩⟩] ⟨"b", ⟨8, 1⟩⟩ (.console .flushFailed) rfl rfl rfl
  refine ⟨p, q, r, console,
    ⟨Bindings.empty.set "b" 0, ⟨.ofInput [55, 10, 56, 10], [(none, false), (none, true)]⟩⟩,
    by decide +kernel, by decide +kernel, by decide +kernel, hvalues, ?_, ?_, by decide, herror,
    hrest "b" (by decide)⟩
  · exact ((hlatest "a").1 7).1 ha
  · exact ((hlatest "b").1 8).1 hb

end Calculator
