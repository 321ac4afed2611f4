/-
  Calculator.Proofs.Intake
  ────────────────────────
  **READING TAKES EACH TOKEN ONCE, AND NONE BEHIND THE ONE AHEAD.**

  A reader does the same to tokens that go on differently behind the one at which it ends
  (`Reads.elsewhere`, `ReadsUnit.elsewhere`): it looks at the token ahead and never behind it.
  So a source whose program ends in front of a token may go on behind that token as it likes.

  Main statement: `tokens_are_taken_once`.
-/
import Calculator.Log
import Calculator.Proofs.Course
import Calculator.Proofs.Descent

namespace Calculator

variable {size : Nat}

/-! ## §1. What is behind the token ahead. -/

/-- In front of tokens that start alike the same token is ahead. -/
theorem lookAhead_append {rest rest' : List Token} (size' : Nat) (us : List Token)
    (hne : rest ≠ []) (h : rest'.head? = rest.head?) :
    lookAhead size' (us ++ rest') = lookAhead size (us ++ rest) := by
  obtain ⟨t, behind, rfl⟩ := List.exists_cons_of_ne_nil hne
  obtain ⟨behind', rfl⟩ := List.head?_eq_some_iff.1 h
  cases us with
  | nil => rfl
  | cons u us => rfl

theorem lookAhead_of_head? {rest rest' : List Token} (size' : Nat) (hne : rest ≠ [])
    (h : rest'.head? = rest.head?) : lookAhead size' rest' = lookAhead size rest :=
  lookAhead_append size' [] hne h

theorem head?_append_of_head? {rest rest' : List Token} (us : List Token)
    (h : rest'.head? = rest.head?) : (us ++ rest').head? = (us ++ rest).head? := by
  rw [List.head?_append, List.head?_append, h]

/-- Which tokens are left out does not depend on what is behind the one at which reading
resumes. -/
theorem skipUntil_elsewhere {resumes : TokenKind → Bool} {n : Nat} {ts rest : List Token}
    (hr : (skipUntil size resumes n ts).rest = rest) (hne : rest ≠ []) :
    ∃ us, ts = us ++ rest ∧ ∀ (size' : Nat) (rest' : List Token), rest'.head? = rest.head? →
      (skipUntil size' resumes n (us ++ rest')).rest = rest' ∧
        (skipUntil size' resumes n (us ++ rest')).journal.events =
          (skipUntil size resumes n ts).journal.events := by
  induction ts generalizing n with
  | nil => exact absurd hr.symm hne
  | cons t ts ih =>
    cases hk : resumes t.kind with
    | true =>
      obtain ⟨hrest, hevents⟩ := skipUntil_of_resumes hk size n ts
      refine ⟨[], hrest.symm.trans hr, ?_⟩
      intro size' rest' h
      rw [← hr, hrest, List.head?_cons] at h
      obtain ⟨behind, rfl⟩ := List.head?_eq_some_iff.1 h
      rw [hevents]
      exact skipUntil_of_resumes hk size' n behind
    | false =>
      obtain ⟨hrest, hevents⟩ := skipUntil_of_passes hk size n ts
      obtain ⟨us, rfl, hsame⟩ := ih (hrest.symm.trans hr)
      refine ⟨t :: us, rfl, ?_⟩
      intro size' rest' h
      obtain ⟨hrest', hevents'⟩ := skipUntil_of_passes hk size' n (us ++ rest')
      obtain ⟨hout, hlater⟩ := hsame size' rest' h
      rw [List.cons_append, hrest', hevents', hevents, lookAhead_append size' us hne h, hlater]
      exact ⟨hout, rfl⟩

/-- Nor does what recovery leaves out.  The token ahead of it is the same too, since recovery
ends in front of a token. -/
theorem recover_elsewhere {error : SyntaxError} {ts rest : List Token}
    (hr : (recover size error ts).rest = rest) (hne : rest ≠ []) :
    ts ≠ [] ∧ ∃ us, ts = us ++ rest ∧
      ∀ (size' : Nat) (rest' : List Token), rest'.head? = rest.head? →
        (us ++ rest').head? = ts.head? ∧ (recover size' error (us ++ rest')).rest = rest' ∧
          (recover size' error (us ++ rest')).journal.events =
            (recover size error ts).journal.events := by
  obtain ⟨us, rfl, hsame⟩ := skipUntil_elsewhere hr hne
  refine ⟨List.append_ne_nil_of_right_ne_nil us hne, us, rfl, ?_⟩
  intro size' rest' h
  obtain ⟨hrest, hevents⟩ := hsame size' rest' h
  refine ⟨head?_append_of_head? us h, hrest, ?_⟩
  show .found error :: (skipUntil size' _ 0 (us ++ rest')).journal.events = _
  rw [hevents]
  rfl

/-- A reader does the same to tokens that go on differently behind the token ahead. -/
theorem Reads.elsewhere {reader : Reader} {ts rest : List Token} {e : Expr} {events : List Event}
    (h : Reads size reader ts e rest events) (hne : rest ≠ []) :
    ∃ us, ts = us ++ rest ∧ ∀ (size' : Nat) (rest' : List Token), rest'.head? = rest.head? →
      Reads size' reader (us ++ rest') e rest' events := by
  -- each part leaves the tokens of the next one, so the cut is made from the last part on
  induction h with
  | sumOperand _ ih =>
    obtain ⟨us, rfl, hsame⟩ := ih hne
    exact ⟨us, rfl, fun size' rest' h => .sumOperand (hsame size' rest' h)⟩
  | productOperand _ ih =>
    obtain ⟨us, rfl, hsame⟩ := ih hne
    exact ⟨us, rfl, fun size' rest' h => .productOperand (hsame size' rest' h)⟩
  | chain _ _ ihf ihm =>
    obtain ⟨vs, rfl, hmore⟩ := ihm hne
    obtain ⟨us, rfl, hfirst⟩ := ihf (by simp [hne])
    refine ⟨us ++ vs, (List.append_assoc us vs _).symm, ?_⟩
    intro size' rest' h
    rw [List.append_assoc]
    exact .chain (hfirst size' _ (head?_append_of_head? vs h)) (hmore size' rest' h)
  | @stop layer left ts hends =>
    refine ⟨[], rfl, ?_⟩
    intro size' rest' h
    rw [← lookAhead_of_head? size' hne h] at hends
    exact .stop hends
  | @extend layer left right e t op ts mid rest before after hop _ _ ihr ihm =>
    obtain ⟨vs, rfl, hmore⟩ := ihm hne
    obtain ⟨us, rfl, hright⟩ := ihr (by simp [hne])
    refine ⟨t :: (us ++ vs), by simp, ?_⟩
    intro size' rest' h
    have hmid := head?_append_of_head? vs h
    have hextend := Reads.extend hop (hright size' _ hmid) (hmore size' rest' h)
    rw [lookAhead_append size' us (by simp [hne]) hmid] at hextend
    rwa [List.cons_append, List.append_assoc]
  | @literal t ts value hk hv =>
    refine ⟨[t], rfl, ?_⟩
    intro size' rest' h
    rw [← lookAhead_of_head? size' hne h]
    exact .literal hk hv
  | @outOfRange t ts hk hv =>
    obtain ⟨hts, us, hus, hsame⟩ := recover_elsewhere rfl hne
    refine ⟨t :: us, congrArg (t :: ·) hus, ?_⟩
    intro size' rest' h
    obtain ⟨hhead, hrest, hevents⟩ := hsame size' rest' h
    have hread : Reads size' .factor (t :: (us ++ rest')) .missing _ _ := .outOfRange hk hv
    rwa [hrest, hevents, lookAhead_of_head? size' hts hhead] at hread
  | @reference t ts hk =>
    refine ⟨[t], rfl, ?_⟩
    intro size' rest' h
    rw [← lookAhead_of_head? size' hne h]
    exact .reference hk
  | @group opening closing ts rest inner events hk _ hc ih =>
    obtain ⟨us, rfl, hsum⟩ := ih (List.cons_ne_nil _ _)
    refine ⟨opening :: (us ++ [closing]), by simp, ?_⟩
    intro size' rest' h
    have hgroup := Reads.group hk (hsum size' (closing :: rest') rfl) hc
    have hahead :
        lookAhead size' (us ++ closing :: rest') = lookAhead size (us ++ closing :: rest) :=
      lookAhead_append size' us (List.cons_ne_nil _ _) rfl
    rw [hahead, lookAhead_of_head? size' hne h] at hgroup
    simpa using hgroup
  | @unclosed opening ts mid inner events hk _ hc ih =>
    obtain ⟨hmid, vs, hvs, hsame⟩ := recover_elsewhere rfl hne
    obtain ⟨us, rfl, hsum⟩ := ih hmid
    refine ⟨opening :: (us ++ vs), ?_, ?_⟩
    · rw [List.cons_append, List.append_assoc, ← hvs]
    · intro size' rest' h
      obtain ⟨hhead, hrest, hevents⟩ := hsame size' rest' h
      have hmark : lookAhead size' (vs ++ rest') = lookAhead size mid :=
        lookAhead_of_head? size' hmid hhead
      have hread := Reads.unclosed hk (hsum size' _ hhead) (by rwa [hmark])
      rw [lookAhead_append size' us hmid hhead, hmark, hrest, hevents] at hread
      rwa [List.cons_append, List.append_assoc]
  | @unexpected ts hk =>
    obtain ⟨hts, us, hus, hsame⟩ := recover_elsewhere rfl hne
    refine ⟨us, hus, ?_⟩
    intro size' rest' h
    obtain ⟨hhead, hrest, hevents⟩ := hsame size' rest' h
    have hahead : lookAhead size' (us ++ rest') = lookAhead size ts :=
      lookAhead_of_head? size' hts hhead
    have hread : Reads size' .factor (us ++ rest') .missing _ _ := .unexpected (by rwa [hahead])
    rwa [hahead, hrest, hevents] at hread

theorem ReadsHeader.elsewhere {ts rest : List Token}
    {value : Except SyntaxError (List Declaration)} {events : List Event}
    (h : ReadsHeader size ts value rest events) (hne : rest ≠ []) :
    ∃ us, ts = us ++ rest ∧ ∀ (size' : Nat) (rest' : List Token), rest'.head? = rest.head? →
      ReadsHeader size' (us ++ rest') value rest' events := by
  induction h with
  | @last name mark ts hn hc =>
    refine ⟨[name, mark], rfl, ?_⟩
    intro size' rest' h
    rw [← lookAhead_of_head? size' hne h]
    exact .last hn hc
  | @more name mark ts rest value events hn hm _ ih =>
    obtain ⟨us, rfl, hsame⟩ := ih hne
    refine ⟨name :: mark :: us, rfl, ?_⟩
    intro size' rest' h
    rw [← lookAhead_append size' us hne h]
    exact .more hn hm (hsame size' rest' h)
  | @noName ts hn =>
    refine ⟨[], rfl, ?_⟩
    intro size' rest' h
    rw [← lookAhead_of_head? size' hne h] at hn ⊢
    exact .noName hn
  | @noMark name ts hn hm hc =>
    refine ⟨[name], rfl, ?_⟩
    intro size' rest' h
    rw [← lookAhead_of_head? size' hne h] at hm hc ⊢
    exact .noMark hn hm hc

/-- A program is read in the same way of tokens that go on differently behind the one at which
it ends. -/
theorem ReadsUnit.elsewhere {ts rest : List Token} {program : Option Program}
    {events : List Event} (h : ReadsUnit size ts program rest events) (hne : rest ≠ []) :
    ∃ us, ts = us ++ rest ∧ ∀ (size' : Nat) (rest' : List Token), rest'.head? = rest.head? →
      ReadsUnit size' (us ++ rest') program rest' events := by
  cases h with
  | bare hw hs =>
    obtain ⟨us, rfl, hsame⟩ := hs.elsewhere hne
    refine ⟨us, rfl, ?_⟩
    intro size' rest' h
    rw [← lookAhead_append size' us hne h] at hw
    exact .bare hw (hsame size' rest' h)
  | @declaring opening ts mid rest declared body before after hw hh hs =>
    obtain ⟨vs, rfl, hsum⟩ := hs.elsewhere hne
    have hmid : vs ++ rest ≠ [] := List.append_ne_nil_of_right_ne_nil vs hne
    obtain ⟨us, rfl, hheader⟩ := hh.elsewhere hmid
    refine ⟨opening :: (us ++ vs), by simp, ?_⟩
    intro size' rest' h
    have hhead := head?_append_of_head? vs h
    have hread := ReadsUnit.declaring hw (hheader size' _ hhead) (hsum size' rest' h)
    rw [lookAhead_append size' us hmid hhead] at hread
    rwa [List.cons_append, List.append_assoc]
  | abandoned => exact absurd (rest_skipUntil_never 0 _) hne

/-! ## §2. Sources. -/

/-- There is an error about the tokens behind the program exactly if one is left, and it is
about the first of them. -/
theorem trailingInput_mem_errors_iff {source : String} {t : Token} :
    .trailingInput t ∈ (parse source).errors ↔
      ∃ behind, (parseUnit (sourceSize source) (tokens source)).rest = t :: behind := by
  rw [errors_parse, List.mem_append]
  constructor
  · rintro (h | h)
    · cases isTrailing_of_mem_unit h
    · cases hrest : (parseUnit (sourceSize source) (tokens source)).rest with
      | nil =>
        rw [hrest] at h
        cases h
      | cons u behind =>
        rw [hrest] at h
        cases List.mem_singleton.1 h
        exact ⟨behind, rfl⟩
  · rintro ⟨behind, hrest⟩
    rw [hrest]
    exact .inr (List.mem_singleton_self _)

/-- A source in which the same tokens come into sight up to one behind the program has the
same program and the same errors. -/
theorem parse_eq_of_seen {source other : String} {t : Token}
    (ht : .trailingInput t ∈ (parse source).errors)
    (hseen : (parse source).journal.seen <+: scan other) :
    (parse other).program = (parse source).program ∧
      (parse other).errors = (parse source).errors := by
  obtain ⟨behind, hrest⟩ := trailingInput_mem_errors_iff.1 ht
  obtain ⟨us, _, htokens, hsight, rfl⟩ := seen_parse source
  have hread := readsUnit_parseUnit (sourceSize source) (tokens source)
  obtain ⟨vs, hvs, hsame⟩ := hread.elsewhere (by simp [hrest])
  rw [hrest] at htokens hsight hsame hvs
  obtain rfl : us = vs := List.append_cancel_right (htokens.symm.trans hvs)
  -- the tokens in sight are none of them the end, so they are tokens of the other source too
  obtain ⟨behind', hother⟩ : ∃ behind', tokens other = us ++ t :: behind' := by
    rcases List.prefix_concat_iff.1 hseen with hwhole | ⟨behind', hother⟩
    · obtain ⟨-, hend⟩ := List.append_inj' (hsight.symm.trans hwhole) rfl
      have hmem : t ∈ tokens source := by simp [htokens]
      have hkind := kind_ne_endOfInput_of_mem_tokensFrom hmem
      cases hend
      exact absurd rfl hkind
    · refine ⟨behind', ?_⟩
      rw [← hother, hsight]
      simp
  have hread' := hsame (sourceSize other) (t :: behind') rfl
  rw [← hother] at hread'
  obtain ⟨hvalue, hrest', hevents⟩ := hread'.parseUnit_eq
  refine ⟨hvalue, ?_⟩
  rw [errors_parse, errors_parse, hevents, hrest, hrest']
  rfl

/-- Asked for the places of a front part of a list, the list gives the front part. -/
theorem map_getElem?_range {α : Type} {front whole : List α} (h : front <+: whole) :
    ((List.range front.length).map fun i => whole[i]?) = front.map some := by
  obtain ⟨behind, rfl⟩ := h
  apply List.ext_getElem
  · simp
  · intro i hi hi'
    rw [List.length_map] at hi'
    simp [List.getElem?_append_left hi']

/-- The log record of a token that comes into sight. -/
def Token.scanRecord (t : Token) : LogRecord :=
  ⟨.trace, .scanning, "scanned " ++ t.kind.code ++ " " ++ Text.quote t.text⟩

/-- Scanning is logged token by token, as they come into sight. -/
theorem filter_scanning_records (events : List Event) :
    (events.filterMap Event.record?).filter (fun record => record.stage == .scanning) =
      (seenOf events).map Token.scanRecord := by
  induction events with
  | nil => rfl
  | cons event events ih =>
    cases event with
    | sighted t => exact congrArg (List.cons t.scanRecord) ih
    | found error => exact ih
    | abandoned error => exact ih
    | resumed n t => exact ih

/-- **READING ENDS, AND IT TAKES EACH TOKEN ONCE.**  No chain of calls goes on for ever: a call
gives no tokens back, and a round of a loop or a sum in parentheses has a token less before
it.  There are no other calls: what comes of a task follows from what comes of its calls.  The
tokens that come into sight are those that the iterator of the source gives, one after the
other from the first on, and none behind the end; the log tells of just these.  They are all
tokens of the source unless there is an error about the tokens behind the program.  Then that
error is about the last of them, and any source that has the same tokens up to this one,
whatever is behind it, has the same program and the same errors. -/
theorem tokens_are_taken_once (source : String) :
    (WellFounded fun called task => Calls (sourceSize source) task called) ∧
      (∀ task called ts us, Calls (sourceSize source) (task, ts) (called, us) →
        us <:+ ts ∧ (task.Repeats called → us.length < ts.length)) ∧
      (∀ (helpers : Helpers) task, (∀ called, Calls (sourceSize source) task called →
          helpers.Right (sourceSize source) called) →
        (helpers.round (sourceSize source)).Right (sourceSize source) task) ∧
      (∃ n, 0 < n ∧ (parse source).journal.seen = (scan source).take n ∧
        Scanner.pullAll (List.replicate n .next) (.ofSource source) =
          (parse source).journal.seen.map some) ∧
      (∀ before t after, (parse source).journal.seen = before ++ t :: after →
        t.kind = .endOfInput → after = []) ∧
      (parse source).journal.records.filter (fun record => record.stage == .scanning) =
        (parse source).journal.seen.map Token.scanRecord ∧
      ((parse source).journal.seen = scan source ↔
        ∀ t, .trailingInput t ∉ (parse source).errors) ∧
      ∀ t, .trailingInput t ∈ (parse source).errors →
        (parse source).journal.seen.getLast? = some t ∧
          ∀ other, (parse source).journal.seen <+: scan other →
            (parse other).program = (parse source).program ∧
              (parse other).errors = (parse source).errors := by
  obtain ⟨us, rest, htokens, hseen, hrest⟩ := seen_parse source
  have hsplit : scan source = us ++ (rest ++ [endToken source]) := by
    rw [scan, htokens, List.append_assoc]
  have hprefix := seen_in_order source
  have htake := List.prefix_iff_eq_take.1 hprefix
  refine ⟨wellFounded_calls _, fun _ _ _ _ h => ⟨h.suffix, h.length_lt⟩,
    fun _ _ hright => Helpers.right_round hright,
    ⟨(parse source).journal.seen.length, ?_, htake, ?_⟩, ?_, filter_scanning_records _, ?_, ?_⟩
  · rw [hseen, List.length_append]
    exact Nat.succ_pos _
  · have hpull := pullAll_next (parse source).journal.seen.length 0 source.toList
    rw [Nat.zero_add] at hpull
    exact hpull.trans (map_getElem?_range hprefix)
  · intro before t after hcut hkind
    rcases List.eq_nil_or_concat after with rfl | ⟨later, u, rfl⟩
    · rfl
    · -- a token in front of the last one is taken, so it is not the end
      have hus : us ++ [lookAhead (sourceSize source) rest] = (before ++ t :: later) ++ [u] := by
        rw [← hseen, hcut]
        simp
      have hmem : t ∈ tokens source := by
        rw [htokens, (List.append_inj' hus rfl).1]
        simp
      exact absurd hkind (kind_ne_endOfInput_of_mem_tokensFrom hmem)
  · rw [hseen, hsplit, List.append_cancel_left_eq]
    constructor
    · intro hwhole t ht
      obtain ⟨behind, hleft⟩ := trailingInput_mem_errors_iff.1 ht
      rw [← hrest, hleft] at hwhole
      simp at hwhole
    · intro hnone
      cases rest with
      | nil => rfl
      | cons t behind => exact absurd (trailingInput_mem_errors_iff.2 ⟨behind, hrest⟩) (hnone t)
  · intro t ht
    obtain ⟨behind, hleft⟩ := trailingInput_mem_errors_iff.1 ht
    refine ⟨?_, fun other => parse_eq_of_seen ht⟩
    rw [hseen, ← hrest, hleft, lookAhead_cons, List.getLast?_concat]

/-- In `(a + ) 1 ( #` the number is behind the program, so `( #` may be replaced by anything that
does not lengthen the number. -/
theorem tokens_are_taken_once_replaced :
    .trailingInput ⟨.number, "1", ⟨7, 1⟩⟩ ∈ (parse "(a + ) 1 ( #").errors ∧
      (parse "(a + ) 1 ( #").journal.seen <+: scan "(a + ) 1*with é" ∧
      (parse "(a + ) 1 ( #").journal.seen.getLast? = some ⟨.number, "1", ⟨7, 1⟩⟩ ∧
      (parse "(a + ) 1*with é").program.map Program.render = some "(+ a <error>)" ∧
      (parse "(a + ) 1*with é").errors = (parse "(a + ) 1 ( #").errors := by
  have htrailing : .trailingInput ⟨.number, "1", ⟨7, 1⟩⟩ ∈ (parse "(a + ) 1 ( #").errors := by
    decide +kernel
  have hseen : (parse "(a + ) 1 ( #").journal.seen <+: scan "(a + ) 1*with é" := by
    decide +kernel
  obtain ⟨-, -, -, -, -, -, -, hbehind⟩ := tokens_are_taken_once "(a + ) 1 ( #"
  obtain ⟨hlast, hother⟩ := hbehind _ htrailing
  obtain ⟨hprogram, herrors⟩ := hother _ hseen
  refine ⟨htrailing, hseen, hlast, ?_, herrors⟩
  rw [hprogram]
  decide +kernel

end Calculator
