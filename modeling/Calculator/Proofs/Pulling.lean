/-
  Calculator.Proofs.Pulling
  ─────────────────────────
  **BOTH WAYS OF ASKING A SCANNER DRAW ON ONE STREAM.**

  A scanner is asked for tokens by `next?` and by `nextToken`.  What it has ahead is one
  endless stream, the tokens up to the end and then the end again and again
  (`Scanner.ahead`).  Every answer is the first of the stream and leaves the others, in
  either way (`pull_cases`).  Only `next?` has an answer that is no token, once it has
  handed out the end itself.

  Main statement: `pulls_share_one_stream`.
-/
import Calculator.Proofs.Partition

namespace Calculator

open Text (width)

/-! ## §1. The stream. -/

namespace Scanner

/-- The `i`-th of the tokens that a scanner has ahead; behind the last one the end stands
again and again. -/
def ahead (s : Scanner) (i : Nat) : Token :=
  (tokensFrom s.place.offset s.place.rest)[i]?.getD
    (.endOfInput (s.place.offset + width s.place.rest))

/-- The next token is the first that is ahead, and behind it the others are. -/
theorem nextToken_spec (s : Scanner) :
    s.nextToken.1 = s.ahead 0 ∧ s.nextToken.2.finished = s.finished ∧
      ∀ i, s.nextToken.2.ahead i = s.ahead (i + 1) := by
  have hnext : s.nextToken = ((nextFrom s.place.offset s.place.rest).1,
      { s with place := (nextFrom s.place.offset s.place.rest).2 }) := rfl
  rcases nextFrom_cases s.place.offset s.place.rest with ⟨hnil, hend⟩ | ⟨t, place, ht, -, hcons, hw⟩
  · rw [hnext, hend]
    refine ⟨?_, rfl, ?_⟩
    · unfold ahead
      rw [hnil]
      rfl
    · -- behind the end there is only the end
      intro i
      unfold ahead
      rw [hnil]
      simp [tokensFrom]
  · rw [hnext, ht]
    refine ⟨?_, rfl, ?_⟩
    · unfold ahead
      rw [hcons]
      rfl
    · intro i
      unfold ahead
      rw [hcons, List.getElem?_cons_succ, hw]

/-! ## §2. One call. -/

/-- A call has no token, or it has the first that is ahead.  It has none only if it is one
of `next?` on a scanner that is finished; and what finishes a scanner is `next?` at the
end. -/
theorem pull_cases (p : Pull) (s : Scanner) :
    s.pull p = (none, s) ∧ p = .next ∧ s.finished = true ∨
      ∃ t, s.pull p = (some (s.ahead 0), t) ∧ (∀ i, t.ahead i = s.ahead (i + 1)) ∧
        ¬(p = .next ∧ s.finished = true) ∧
        (t.finished = true ↔
          s.finished = true ∨ p = .next ∧ (s.ahead 0).kind = .endOfInput) := by
  obtain ⟨htoken, hfinished, hahead⟩ := s.nextToken_spec
  cases p with
  | nextToken =>
    refine .inr ⟨s.nextToken.2, ?_, hahead, by simp, ?_⟩
    · rw [← htoken]
      rfl
    · rw [hfinished]
      simp
  | next =>
    by_cases hs : s.finished = true
    · refine .inl ⟨?_, rfl, hs⟩
      show s.next? = (none, s)
      rw [next?, if_pos hs]
    · refine .inr ⟨{ s.nextToken.2 with finished := s.nextToken.1.kind == .endOfInput },
        ?_, hahead, by simp [hs], ?_⟩
      · show s.next? = _
        rw [next?, if_neg hs, ← htoken]
      · rw [← htoken]
        simp [hs]

/-! ## §3. Many calls. -/

theorem length_pullAll (pulls : List Pull) (s : Scanner) :
    (pullAll pulls s).length = pulls.length := by
  induction pulls generalizing s with
  | nil => rfl
  | cons p later ih => exact congrArg (· + 1) (ih _)

/-- The tokens among the answers are those that were ahead, one by one. -/
theorem getElem?_answers {pulls : List Pull} {s : Scanner} {i : Nat} {t : Token}
    (h : ((pullAll pulls s).filterMap id)[i]? = some t) : t = s.ahead i := by
  induction pulls generalizing s i with
  | nil => simp [pullAll] at h
  | cons p later ih =>
    unfold pullAll at h
    rcases pull_cases p s with ⟨hpull, -, -⟩ | ⟨s', hpull, hahead, -, -⟩
    · rw [hpull, List.filterMap_cons_none rfl] at h
      exact ih h
    · rw [hpull] at h
      change (s.ahead 0 :: (pullAll later s').filterMap id)[i]? = some t at h
      cases i with
      | zero =>
        rw [List.getElem?_cons_zero] at h
        exact (Option.some.inj h).symm
      | succ i =>
        rw [List.getElem?_cons_succ] at h
        rw [ih h, hahead]

/-- Before the `k`-th call, a call of `next?` has been answered with the end. -/
def HasEnded (pulls : List Pull) (answers : List (Option Token)) (k : Nat) : Prop :=
  ∃ j t, j < k ∧ pulls[j]? = some .next ∧ answers[j]? = some (some t) ∧ t.kind = .endOfInput

theorem hasEnded_succ {p : Pull} {pulls : List Pull} {a : Option Token}
    {answers : List (Option Token)} {k : Nat} :
    HasEnded (p :: pulls) (a :: answers) (k + 1) ↔
      (p = .next ∧ ∃ t, a = some t ∧ t.kind = .endOfInput) ∨ HasEnded pulls answers k := by
  constructor
  · rintro ⟨j, t, hj, hp, ha, hk⟩
    cases j with
    | zero => exact .inl ⟨Option.some.inj hp, t, Option.some.inj ha, hk⟩
    | succ j => exact .inr ⟨j, t, Nat.lt_of_succ_lt_succ hj, hp, ha, hk⟩
  · rintro (⟨hp, t, ha, hk⟩ | ⟨j, t, hj, hp, ha, hk⟩)
    · exact ⟨0, t, Nat.succ_pos k, congrArg some hp, congrArg some ha, hk⟩
    · exact ⟨j + 1, t, Nat.succ_lt_succ hj, hp, ha, hk⟩

/-- A call has no token exactly if it is one of `next?` and the scanner is finished, from
the start or by an earlier call. -/
theorem getElem?_eq_none_iff {pulls : List Pull} {s : Scanner} {k : Nat} {p : Pull}
    (h : pulls[k]? = some p) :
    (pullAll pulls s)[k]? = some none ↔
      p = .next ∧ (s.finished = true ∨ HasEnded pulls (pullAll pulls s) k) := by
  induction pulls generalizing s k with
  | nil => cases h
  | cons q later ih =>
    unfold pullAll
    cases k with
    | zero =>
      obtain rfl : q = p := Option.some.inj h
      have hnot : ¬HasEnded (q :: later) ((s.pull q).1 :: pullAll later (s.pull q).2) 0 := by
        rintro ⟨j, t, hj, -⟩
        omega
      rw [List.getElem?_cons_zero]
      rcases pull_cases q s with ⟨hpull, hnext, hs⟩ | ⟨s', hpull, -, hno, -⟩
      · rw [hpull]
        exact ⟨fun _ => ⟨hnext, .inl hs⟩, fun _ => rfl⟩
      · rw [hpull] at hnot ⊢
        constructor
        · intro heq
          cases heq
        · rintro ⟨hnext, hs | hended⟩
          · exact absurd ⟨hnext, hs⟩ hno
          · exact absurd hended hnot
    | succ k =>
      rw [List.getElem?_cons_succ, hasEnded_succ, ih h]
      rcases pull_cases q s with ⟨hpull, -, hs⟩ | ⟨s', hpull, -, -, hfinished⟩
      · -- the scanner was finished already, and it still is
        rw [hpull]
        simp [hs]
      · have hend : (∃ t, some (s.ahead 0) = some t ∧ t.kind = .endOfInput) ↔
            (s.ahead 0).kind = .endOfInput := by
          simp
        rw [hpull, hfinished, hend, or_assoc]

end Scanner

/-! ## §4. Sources. -/

/-- From the start of a source its tokens are ahead, and then its end. -/
theorem ahead_ofSource (source : String) (i : Nat) :
    (Scanner.ofSource source).ahead i = (scan source)[i]?.getD (endToken source) := by
  have hahead : (Scanner.ofSource source).ahead i =
      (tokens source)[i]?.getD (.endOfInput (0 + width source.toList)) := rfl
  rw [hahead, Nat.zero_add, scan]
  rcases Nat.lt_or_ge i (tokens source).length with hlt | hge
  · rw [List.getElem?_append_left hlt]
    simp [hlt]
  · rw [List.getElem?_append_right hge, List.getElem?_eq_none hge]
    -- here stands the end, or nothing any more
    cases i - (tokens source).length with
    | zero => rfl
    | succ n => rfl

/-- **BOTH WAYS OF ASKING A SCANNER DRAW ON ONE STREAM.**  Ask a scanner of a source for
tokens in any order of `next?` and `nextToken`.  The `i`-th token that it answers with is the
`i`-th of the source, the end of the source standing behind its last token again and again,
whichever way it is asked.  A call has no token exactly if it is one of `next?` and an
earlier call of `next?` had the end for its answer; so one of `nextToken` always has one. -/
theorem pulls_share_one_stream (source : String) (pulls : List Scanner.Pull) :
    let answers := Scanner.pullAll pulls (.ofSource source)
    answers.length = pulls.length ∧
      (∀ (i : Nat) (t : Token), (answers.filterMap id)[i]? = some t →
        t = (scan source)[i]?.getD ⟨.endOfInput, "", ⟨width source.toList, 0⟩⟩) ∧
      (∀ (k : Nat) (p : Scanner.Pull), pulls[k]? = some p →
        (answers[k]? = some none ↔ p = .next ∧ Scanner.HasEnded pulls answers k)) ∧
      ∀ k : Nat, pulls[k]? = some .nextToken → ∃ t, answers[k]? = some (some t) := by
  dsimp only
  have hnull : ∀ (k : Nat) (p : Scanner.Pull), pulls[k]? = some p →
      ((Scanner.pullAll pulls (.ofSource source))[k]? = some none ↔
        p = .next ∧ Scanner.HasEnded pulls (Scanner.pullAll pulls (.ofSource source)) k) := by
    intro k p hp
    have hfinished : (Scanner.ofSource source).finished = false := rfl
    rw [Scanner.getElem?_eq_none_iff hp, hfinished]
    simp
  refine ⟨Scanner.length_pullAll pulls _, ?_, hnull, ?_⟩
  · intro i t ht
    rw [Scanner.getElem?_answers ht, ahead_ofSource]
    rfl
  · intro k hk
    obtain ⟨hlt, -⟩ := List.getElem?_eq_some_iff.1 hk
    rw [← Scanner.length_pullAll pulls (.ofSource source)] at hlt
    cases ha : (Scanner.pullAll pulls (.ofSource source))[k] with
    | some t => exact ⟨t, by rw [List.getElem?_eq_getElem hlt, ha]⟩
    | none =>
      have hnone := (hnull k .nextToken hk).1 (by rw [List.getElem?_eq_getElem hlt, ha])
      cases hnone.1

/-- An end from `nextToken` does not finish a scanner; one from `next?` does. -/
example :
    (Scanner.pullAll [.nextToken, .nextToken, .next, .next, .nextToken] (.ofSource "x")).map
        (Option.map Token.kind) =
      [some .identifier, some .endOfInput, some .endOfInput, none, some .endOfInput] := by
  decide +kernel

end Calculator
