/-
  Calculator.Proofs.Excerpts
  ──────────────────────────
  **AN EXCERPT SHOWS WHAT IT IS ABOUT.**

  The walk through a source goes on byte by byte, and it is not over before the span is
  (`Walk.Goes`).  The starts of lines that it remembers lie in front of the span
  (`Walk.IsBehind`).  So the part that it takes out of the source has the whole span in it,
  as long as the span lies in the source.

  Main statements:
    * `Excerpt.ofBytes_eq_error_iff` — which spans cannot be shown;
    * `Excerpt.ofBytes_shows`        — what is shown of the others;
    * `exists_excerpt_of_areIn`      — so the text under each label of a report is shown.
-/
import Calculator.Excerpt
import Calculator.Proofs.Pointing

namespace Calculator

namespace Excerpt

/-! ## §1. One byte. -/

namespace Walk

/-- What the walk remembers lies behind it, and the starts of lines in front of the span. -/
structure IsBehind (r : Request) (w : Walk) : Prop where
  lineStart : w.lineStart ≤ w.offset
  lineStarts : ∀ start ∈ w.lineStarts, start ≤ r.span.start

/-- The walk goes on from `offset` by one byte, and is over at most if the span is. -/
structure Goes (r : Request) (offset : Nat) (next : Bool × Walk) : Prop where
  offset : next.2.offset = offset + 1
  behind : next.2.IsBehind r
  complete : next.1 = true → r.span.stop ≤ next.2.offset

variable {r : Request} {w : Walk}

/-- Going on remembers nothing new. -/
theorem goes_advance {offset : Nat} (hoffset : w.offset = offset)
    (hstart : w.lineStart ≤ offset + 1) (hstarts : ∀ start ∈ w.lineStarts, start ≤ r.span.start) :
    Goes r offset (w.advance r) := by
  subst hoffset
  unfold advance
  split
  · next hpassed =>
    refine ⟨rfl, ⟨hstart, hstarts⟩, fun _ => ?_⟩
    show r.span.stop ≤ w.offset + 1
    omega
  · refine ⟨rfl, ⟨hstart, hstarts⟩, ?_⟩
    intro hover
    cases hover

theorem goes_stepByte (h : w.IsBehind r) : Goes r w.offset (w.stepByte r) := by
  have hstart := Nat.le_succ_of_le h.lineStart
  unfold stepByte
  split
  · exact goes_advance rfl hstart h.lineStarts
  · exact goes_advance rfl hstart h.lineStarts

theorem offset_endLineBefore : (w.endLineBefore r).offset = w.offset := by
  unfold endLineBefore
  dsimp only
  split
  · rfl
  · rfl

/-- A line that ends before the span started before it. -/
theorem le_of_mem_lineStarts_endLineBefore (h : w.IsBehind r) (hbefore : w.offset < r.span.start) :
    ∀ start ∈ (w.endLineBefore r).lineStarts, start ≤ r.span.start := by
  have hstarts : ∀ start ∈ w.lineStarts ++ [w.lineStart], start ≤ r.span.start := by
    refine List.forall_mem_append.2 ⟨h.lineStarts, List.forall_mem_singleton.2 ?_⟩
    exact Nat.le_trans h.lineStart (Nat.le_of_lt hbefore)
  unfold endLineBefore
  dsimp only
  split
  · exact fun start hmem => hstarts start (List.mem_of_mem_tail hmem)
  · exact hstarts

/-- A line that ends behind the span is only counted. -/
theorem endLineBehind_keeps : w.endLineBehind.offset = w.offset ∧
    w.endLineBehind.lineStart = w.lineStart ∧ w.endLineBehind.lineStarts = w.lineStarts := by
  unfold endLineBehind
  split
  · exact ⟨rfl, rfl, rfl⟩
  · exact ⟨rfl, rfl, rfl⟩

theorem goes_stepLineEnd (h : w.IsBehind r) : Goes r w.offset (w.stepLineEnd r) := by
  have hcounted : IsBehind r { w with lineCount := w.lineCount + 1 } := ⟨h.lineStart, h.lineStarts⟩
  unfold stepLineEnd
  dsimp only
  split
  · next hbefore =>
    exact goes_advance offset_endLineBefore (Nat.le_refl _)
      (le_of_mem_lineStarts_endLineBefore hcounted hbefore)
  · next hbefore =>
    obtain ⟨hoffset, hstart, hkept⟩ :=
      endLineBehind_keeps (w := { w with lineCount := w.lineCount + 1 })
    have hstarts := h.lineStarts
    rw [← hkept] at hstarts
    split
    · next hbehind =>
      split
      · -- nothing more is asked for, and the line end is behind the span
        refine ⟨rfl, ⟨?_, hstarts⟩, fun _ => ?_⟩
        · exact Nat.le_succ_of_le (Nat.le_trans (Nat.le_of_eq hstart) h.lineStart)
        · show r.span.start + r.span.length ≤ w.offset + 1
          omega
      · exact goes_advance hoffset (Nat.le_refl _) hstarts
    · exact goes_advance rfl (Nat.le_refl _) h.lineStarts

/-! ## §2. All bytes. -/

/-- A walk from `offset` on through `n` bytes ends at `last`: within these bytes, and at their end
or behind the span. -/
structure Ends (r : Request) (offset n : Nat) (last : Walk) : Prop where
  behind : last.IsBehind r
  within : last.offset ≤ offset + n
  complete : last.offset = offset + n ∨ r.span.stop ≤ last.offset

variable {offset n : Nat} {last : Walk}

theorem Goes.ends (h : Goes r offset (true, last)) : Ends r offset (n + 1) last := by
  obtain ⟨hoffset, hbehind, hover⟩ := h
  have hplace : last.offset = offset + 1 := hoffset
  exact ⟨hbehind, by omega, .inr (hover rfl)⟩

theorem Goes.ends_later (h : Goes r offset (false, w)) (hlater : Ends r w.offset n last) :
    Ends r offset (n + 1) last := by
  obtain ⟨hbehind, hwithin, hover⟩ := hlater
  have hplace : w.offset = offset + 1 := h.offset
  exact ⟨hbehind, by omega, by omega⟩

/-- A line end of two bytes is passed like one of one byte. -/
theorem Ends.succ (h : Ends r (offset + 1) n last) : Ends r offset (n + 1) last := by
  obtain ⟨hbehind, hwithin, hover⟩ := h
  exact ⟨hbehind, by omega, by omega⟩

theorem ends_through (bytes : List UInt8) (h : w.IsBehind r) :
    Ends r w.offset bytes.length (through r bytes w) := by
  have hpassed : ∀ {v : Walk}, v.IsBehind r →
      Goes r (v.offset + 1) (stepLineEnd r { v with offset := v.offset + 1 }) := by
    intro v hv
    exact goes_stepLineEnd (w := { v with offset := v.offset + 1 })
      ⟨Nat.le_succ_of_le hv.lineStart, hv.lineStarts⟩
  have hstep : ∀ {v : Walk} (b : UInt8), v.IsBehind r →
      Goes r v.offset (if b = 10 ∨ b = 13 then v.stepLineEnd r else v.stepByte r) := by
    intro v b hv
    split
    · exact goes_stepLineEnd hv
    · exact goes_stepByte hv
  fun_induction through r bytes w with
  | case1 w => exact ⟨h, Nat.le_refl _, .inl rfl⟩
  | case2 bytes w next heq => exact (heq ▸ hpassed h).ends.succ
  | case3 bytes w next heq ih =>
    have hgoes := heq ▸ hpassed h
    exact (hgoes.ends_later (ih hgoes.behind)).succ
  | case4 b bytes w _ next heq => exact (heq ▸ hstep b h).ends
  | case5 b bytes w _ next heq ih =>
    have hgoes := heq ▸ hstep b h
    exact hgoes.ends_later (ih hgoes.behind)

end Walk

/-! ## §3. The excerpt. -/

theorem isBehind_atStart (r : Request) : Walk.atStart.IsBehind r :=
  ⟨Nat.le_refl _, List.forall_mem_nil _⟩

/-- Only a span that stops more than one byte behind the end cannot be shown. -/
theorem ofBytes_eq_error_iff {bytes : List UInt8} {r : Request} :
    ofBytes bytes r = .error .outOfBounds ↔ bytes.length + 1 < r.span.stop := by
  obtain ⟨-, hwithin, hover⟩ := Walk.ends_through bytes (isBehind_atStart r)
  have hstart : Walk.atStart.offset = 0 := rfl
  unfold ofBytes
  dsimp only
  split
  · next hpassed =>
    refine iff_of_false ?_ (by omega)
    intro h
    cases h
  · next hpassed => exact iff_of_true rfl (by omega)

theorem headD_le {r : Request} {w : Walk} (h : w.IsBehind r) :
    w.lineStarts.headD (if r.before = 0 then r.span.start else 0) ≤ r.span.start := by
  cases hstarts : w.lineStarts with
  | nil =>
    rw [List.headD_nil]
    split
    · exact Nat.le_refl _
    · exact Nat.zero_le _
  | cons start starts => exact h.lineStarts start (by rw [hstarts]; exact List.mem_cons_self ..)

/-- A part of a list that lies in another part is found there. -/
theorem take_drop_of_part {α : Type} (l : List α) {start stop place length : Nat}
    (hstart : start ≤ place) (hstop : place + length ≤ stop) :
    (((l.take stop).drop start).drop (place - start)).take length = (l.drop place).take length := by
  have hplace : start + (place - start) = place := by omega
  have hlength : min length (stop - place) = length := by omega
  rw [List.drop_drop, hplace, List.drop_take, List.take_take, hlength]

/-- A span that lies in the source is found in its excerpt, which is a part of the source. -/
theorem ofBytes_shows {bytes : List UInt8} {r : Request} (h : r.span.stop ≤ bytes.length) :
    ∃ e, ofBytes bytes r = .ok e ∧ e.start ≤ r.span.start ∧ e.bytes <+: bytes.drop e.start ∧
      (e.bytes.drop (r.span.start - e.start)).take r.span.length =
        (bytes.drop r.span.start).take r.span.length := by
  obtain ⟨hbehind, -, hover⟩ := Walk.ends_through bytes (isBehind_atStart r)
  have hzero : Walk.atStart.offset = 0 := rfl
  have hstart := headD_le hbehind
  have hstop : r.span.stop = r.span.start + r.span.length := rfl
  unfold ofBytes
  dsimp only
  rw [if_pos (by omega)]
  refine ⟨_, rfl, hstart, ?_, take_drop_of_part bytes hstart (by omega)⟩
  rw [List.drop_take]
  exact List.take_prefix _ _

end Excerpt

/-! ## §4. Reports. -/

/-- The text under each label of a report is shown, whatever lines around it are asked for. -/
theorem exists_excerpt_of_areIn {source : String} {labels : List Label} (h : AreIn source labels)
    (before after : Nat) :
    ∀ label ∈ labels, ∃ e text,
      Excerpt.ofBytes (Text.encode source) ⟨label.span, before, after⟩ = .ok e ∧
        label.span.text? source = some text ∧
        (e.bytes.drop (label.span.start - e.start)).take label.span.length =
          Text.encode text := by
  intro label hlabel
  obtain ⟨text, htext⟩ := h label hlabel
  obtain ⟨front, back, hsource, hspan⟩ := Span.text?_eq_some_iff.1 htext
  have hbytes : Text.encode source = Text.encode (.ofList front) ++
      (Text.encode text ++ Text.encode (.ofList back)) := by
    rw [← Text.encode_append, ← Text.encode_append]
    exact congrArg Text.encode (String.toList_inj.1 (by simpa using hsource))
  have hstart : label.span.start = (Text.encode (.ofList front)).length := by
    rw [hspan, Text.length_encode, String.toList_ofList]
  have hlength : label.span.length = (Text.encode text).length := by
    rw [hspan, Text.length_encode]
  have hstop : label.span.stop ≤ (Text.encode source).length := by
    show label.span.start + label.span.length ≤ _
    rw [hbytes, List.length_append, List.length_append, hstart, hlength]
    omega
  obtain ⟨e, he, -, -, hshown⟩ :=
    Excerpt.ofBytes_shows (r := ⟨label.span, before, after⟩) hstop
  refine ⟨e, text, he, htext, hshown.trans ?_⟩
  dsimp only
  rw [hbytes, hstart, hlength, List.drop_left, List.take_left]

end Calculator
