/-
  Calculator.Proofs.Slice
  ───────────────────────
  **CUTS AT CHARACTER BOUNDARIES.**

  A byte offset of a text is a character boundary if some characters of its start have
  that width.  Then they are the only ones: the width in front of a cut decides the
  cut, as every character has bytes.

  Main statements:
    * `exists_append_of_width_le` — of two cuts of one text the earlier one cuts the
      front of the later one;
    * `Span.slice?_eq_some_iff` — a span holds a text exactly if it stands there.
-/
import Calculator.Span

namespace Calculator

open Text (width width_nil width_cons width_append dropBytes? takeBytes?)

/-! ## §1. Widths and cuts. -/

theorem width_eq_zero_iff {cs : List Char} : width cs = 0 ↔ cs = [] := by
  cases cs with
  | nil => simp
  | cons c cs =>
    have hc := c.utf8Size_pos
    simp only [width_cons, reduceCtorEq, iff_false]
    omega

theorem width_pos {cs : List Char} (h : cs ≠ []) : 0 < width cs :=
  Nat.pos_of_ne_zero (mt width_eq_zero_iff.1 h)

/-- Of two cuts of one text, the earlier one cuts the front of the later one. -/
theorem exists_append_of_width_le {front back front' back' : List Char}
    (h : front ++ back = front' ++ back') (hw : width front ≤ width front') :
    ∃ mid, front' = front ++ mid ∧ back = mid ++ back' := by
  rcases List.append_eq_append_iff.1 h with ⟨mid, hf, hb⟩ | ⟨mid, hf, hb⟩
  · exact ⟨mid, hf, hb⟩
  · -- the other way round there is nothing between the two cuts
    have hmid : mid = [] := by
      rw [hf, width_append] at hw
      exact width_eq_zero_iff.1 (by omega)
    subst hmid
    exact ⟨[], by simpa using hf.symm, by simpa using hb.symm⟩

/-- Two cuts of one text at the same offset are the same. -/
theorem append_inj_of_width_eq {front back front' back' : List Char}
    (h : front ++ back = front' ++ back') (hw : width front = width front') :
    front = front' ∧ back = back' := by
  obtain ⟨mid, rfl, rfl⟩ := exists_append_of_width_le h (Nat.le_of_eq hw)
  have hmid : mid = [] := by
    rw [width_append] at hw
    exact width_eq_zero_iff.1 (by omega)
  simp [hmid]

/-- A character of a text made of two parts stands in one of them. -/
theorem middle_of_append {α : Type} {xs ys before after : List α} {c : α}
    (h : xs ++ ys = before ++ c :: after) :
    (∃ mid, xs = before ++ c :: mid ∧ after = mid ++ ys) ∨
      ∃ mid, before = xs ++ mid ∧ ys = mid ++ c :: after := by
  rcases List.append_eq_append_iff.1 h with ⟨mid, hb, hy⟩ | ⟨mid, hx, hc⟩
  · exact .inr ⟨mid, hb, hy⟩
  · cases mid with
    | nil => exact .inr ⟨[], by simpa using hx.symm, by simpa using hc.symm⟩
    | cons d mid =>
      cases hc
      exact .inl ⟨mid, hx, rfl⟩

/-! ## §2. Spans. -/

theorem exists_append_of_dropBytes? {n : Nat} {cs back : List Char}
    (h : dropBytes? n cs = some back) : ∃ front, cs = front ++ back ∧ width front = n := by
  induction cs generalizing n with
  | nil =>
    cases n with
    | zero =>
      cases h
      exact ⟨[], rfl, rfl⟩
    | succ n => cases h
  | cons c cs ih =>
    cases n with
    | zero =>
      cases h
      exact ⟨[], rfl, rfl⟩
    | succ n =>
      unfold dropBytes? at h
      split at h
      · obtain ⟨front, rfl, hw⟩ := ih h
        refine ⟨c :: front, rfl, ?_⟩
        rw [width_cons]
        omega
      · cases h

theorem exists_append_of_takeBytes? {n : Nat} {cs front : List Char}
    (h : takeBytes? n cs = some front) : ∃ back, cs = front ++ back ∧ width front = n := by
  induction cs generalizing n front with
  | nil =>
    cases n with
    | zero =>
      cases h
      exact ⟨[], rfl, rfl⟩
    | succ n => cases h
  | cons c cs ih =>
    cases n with
    | zero =>
      cases h
      exact ⟨c :: cs, rfl, rfl⟩
    | succ n =>
      unfold takeBytes? at h
      split at h
      · obtain ⟨front, hfront, rfl⟩ := Option.map_eq_some_iff.1 h
        obtain ⟨back, rfl, hw⟩ := ih hfront
        refine ⟨back, rfl, ?_⟩
        rw [width_cons]
        omega
      · cases h

/-- A span holds a text exactly if the text stands there. -/
theorem Span.slice?_eq_some_iff {s : Span} {cs word : List Char} :
    s.slice? cs = some word ↔
      ∃ before after, cs = before ++ (word ++ after) ∧ s = ⟨width before, width word⟩ := by
  constructor
  · intro h
    obtain ⟨back, hdrop, htake⟩ := Option.bind_eq_some_iff.1 h
    obtain ⟨before, rfl, hstart⟩ := exists_append_of_dropBytes? hdrop
    obtain ⟨after, rfl, hlength⟩ := exists_append_of_takeBytes? htake
    refine ⟨before, after, rfl, ?_⟩
    cases s
    simp_all
  · rintro ⟨before, after, rfl, rfl⟩
    exact Span.slice?_middle before word after

theorem Span.text?_eq_some_iff {s : Span} {source text : String} :
    s.text? source = some text ↔
      ∃ before after, source.toList = before ++ (text.toList ++ after) ∧
        s = ⟨width before, width text.toList⟩ := by
  rw [← Span.slice?_eq_some_iff, Span.text?, Option.map_eq_some_iff]
  constructor
  · rintro ⟨word, hword, rfl⟩
    rwa [String.toList_ofList]
  · intro h
    exact ⟨text.toList, h, String.ofList_toList⟩

end Calculator
