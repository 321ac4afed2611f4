/-
  Calculator.Proofs.Scanning
  ──────────────────────────
  **WHAT SCANNING A TEXT COMES TO.**

  A text is layout and words in turn, and scanning finds the words.  This is said once,
  by the two rules of a relation (`Scans`): at the end only layout is left, and before it
  comes layout, then a word that does not go on behind its end.  So a property of scanning
  is an induction over the words of the text.

  Main statements:
    * `scans_iff` — the rules give the tokens of the text and no others;
    * `tokensFrom_moved` — where a text stands only moves its tokens;
    * `Scans.parts` — where some tokens of a text stand side by side, the tokens of its three
      parts are those in front, these, and those behind;
    * `Scans.append` — and parts that do not run into each other make up a text again.
-/
import Calculator.Proofs.Slice
import Calculator.Token.Scan

namespace Calculator

open Text (width width_nil width_cons width_append)

/-! ## §1. Layout and words. -/

/-- All characters are layout. -/
def IsGap (cs : List Char) : Prop := ∀ c ∈ cs, isLayout c = true

/-- The characters make one token: the first is no layout, and it takes the others in. -/
def IsWord : List Char → Prop
  | [] => False
  | c :: cs => isLayout c = false ∧ ∀ d ∈ cs, joins c d = true

/-- The word does not take in the character behind it, if there is one. -/
def Closed (word after : List Char) : Prop :=
  ∀ c ∈ word.head?, ∀ d ∈ after.head?, joins c d = false

@[simp] theorem isGap_nil : IsGap [] := by simp [IsGap]

theorem IsWord.ne_nil {word : List Char} (h : IsWord word) : word ≠ [] := by
  rintro rfl
  exact h

theorem isLayout_iff {c : Char} :
    isLayout c = true ↔ c ∈ [' ', '\t', '\x0c', '\x0b', '\r', '\n'] := by
  simp only [isLayout, Bool.or_eq_true, beq_iff_eq, List.mem_cons, List.not_mem_nil, or_false]
  grind

/-- Letters and digits are no layout. -/
theorem isLayout_of_isAlphanum {c : Char} (h : c.isAlphanum = true) : isLayout c = false := by
  apply Bool.eq_false_iff.2
  intro hl
  rw [isLayout_iff] at hl
  simp only [List.mem_cons, List.not_mem_nil, or_false] at hl
  rcases hl with rfl | rfl | rfl | rfl | rfl | rfl <;> revert h <;> decide

/-- Layout starts with no letter and no digit. -/
theorem IsGap.isAlphanum_head {gap : List Char} (h : IsGap gap) :
    ∀ c ∈ gap.head?, c.isAlphanum = false := by
  intro c hc
  apply Bool.eq_false_iff.2
  intro halnum
  have hlayout := h c (List.mem_of_mem_head? hc)
  rw [isLayout_of_isAlphanum halnum] at hlayout
  cases hlayout

/-- What a word takes in is a letter or a digit. -/
theorem isAlphanum_of_joins {c d : Char} (h : joins c d = true) : d.isAlphanum = true := by
  unfold joins at h
  split at h
  · exact h
  · simp only [Bool.and_eq_true] at h
    simp [Char.isAlphanum, h.2]

/-- No character of a word is layout. -/
theorem IsWord.isLayout_eq_false {word : List Char} (h : IsWord word) {c : Char}
    (hc : c ∈ word) : isLayout c = false := by
  cases word with
  | nil => cases hc
  | cons a word =>
    rcases List.mem_cons.1 hc with rfl | hc
    · exact h.1
    · exact isLayout_of_isAlphanum (isAlphanum_of_joins (h.2 c hc))

theorem isWord_with : IsWord "with".toList := ⟨rfl, List.all_eq_true.1 rfl⟩

/-- Layout closes every word. -/
theorem closed_of_isLayout {word : List Char} {c : Char} (cs : List Char)
    (h : isLayout c = true) : Closed word (c :: cs) := by
  intro a _ d hd
  cases hd
  apply Bool.eq_false_iff.2
  intro hjoins
  rw [isLayout_of_isAlphanum (isAlphanum_of_joins hjoins)] at h
  cases h

/-- A word that is closed before a text is closed before any front part of it. -/
theorem Closed.front {word front back : List Char} (h : Closed word (front ++ back)) :
    Closed word front := by
  cases front with
  | nil =>
    intro c _ d hd
    cases hd
  | cons d front => exact h

/-! ## §2. The rules of scanning. -/

/-- The tokens `ts` are found in the characters `cs` that stand from the byte `offset`
on. -/
inductive Scans : Nat → List Char → List Token → Prop where
  /-- At the end only layout is left. -/
  | done {offset : Nat} {gap : List Char} (layout : IsGap gap) : Scans offset gap []
  /-- Behind layout stands a word that does not go on behind its end. -/
  | word {offset : Nat} {gap word after : List Char} {ts : List Token} (layout : IsGap gap)
      (isWord : IsWord word) (closed : Closed word after)
      (later : Scans (offset + width gap + width word) after ts) :
      Scans offset (gap ++ (word ++ after)) (.ofText (offset + width gap) word :: ts)

/-- Layout in front of a text only moves it. -/
theorem Scans.behind_layout {offset : Nat} {gap cs : List Char} {ts : List Token}
    (hg : IsGap gap) (h : Scans (offset + width gap) cs ts) : Scans offset (gap ++ cs) ts := by
  cases h with
  | done hl => exact .done (List.forall_mem_append.2 ⟨hg, hl⟩)
  | @word _ gap' word after ts hl hw hc later =>
    have hwhole : Scans offset ((gap ++ gap') ++ (word ++ after))
        (.ofText (offset + width (gap ++ gap')) word :: ts) := by
      refine .word (List.forall_mem_append.2 ⟨hg, hl⟩) hw hc ?_
      rwa [width_append, ← Nat.add_assoc]
    rwa [List.append_assoc, width_append, ← Nat.add_assoc] at hwhole

/-- What a word leaves behind does not start with a character that it would take in. -/
theorem closed_dropWhile (c : Char) (word cs : List Char) :
    Closed (c :: word) (cs.dropWhile (joins c)) := by
  intro a ha d hd
  cases ha
  have hfirst := List.head?_dropWhile_not (joins c) cs
  rw [hd] at hfirst
  simpa using hfirst

/-- Scanning follows the rules. -/
theorem scans_tokensFrom (offset : Nat) (cs : List Char) :
    Scans offset cs (tokensFrom offset cs) := by
  fun_induction tokensFrom offset cs with
  | case1 => exact .done isGap_nil
  | case2 offset c cs hc ih =>
    have hg : IsGap [c] := List.forall_mem_singleton.2 hc
    exact .behind_layout hg (by simpa using ih)
  | case3 offset c cs hc ih =>
    have hw : IsWord (c :: cs.takeWhile (joins c)) :=
      ⟨by simpa using hc, List.all_eq_true.1 List.all_takeWhile⟩
    have hword := Scans.word isGap_nil hw (closed_dropWhile c _ cs) ih
    simpa using hword

/-- A closed word is taken as a whole. -/
theorem takeWhile_of_closed {c : Char} {word after : List Char} (hw : IsWord (c :: word))
    (hc : Closed (c :: word) after) :
    (word ++ after).takeWhile (joins c) = word ∧ (word ++ after).dropWhile (joins c) = after := by
  have hall : ∀ d ∈ word, joins c d = true := hw.2
  rw [List.takeWhile_append_of_pos hall, List.dropWhile_append_of_pos hall]
  cases after with
  | nil => simp
  | cons d after =>
    have hd : joins c d = false := hc c rfl d rfl
    simp [hd]

theorem tokensFrom_append_of_isGap {gap : List Char} (h : IsGap gap) (offset : Nat)
    (cs : List Char) : tokensFrom offset (gap ++ cs) = tokensFrom (offset + width gap) cs := by
  induction gap generalizing offset with
  | nil => rfl
  | cons c gap ih =>
    obtain ⟨hc, hgap⟩ := List.forall_mem_cons.1 h
    rw [List.cons_append, tokensFrom, if_pos hc, ih hgap, width_cons, Nat.add_assoc]

/-- The rules allow nothing else. -/
theorem Scans.eq_tokensFrom {offset : Nat} {cs : List Char} {ts : List Token}
    (h : Scans offset cs ts) : ts = tokensFrom offset cs := by
  induction h with
  | @done offset gap hl =>
    have hnil := tokensFrom_append_of_isGap hl offset []
    rw [List.append_nil, tokensFrom] at hnil
    exact hnil.symm
  | @word offset gap word after ts hl hw hc _ ih =>
    rw [tokensFrom_append_of_isGap hl]
    cases word with
    | nil => exact hw.elim
    | cons c word =>
      obtain ⟨htake, hdrop⟩ := takeWhile_of_closed hw hc
      have hlayout : ¬isLayout c = true := by simp [hw.1]
      rw [List.cons_append, tokensFrom, if_neg hlayout, htake, hdrop, ih]

/-- The rules give the tokens of a text and no others. -/
theorem scans_iff {offset : Nat} {cs : List Char} {ts : List Token} :
    Scans offset cs ts ↔ ts = tokensFrom offset cs :=
  ⟨Scans.eq_tokensFrom, fun h => h ▸ scans_tokensFrom offset cs⟩

/-! ## §3. Moving a text. -/

/-- The span `n` bytes further on. -/
def Span.moved (n : Nat) (s : Span) : Span := ⟨n + s.start, s.length⟩

/-- The token `n` bytes further on. -/
def Token.moved (n : Nat) (t : Token) : Token := { t with span := t.span.moved n }

theorem Token.moved_ofText (n offset : Nat) (text : List Char) :
    (ofText offset text).moved n = ofText (n + offset) text := rfl

/-- A text that stands further on has its tokens further on. -/
theorem Scans.moved {offset : Nat} {cs : List Char} {ts : List Token} (n : Nat)
    (h : Scans offset cs ts) : Scans (n + offset) cs (ts.map (Token.moved n)) := by
  induction h with
  | done hl => exact .done hl
  | word hl hw hc _ ih =>
    rw [List.map_cons, Token.moved_ofText, ← Nat.add_assoc]
    refine .word hl hw hc ?_
    rwa [Nat.add_assoc n, Nat.add_assoc n]

theorem tokensFrom_moved (n offset : Nat) (cs : List Char) :
    tokensFrom (n + offset) cs = (tokensFrom offset cs).map (Token.moved n) :=
  ((scans_tokensFrom offset cs).moved n).eq_tokensFrom.symm

/-! ## §4. Parts of a text. -/

/-- Where the tokens end that stand from the byte `offset` on. -/
def stopOf (offset : Nat) (ts : List Token) : Nat :=
  (ts.map fun t => t.span.stop).getLastD offset

@[simp] theorem stopOf_cons (offset : Nat) (t : Token) (ts : List Token) :
    stopOf offset (t :: ts) = stopOf t.span.stop ts := by
  unfold stopOf
  rw [List.map_cons, List.getLastD_cons]

/-- Where the tokens fall into two parts, so does the text; the cut is right behind the
last token of the first part. -/
theorem Scans.cut {offset : Nat} {cs : List Char} {us vs : List Token}
    (h : Scans offset cs (us ++ vs)) :
    ∃ front back, cs = front ++ back ∧ Scans offset front us ∧
      Scans (offset + width front) back vs ∧ stopOf offset us = offset + width front := by
  induction us generalizing offset cs with
  | nil => exact ⟨[], cs, rfl, .done isGap_nil, h, rfl⟩
  | cons u us ih =>
    generalize hw : u :: us ++ vs = ws at h
    cases h with
    | done => cases hw
    | @word _ gap word after ws hl hword hc later =>
      obtain ⟨rfl, rfl⟩ := List.cons.inj hw
      obtain ⟨front, back, rfl, hfront, hback, hstop⟩ := ih later
      have hoffset : offset + width (gap ++ (word ++ front)) =
          offset + width gap + width word + width front := by
        rw [width_append, width_append]
        omega
      refine ⟨gap ++ (word ++ front), back, by simp, .word hl hword hc.front hfront, ?_, ?_⟩
      · rwa [hoffset]
      · rw [hoffset, stopOf_cons]
        exact hstop

/-- In front of the first token there is only layout. -/
theorem Scans.start {offset : Nat} {cs : List Char} {t : Token} {ts : List Token}
    (h : Scans offset cs (t :: ts)) :
    ∃ gap back, cs = gap ++ back ∧ IsGap gap ∧ t.span.start = offset + width gap ∧
      Scans (offset + width gap) back (t :: ts) := by
  generalize hw : t :: ts = ws at h
  cases h with
  | done => cases hw
  | @word _ gap word after ws hl hword hc later =>
    obtain ⟨rfl, rfl⟩ := List.cons.inj hw
    exact ⟨gap, word ++ after, rfl, hl, rfl, .word isGap_nil hword hc later⟩

/-- A text behind another has its own tokens if the other takes nothing of it in. -/
theorem Scans.append {offset : Nat} {front back : List Char} {us vs : List Token}
    (hfront : Scans offset front us) (hback : Scans (offset + width front) back vs)
    (hstart : ∀ c ∈ back.head?, c.isAlphanum = false) :
    Scans offset (front ++ back) (us ++ vs) := by
  induction hfront with
  | done hl => exact .behind_layout hl hback
  | @word offset gap word after ts hl hw hc _ ih =>
    have hclosed : Closed word (after ++ back) := by
      cases after with
      | nil =>
        -- the last word of the front part ends right where the other begins
        intro c _ d hd
        apply Bool.eq_false_iff.2
        intro hjoins
        have halnum := isAlphanum_of_joins hjoins
        rw [hstart d hd] at halnum
        cases halnum
      | cons d after => exact hc
    have hlater : Scans (offset + width gap + width word) (after ++ back) (ts ++ vs) := by
      apply ih
      rw [width_append, width_append] at hback
      rwa [Nat.add_assoc, Nat.add_assoc]
    have hwhole := Scans.word hl hw hclosed hlater
    rwa [List.append_assoc, List.append_assoc]

/-- Layout behind a text adds no token. -/
theorem Scans.before_layout {offset : Nat} {cs gap : List Char} {ts : List Token}
    (h : Scans offset cs ts) (hg : IsGap gap) : Scans offset (cs ++ gap) ts := by
  have hwhole := h.append (.done hg) hg.isAlphanum_head
  rwa [List.append_nil] at hwhole

/-- Where some tokens of a text stand side by side, the text falls into the part in front of
them, the part from the first to the last of them, and what is behind. -/
theorem Scans.parts {offset : Nat} {cs : List Char} {us vs : List Token} {t : Token}
    {ts : List Token} (h : Scans offset cs (us ++ (t :: ts ++ vs))) :
    ∃ front mid back, cs = front ++ (mid ++ back) ∧ t.span.start = offset + width front ∧
      stopOf offset (t :: ts) = t.span.start + width mid ∧ Scans offset front us ∧
      Scans t.span.start mid (t :: ts) ∧ Scans (t.span.start + width mid) back vs := by
  obtain ⟨front, rest, rfl, hfront, hrest, -⟩ := h.cut
  obtain ⟨gap, rest, rfl, hgap, hstart, hscan⟩ := hrest.start
  change Scans _ rest (t :: ts ++ vs) at hscan
  obtain ⟨mid, back, rfl, hmid, hback, hstop⟩ := hscan.cut
  rw [← hstart] at hmid hback hstop
  refine ⟨front ++ gap, mid, back, by simp, ?_, hstop, hfront.before_layout hgap, hmid, hback⟩
  rw [width_append, hstart, Nat.add_assoc]

end Calculator
