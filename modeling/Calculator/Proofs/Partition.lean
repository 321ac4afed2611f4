/-
  Calculator.Proofs.Partition
  ───────────────────────────
  **SCANNING PARTITIONS A SOURCE, AND IN THE ONLY WAY THERE IS.**

  What the tokens of a source must be like is said here without scanning
  (`IsPartition`): they stand in the source one behind the other, only layout stands
  between them, each has the kind of its text, and words and numbers are as long as
  can be.  No other list of tokens is like that.

  The tokens found from some byte on are compared with the pieces of the text from
  there on (`Pieces`).  That they are its pieces is an induction on the rules of
  scanning, and that there are no other pieces is one on the pieces.

  Main statement: `scan_partitions`.
-/
import Calculator.Proofs.Scanning

namespace Calculator

open Text (width width_nil width_cons width_append)

/-! ## §1. The kind of a text. -/

/-- The characters that stand for themselves. -/
def marks : List (Char × TokenKind) :=
  [('+', .plus), ('-', .minus), ('*', .star), ('/', .slash), ('(', .leftParen),
    (')', .rightParen), (':', .colon), (',', .comma)]

/-- The characters make a token of the kind. -/
inductive HasKind : List Char → TokenKind → Prop where
  | endOfInput : HasKind [] .endOfInput
  | withKeyword : HasKind ['w', 'i', 't', 'h'] .withKeyword
  | identifier {c : Char} {cs : List Char} (letter : c.isAlpha = true)
      (word : ∀ d ∈ cs, d.isAlphanum = true) (other : c :: cs ≠ ['w', 'i', 't', 'h']) :
      HasKind (c :: cs) .identifier
  | number {c : Char} {cs : List Char} (digits : ∀ d ∈ c :: cs, d.isDigit = true) :
      HasKind (c :: cs) .number
  | mark {c : Char} {kind : TokenKind} (mem : (c, kind) ∈ marks) : HasKind [c] kind
  | unknown {c : Char} (letter : c.isAlpha = false) (digit : c.isDigit = false)
      (other : ∀ kind, (c, kind) ∉ marks) : HasKind [c] .unknown

theorem isAlpha_of_isDigit {c : Char} (h : c.isDigit = true) : c.isAlpha = false := by
  unfold Char.isDigit at h
  unfold Char.isAlpha Char.isUpper Char.isLower
  grind

/-- A mark is neither a letter nor a digit, and it has the kind of its own. -/
theorem of_mem_marks {c : Char} {kind : TokenKind} (h : (c, kind) ∈ marks) :
    c.isAlpha = false ∧ c.isDigit = false ∧ TokenKind.ofChar c = kind := by
  simp only [marks, List.mem_cons, Prod.mk.injEq, List.not_mem_nil, or_false] at h
  rcases h with ⟨rfl, rfl⟩ | ⟨rfl, rfl⟩ | ⟨rfl, rfl⟩ | ⟨rfl, rfl⟩ | ⟨rfl, rfl⟩ | ⟨rfl, rfl⟩ |
    ⟨rfl, rfl⟩ | ⟨rfl, rfl⟩ <;> decide

/-- A character is a mark, or it is unknown. -/
theorem mem_marks_or_ofChar_eq_unknown (c : Char) :
    (c, TokenKind.ofChar c) ∈ marks ∨ TokenKind.ofChar c = .unknown := by
  unfold TokenKind.ofChar
  split
  case h_9 => exact .inr rfl
  all_goals exact .inl (by decide)

/-- A text has only one kind. -/
theorem HasKind.eq_ofText {text : List Char} {kind : TokenKind} (h : HasKind text kind) :
    kind = .ofText text := by
  cases h with
  | endOfInput => rfl
  | withKeyword => rfl
  | identifier hl _ ho =>
    rw [TokenKind.ofText, if_pos hl]
    exact (if_neg ho).symm
  | number hd =>
    have hc := hd _ (List.mem_cons_self ..)
    have ha : ¬_ = true := Bool.eq_false_iff.1 (isAlpha_of_isDigit hc)
    rw [TokenKind.ofText, if_neg ha, if_pos hc]
  | mark hm =>
    obtain ⟨ha, hd, hk⟩ := of_mem_marks hm
    simp [TokenKind.ofText, ha, hd, hk]
  | @unknown c ha hd ho =>
    have hk : TokenKind.ofChar c = .unknown :=
      (mem_marks_or_ofChar_eq_unknown c).resolve_left (ho _)
    simp [TokenKind.ofText, ha, hd, hk]

/-- A word has a kind. -/
theorem IsWord.hasKind {word : List Char} (h : IsWord word) : HasKind word (.ofText word) := by
  cases word with
  | nil => exact .endOfInput
  | cons c cs =>
    show HasKind (c :: cs) (if c.isAlpha = true then _ else _)
    by_cases ha : c.isAlpha = true
    · have hcs : ∀ d ∈ cs, d.isAlphanum = true := fun d hd => isAlphanum_of_joins (h.2 d hd)
      rw [if_pos ha]
      split
      · next hw =>
        rw [hw]
        exact .withKeyword
      · next hw => exact .identifier ha hcs hw
    · rw [if_neg ha]
      by_cases hd : c.isDigit = true
      · rw [if_pos hd]
        refine .number (List.forall_mem_cons.2 ⟨hd, ?_⟩)
        intro d hmem
        have hj := h.2 d hmem
        simpa [joins, ha, hd] using hj
      · -- any other character takes nothing in
        have hnil : cs = [] := by
          apply List.eq_nil_iff_forall_not_mem.2
          intro d hmem
          have hj := h.2 d hmem
          simp [joins, ha, hd] at hj
        rw [if_neg hd, hnil]
        rcases mem_marks_or_ofChar_eq_unknown c with hm | hu
        · exact .mark hm
        · rw [hu]
          refine .unknown (by simpa using ha) (by simpa using hd) ?_
          intro kind hm
          obtain ⟨-, -, hk⟩ := of_mem_marks hm
          rw [hu] at hk
          rw [← hk] at hm
          simp [marks] at hm

/-- A text of some kind is a word, if it does not start with layout. -/
theorem HasKind.isWord {text : List Char} {kind : TokenKind} (h : HasKind text kind)
    (hne : text ≠ []) (hl : ∀ c ∈ text.head?, isLayout c = false) : IsWord text := by
  cases h with
  | endOfInput => exact absurd rfl hne
  | withKeyword => exact isWord_with
  | @identifier c cs ha hw _ =>
    refine ⟨hl c rfl, ?_⟩
    intro d hd
    rw [joins, if_pos ha]
    exact hw d hd
  | @number c cs hd =>
    obtain ⟨hc, hcs⟩ := List.forall_mem_cons.1 hd
    refine ⟨hl c rfl, ?_⟩
    intro d hmem
    simp [joins, isAlpha_of_isDigit hc, hc, hcs d hmem]
  | @mark c => exact ⟨hl c rfl, by simp⟩
  | @unknown c => exact ⟨hl c rfl, by simp⟩

/-- Names and the word `with` are closed by what is neither a letter nor a digit, numbers
by what is no digit, and everything else is closed. -/
theorem HasKind.closed_iff {text after : List Char} {kind : TokenKind} (h : HasKind text kind) :
    Closed text after ↔ ∀ c ∈ after.head?,
      (kind = .identifier ∨ kind = .withKeyword → c.isAlphanum = false) ∧
        (kind = .number → c.isDigit = false) := by
  have hjoins : ∀ {a : Char} {cs : List Char}, text = a :: cs →
      (Closed text after ↔ ∀ c ∈ after.head?, joins a c = false) := by
    rintro a cs rfl
    simp [Closed]
  cases h with
  | endOfInput => simp [Closed]
  | withKeyword =>
    rw [hjoins rfl]
    have hw : 'w'.isAlpha = true := by decide
    simp [joins, hw]
  | identifier ha =>
    rw [hjoins rfl]
    simp [joins, ha]
  | number hd =>
    rw [hjoins rfl]
    have hc := hd _ (List.mem_cons_self ..)
    simp [joins, isAlpha_of_isDigit hc, hc]
  | @mark c kind hm =>
    rw [hjoins rfl]
    obtain ⟨ha, hd, -⟩ := of_mem_marks hm
    have hkind : kind ≠ .identifier ∧ kind ≠ .withKeyword ∧ kind ≠ .number := by
      simp only [marks, List.mem_cons, Prod.mk.injEq, List.not_mem_nil, or_false] at hm
      grind
    simp [joins, ha, hd, hkind]
  | unknown ha hd =>
    rw [hjoins rfl]
    simp [joins, ha, hd]

/-! ## §2. What a partition is. -/

/-- The character `c` of the source starts at the byte `i`. -/
def StandsAt (source : String) (i : Nat) (c : Char) : Prop :=
  ∃ before after, source.toList = before ++ c :: after ∧ width before = i

/-- The byte `i` is in the span. -/
def Span.Holds (s : Span) (i : Nat) : Prop := s.start ≤ i ∧ i < s.stop

theorem Span.not_holds_of_lt {s : Span} {i : Nat} (h : i < s.start) : ¬s.Holds i := by
  intro hholds
  have hle := hholds.1
  omega

theorem Span.not_holds_of_stop_le {s : Span} {i : Nat} (h : s.stop ≤ i) : ¬s.Holds i := by
  intro hholds
  have hlt := hholds.2
  omega

/-- The tokens cut the source into words with layout between them. -/
structure IsPartition (source : String) (ts : List Token) : Prop where
  /-- The last token, and no other one, is the end, which is empty and stands behind the
  last byte. -/
  ends : ∃ us, ts = us ++ [⟨.endOfInput, "", ⟨width source.toList, 0⟩⟩] ∧
    ∀ t ∈ us, t.kind ≠ .endOfInput
  /-- No token starts before an earlier one stops. -/
  ordered : ts.Pairwise fun t u => t.span.stop ≤ u.span.start
  /-- Only the end has no bytes. -/
  nonempty : ∀ t ∈ ts, t.kind ≠ .endOfInput → 0 < t.span.length
  /-- A span starts and stops at character boundaries, and the text of the token is what
  stands there. -/
  text : ∀ t ∈ ts, t.span.text? source = some t.text
  /-- The text has the kind of the token. -/
  kind : ∀ t ∈ ts, HasKind t.text.toList t.kind
  /-- Exactly the layout characters stand outside of all spans. -/
  layout : ∀ i c, StandsAt source i c →
    (c ∈ [' ', '\t', '\x0c', '\x0b', '\r', '\n'] ↔ ∀ t ∈ ts, ¬t.span.Holds i)
  /-- No letter or digit follows a name or the word `with`, and no digit a number. -/
  maximal : ∀ t ∈ ts, ∀ c, StandsAt source t.span.stop c →
    (t.kind = .identifier ∨ t.kind = .withKeyword → c.isAlphanum = false) ∧
      (t.kind = .number → c.isDigit = false)

/-! ## §3. The pieces of a text. -/

/-- The tokens, none of which is the end, cut the characters `cs` that stand from the
byte `offset` on into words with layout between them. -/
structure Pieces (offset : Nat) (cs : List Char) (ts : List Token) : Prop where
  ordered : ts.Pairwise fun t u => t.span.stop ≤ u.span.start
  placed : ∀ t ∈ ts, ∃ before after, cs = before ++ (t.text.toList ++ after) ∧
    t.span = ⟨offset + width before, width t.text.toList⟩ ∧ Closed t.text.toList after
  nonempty : ∀ t ∈ ts, t.text.toList ≠ []
  kind : ∀ t ∈ ts, HasKind t.text.toList t.kind
  layout : ∀ before c after, cs = before ++ c :: after →
    (isLayout c = true ↔ ∀ t ∈ ts, ¬t.span.Holds (offset + width before))

theorem add_width_append (offset : Nat) (gap word rest : List Char) :
    offset + width (gap ++ (word ++ rest)) =
      offset + width gap + width word + width rest := by
  simp only [width_append]
  omega

/-- A piece starts in the text. -/
theorem Pieces.le_start {offset : Nat} {cs : List Char} {ts : List Token}
    (h : Pieces offset cs ts) {t : Token} (ht : t ∈ ts) : offset ≤ t.span.start := by
  obtain ⟨before, after, -, hspan, -⟩ := h.placed t ht
  rw [hspan]
  exact Nat.le_add_right _ _

/-- Only layout has no pieces. -/
theorem pieces_nil {offset : Nat} {gap : List Char} (h : IsGap gap) : Pieces offset gap [] where
  ordered := .nil
  placed := by simp
  nonempty := by simp
  kind := by simp
  layout := by
    rintro before c after rfl
    simp [h c (by simp)]

/-- Behind a word that is closed stand the pieces of what follows it. -/
theorem Pieces.cons {offset : Nat} {gap word after : List Char} {ts : List Token}
    (hg : IsGap gap) (hw : IsWord word) (hc : Closed word after)
    (h : Pieces (offset + width gap + width word) after ts) :
    Pieces offset (gap ++ (word ++ after)) (.ofText (offset + width gap) word :: ts) where
  ordered := by
    refine List.pairwise_cons.2 ⟨?_, h.ordered⟩
    intro t ht
    exact h.le_start ht
  placed := by
    refine List.forall_mem_cons.2 ⟨⟨gap, after, by simp, by simp, by simpa using hc⟩, ?_⟩
    intro t ht
    obtain ⟨before, rest, rfl, hspan, hclosed⟩ := h.placed t ht
    refine ⟨gap ++ (word ++ before), rest, by simp, ?_, hclosed⟩
    rw [hspan]
    simp [Nat.add_assoc]
  nonempty := by
    refine List.forall_mem_cons.2 ⟨?_, h.nonempty⟩
    simpa using hw.ne_nil
  kind := by
    refine List.forall_mem_cons.2 ⟨?_, h.kind⟩
    simpa using hw.hasKind
  layout := by
    intro before c rest hcs
    have hpos := c.utf8Size_pos
    rcases middle_of_append hcs with ⟨mid, rfl, -⟩ | ⟨mid, rfl, hrest⟩
    · -- a character of the gap is in front of the word and of all that follows
      have hlayout := hg c (by simp)
      have hfront : offset + width before < offset + width (before ++ c :: mid) := by
        simp only [width_append, width_cons]
        omega
      simp only [hlayout, true_iff, List.forall_mem_cons]
      refine ⟨Span.not_holds_of_lt hfront, ?_⟩
      intro t ht
      have hstart := h.le_start ht
      exact Span.not_holds_of_lt (by omega)
    · rcases middle_of_append hrest with ⟨mid', rfl, -⟩ | ⟨mid', rfl, rfl⟩
      · -- a character of the word is held by it
        have hnot := hw.isLayout_eq_false (List.mem_append_right mid (List.mem_cons_self ..))
        simp only [hnot, Bool.false_eq_true, false_iff, List.forall_mem_cons, not_and]
        intro hout
        exfalso
        apply hout
        simp only [Span.Holds, Span.stop, Token.span_ofText, width_append, width_cons]
        omega
      · -- a character behind the word is none of its own
        have hlater := h.layout mid' c rest rfl
        have hout : ¬(Token.ofText (offset + width gap) word).span.Holds
            (offset + width gap + width word + width mid') :=
          Span.not_holds_of_stop_le (Nat.le_add_right _ _)
        rw [hlater, List.forall_mem_cons, add_width_append]
        exact ⟨fun hall => ⟨hout, hall⟩, And.right⟩

/-- What scanning finds are the pieces of the text. -/
theorem Scans.pieces {offset : Nat} {cs : List Char} {ts : List Token}
    (h : Scans offset cs ts) : Pieces offset cs ts := by
  induction h with
  | done hl => exact pieces_nil hl
  | word hl hw hc _ ih => exact .cons hl hw hc ih

section Uncons

variable {offset : Nat} {gap after : List Char} {t : Token} {ts : List Token}

/-- What stands in front of the first piece is layout. -/
theorem Pieces.isGap (h : Pieces offset (gap ++ (t.text.toList ++ after)) (t :: ts))
    (hspan : t.span = ⟨offset + width gap, width t.text.toList⟩) : IsGap gap := by
  intro c hc
  obtain ⟨before, mid, rfl⟩ := List.append_of_mem hc
  have hpos := c.utf8Size_pos
  apply (h.layout before c (mid ++ (t.text.toList ++ after)) (by simp)).2
  -- the first piece stands behind the gap, and the others behind the first
  have hstart : t.span.start = offset + width (before ++ c :: mid) := by
    rw [hspan]
  simp only [width_append, width_cons] at hstart
  refine List.forall_mem_cons.2 ⟨Span.not_holds_of_lt (by omega), ?_⟩
  intro u hu
  have hle : t.span.stop ≤ u.span.start := (List.pairwise_cons.1 h.ordered).1 u hu
  have hstop : t.span.start ≤ t.span.stop := Nat.le_add_right _ _
  exact Span.not_holds_of_lt (by omega)

/-- The first piece is a word, since it does not start with layout. -/
theorem Pieces.isWord (h : Pieces offset (gap ++ (t.text.toList ++ after)) (t :: ts))
    (hspan : t.span = ⟨offset + width gap, width t.text.toList⟩) : IsWord t.text.toList := by
  have hmem : t ∈ t :: ts := List.mem_cons_self ..
  refine (h.kind t hmem).isWord (h.nonempty t hmem) ?_
  intro c hc
  obtain ⟨word, hw⟩ := List.head?_eq_some_iff.1 hc
  have hpos := c.utf8Size_pos
  apply Bool.eq_false_iff.2
  intro hlayout
  refine (h.layout gap c (word ++ after) (by simp [hw])).1 hlayout t hmem ?_
  simp only [Span.Holds, Span.stop, hspan, hw, width_cons]
  omega

/-- The other pieces are those of what stands behind the first one. -/
theorem Pieces.behind (h : Pieces offset (gap ++ (t.text.toList ++ after)) (t :: ts))
    (hspan : t.span = ⟨offset + width gap, width t.text.toList⟩) :
    Pieces (offset + width gap + width t.text.toList) after ts := by
  have hlater := (List.pairwise_cons.1 h.ordered).1
  have hstop : t.span.stop = offset + width gap + width t.text.toList := by
    rw [hspan]
    rfl
  generalize t.text.toList = word at *
  exact
    { ordered := (List.pairwise_cons.1 h.ordered).2
      placed := by
        intro u hu
        obtain ⟨before, rest, hcs, huspan, huclosed⟩ := h.placed u (List.mem_cons_of_mem t hu)
        have huu := hlater u hu
        have hustart : u.span.start = offset + width before := by
          rw [huspan]
        have hle : width (gap ++ word) ≤ width before := by
          simp only [width_append]
          omega
        rw [← List.append_assoc] at hcs
        obtain ⟨mid, rfl, rfl⟩ := exists_append_of_width_le hcs hle
        refine ⟨mid, rest, rfl, ?_, huclosed⟩
        rw [huspan]
        simp [Nat.add_assoc]
      nonempty := fun u hu => h.nonempty u (List.mem_cons_of_mem t hu)
      kind := fun u hu => h.kind u (List.mem_cons_of_mem t hu)
      layout := by
        rintro before c rest rfl
        have hwhole := h.layout (gap ++ (word ++ before)) c rest (by simp)
        have hout : ¬t.span.Holds (offset + width gap + width word + width before) :=
          Span.not_holds_of_stop_le (by omega)
        rw [hwhole, List.forall_mem_cons, add_width_append]
        exact ⟨And.right, fun hall => ⟨hout, hall⟩⟩ }

end Uncons

/-- The first piece stands behind layout, and the others are those of what follows it. -/
theorem Pieces.uncons {offset : Nat} {cs : List Char} {t : Token} {ts : List Token}
    (h : Pieces offset cs (t :: ts)) :
    ∃ gap word after, cs = gap ++ (word ++ after) ∧ IsGap gap ∧ IsWord word ∧
      Closed word after ∧ t = .ofText (offset + width gap) word ∧
      Pieces (offset + width gap + width word) after ts := by
  obtain ⟨gap, after, rfl, hspan, hclosed⟩ := h.placed t (List.mem_cons_self ..)
  have hkind := (h.kind t (List.mem_cons_self ..)).eq_ofText
  have htoken : t = .ofText (offset + width gap) t.text.toList := by
    cases t
    simp_all [Token.ofText]
  exact ⟨gap, t.text.toList, after, rfl, h.isGap hspan, h.isWord hspan, hclosed, htoken,
    h.behind hspan⟩

/-- A text has no other pieces than scanning finds. -/
theorem Pieces.scans {offset : Nat} {cs : List Char} {ts : List Token}
    (h : Pieces offset cs ts) : Scans offset cs ts := by
  induction ts generalizing offset cs with
  | nil =>
    apply Scans.done
    intro c hc
    obtain ⟨before, after, rfl⟩ := List.append_of_mem hc
    exact (h.layout before c after rfl).2 (by simp)
  | cons t ts ih =>
    obtain ⟨gap, word, after, rfl, hg, hw, hc, rfl, hlater⟩ := h.uncons
    exact .word hg hw hc (ih hlater)

/-! ## §4. Partitions of a source. -/

/-- The character behind a front part of a source stands at its width. -/
theorem standsAt_iff {source : String} {front after : List Char}
    (h : source.toList = front ++ after) {c : Char} :
    StandsAt source (width front) c ↔ c ∈ after.head? := by
  unfold StandsAt
  rw [h]
  constructor
  · rintro ⟨before, rest, hcs, hw⟩
    obtain ⟨-, rfl⟩ := append_inj_of_width_eq hcs hw.symm
    rfl
  · intro hc
    obtain ⟨rest, rfl⟩ := List.head?_eq_some_iff.1 hc
    exact ⟨front, rest, rfl, rfl⟩

/-- The character behind a token of the source is the one behind its text. -/
theorem standsAt_stop_iff {source : String} {t : Token} {before after : List Char}
    (hs : source.toList = before ++ (t.text.toList ++ after))
    (ht : t.span = ⟨width before, width t.text.toList⟩) {c : Char} :
    StandsAt source t.span.stop c ↔ c ∈ after.head? := by
  have hstop : t.span.stop = width (before ++ t.text.toList) := by
    rw [ht, width_append]
    rfl
  rw [hstop]
  apply standsAt_iff
  rw [hs, List.append_assoc]

/-- The end holds no byte. -/
theorem not_holds_endToken (source : String) (i : Nat) : ¬(endToken source).span.Holds i := by
  rcases Nat.lt_or_ge i (width source.toList) with hlt | hge
  · exact Span.not_holds_of_lt hlt
  · exact Span.not_holds_of_stop_le hge

/-- Before the end, a partition of a source has its pieces. -/
theorem IsPartition.exists_pieces {source : String} {ts : List Token}
    (h : IsPartition source ts) :
    ∃ us, ts = us ++ [endToken source] ∧ Pieces 0 source.toList us := by
  obtain ⟨us, rfl, hus⟩ := h.ends
  refine ⟨us, rfl, ?_⟩
  have hmem : ∀ t ∈ us, t ∈ us ++ [endToken source] := fun t ht => List.mem_append_left _ ht
  exact
    { ordered := (List.pairwise_append.1 h.ordered).1
      placed := by
        intro t ht
        obtain ⟨before, after, hsource, hspan⟩ :=
          Span.text?_eq_some_iff.1 (h.text t (hmem t ht))
        refine ⟨before, after, hsource, by rw [hspan, Nat.zero_add], ?_⟩
        rw [(h.kind t (hmem t ht)).closed_iff]
        intro c hc
        exact h.maximal t (hmem t ht) c ((standsAt_stop_iff hsource hspan).2 hc)
      nonempty := by
        intro t ht hnil
        obtain ⟨before, after, -, hspan⟩ := Span.text?_eq_some_iff.1 (h.text t (hmem t ht))
        have hpos := h.nonempty t (hmem t ht) (hus t ht)
        rw [hspan, hnil] at hpos
        exact absurd hpos (Nat.lt_irrefl 0)
      kind := fun t ht => h.kind t (hmem t ht)
      layout := by
        intro before c after hsource
        rw [isLayout_iff, h.layout (width before) c ⟨before, after, hsource, rfl⟩, Nat.zero_add]
        constructor
        · intro hall t ht
          exact hall t (hmem t ht)
        · intro hall
          refine List.forall_mem_append.2 ⟨hall, List.forall_mem_singleton.2 ?_⟩
          exact not_holds_endToken source _ }

/-- The pieces of a source, with the end behind them, are a partition of it. -/
theorem Pieces.isPartition {source : String} {us : List Token}
    (h : Pieces 0 source.toList us) : IsPartition source (us ++ [endToken source]) := by
  have hkind : ∀ t ∈ us, t.kind ≠ .endOfInput := by
    intro t ht
    obtain ⟨c, cs, hcs⟩ := List.exists_cons_of_ne_nil (h.nonempty t ht)
    rw [(h.kind t ht).eq_ofText, hcs]
    exact TokenKind.ofText_cons_ne c cs
  exact
    { ends := ⟨us, rfl, hkind⟩
      ordered := by
        refine List.pairwise_append.2 ⟨h.ordered, List.pairwise_singleton _ _, ?_⟩
        intro t ht u hu
        obtain ⟨before, after, hsource, hspan, -⟩ := h.placed t ht
        cases List.mem_singleton.1 hu
        simp only [hspan, Span.stop, endToken, Token.endOfInput, Token.span_ofText, hsource,
          width_append]
        omega
      nonempty := by
        refine List.forall_mem_append.2 ⟨?_, List.forall_mem_singleton.2 (fun h => absurd rfl h)⟩
        intro t ht _
        obtain ⟨before, after, -, hspan, -⟩ := h.placed t ht
        rw [hspan]
        exact width_pos (h.nonempty t ht)
      text := by
        refine List.forall_mem_append.2 ⟨?_, List.forall_mem_singleton.2 ?_⟩
        · intro t ht
          obtain ⟨before, after, hsource, hspan, -⟩ := h.placed t ht
          rw [Nat.zero_add] at hspan
          exact Span.text?_eq_some_iff.2 ⟨before, after, hsource, hspan⟩
        · apply Span.text?_eq_some_iff.2
          exact ⟨source.toList, [], by simp [endToken, Token.endOfInput], rfl⟩
      kind := by
        exact List.forall_mem_append.2 ⟨h.kind, List.forall_mem_singleton.2 .endOfInput⟩
      layout := by
        rintro i c ⟨before, after, hsource, rfl⟩
        have hpieces := h.layout before c after hsource
        rw [Nat.zero_add] at hpieces
        rw [← isLayout_iff, hpieces, List.forall_mem_append]
        have hend : ∀ t ∈ [endToken source], ¬t.span.Holds (width before) :=
          List.forall_mem_singleton.2 (not_holds_endToken source _)
        exact ⟨fun hall => ⟨hall, hend⟩, And.left⟩
      maximal := by
        refine List.forall_mem_append.2 ⟨?_, List.forall_mem_singleton.2 ?_⟩
        · intro t ht c hc
          obtain ⟨before, after, hsource, hspan, hclosed⟩ := h.placed t ht
          rw [Nat.zero_add] at hspan
          rw [standsAt_stop_iff hsource hspan] at hc
          exact ((h.kind t ht).closed_iff).1 hclosed c hc
        · intro c _
          simp [endToken] }

/-! ## §5. The iterator. -/

/-- The next token is the end, or it is the first of all tokens and the others are found
behind it. -/
theorem nextFrom_cases (offset : Nat) (cs : List Char) :
    tokensFrom offset cs = [] ∧
        nextFrom offset cs = (.endOfInput (offset + width cs), ⟨offset + width cs, []⟩) ∨
      ∃ t place, nextFrom offset cs = (t, place) ∧ t.kind ≠ .endOfInput ∧
        tokensFrom offset cs = t :: tokensFrom place.offset place.rest ∧
        place.offset + width place.rest = offset + width cs := by
  fun_induction nextFrom offset cs with
  | case1 offset => exact .inl ⟨by rw [tokensFrom], rfl⟩
  | case2 offset c cs hc ih =>
    rw [tokensFrom, if_pos hc, width_cons, ← Nat.add_assoc]
    exact ih
  | case3 offset c cs hc =>
    refine .inr ⟨_, _, rfl, TokenKind.ofText_cons_ne c _, by rw [tokensFrom, if_neg hc], ?_⟩
    have hcs : width (cs.takeWhile (joins c)) + width (cs.dropWhile (joins c)) = width cs := by
      rw [← width_append, List.takeWhile_append_dropWhile]
    simp only [width_cons]
    omega

/-- After the end the iterator has no answer. -/
theorem pullAll_next_of_finished (n : Nat) (place : Cursor) :
    Scanner.pullAll (List.replicate n .next) ⟨place, true⟩ = List.replicate n none := by
  induction n with
  | zero => rfl
  | succ n ih =>
    rw [List.replicate_succ, List.replicate_succ, ← ih]
    rfl

/-- The iterator gives the tokens that stand from its place on, then the end, then
nothing. -/
theorem pullAll_next (n offset : Nat) (cs : List Char) :
    Scanner.pullAll (List.replicate n .next) ⟨⟨offset, cs⟩, false⟩ =
      (List.range n).map fun i =>
        (tokensFrom offset cs ++ [.endOfInput (offset + width cs)])[i]? := by
  induction n generalizing offset cs with
  | zero => rfl
  | succ n ih =>
    rw [List.replicate_succ, List.range_succ_eq_map, List.map_cons, List.map_map]
    rcases nextFrom_cases offset cs with ⟨hnil, hnext⟩ | ⟨t, place, hnext, hkind, hcons, hwidth⟩
    · have hpull : (Scanner.mk ⟨offset, cs⟩ false).pull .next =
          (some (.endOfInput (offset + width cs)), ⟨⟨offset + width cs, []⟩, true⟩) := by
        simp [Scanner.pull, Scanner.next?, Scanner.nextToken, hnext]
      rw [Scanner.pullAll, hpull, pullAll_next_of_finished, hnil]
      simp only [List.nil_append, List.getElem?_cons_zero]
      congr 1
      apply List.ext_getElem
      · simp
      · simp
    · have hpull : (Scanner.mk ⟨offset, cs⟩ false).pull .next = (some t, ⟨place, false⟩) := by
        simp [Scanner.pull, Scanner.next?, Scanner.nextToken, hnext, hkind]
      rw [Scanner.pullAll, hpull, ih, hcons, hwidth]
      rfl

/-! ## §6. Scanning. -/

/-- **SCANNING PARTITIONS A SOURCE, AND IN THE ONLY WAY THERE IS.**  Asked again and again,
the iterator gives the tokens of the source up to its end and then nothing.  They are a
partition of the source, and no other tokens are. -/
theorem scan_partitions (source : String) :
    (∀ n, Scanner.pullAll (List.replicate n .next) (.ofSource source) =
        (List.range n).map fun i => (scan source)[i]?) ∧
      ∀ ts, IsPartition source ts ↔ ts = scan source := by
  refine ⟨?_, ?_⟩
  · intro n
    have hpull := pullAll_next n 0 source.toList
    rwa [Nat.zero_add] at hpull
  · intro ts
    constructor
    · intro h
      obtain ⟨us, rfl, hpieces⟩ := h.exists_pieces
      rw [hpieces.scans.eq_tokensFrom]
      rfl
    · rintro rfl
      exact (scans_tokensFrom 0 source.toList).pieces.isPartition

end Calculator
