/-
  Calculator.Proofs.Seams
  ───────────────────────
  **LAYOUT CUTS A SOURCE INTO SOURCES.**

  A token takes no layout in, and none goes on behind it.  So a source with layout somewhere
  in it is scanned like two sources: what is in front as if nothing followed, and what is
  behind as if nothing came before, only further on.  From text to text this is carried on to
  any number of texts with layout between them, up to places.

  Main statements:
    * `Scans.across`                — the rules of scanning on the two sides of some layout;
    * `map_word_tokens_intercalate` — texts that are joined by layout have their own tokens;
    * `scan_across_layout`          — with the places, and for the tokens of a source that are
      joined by spaces.
-/
import Calculator.Proofs.Layout
import Calculator.Proofs.Lexeme
import Calculator.Proofs.Scanning

namespace Calculator

open Text (width width_append)

/-! ## §1. Two texts. -/

/-- Layout between two texts keeps the tokens of both as they are. -/
theorem Scans.across {offset : Nat} {front gap back : List Char} {us vs : List Token}
    (hfront : Scans offset front us) (hg : IsGap gap) (hne : gap ≠ [])
    (hback : Scans (offset + width front + width gap) back vs) :
    Scans offset (front ++ (gap ++ back)) (us ++ vs) := by
  cases gap with
  | nil => exact absurd rfl hne
  | cons c gap =>
    -- the text behind starts as the layout does
    exact hfront.append (hback.behind_layout hg) hg.isAlphanum_head

/-- The tokens behind some layout are those of the text that stands there, moved on. -/
theorem tokens_across {gap : String} (hg : IsGap gap.toList) (hne : gap ≠ "")
    (front back : String) :
    tokens (front ++ gap ++ back) =
      tokens front ++
        (tokens back).map (Token.moved (width front.toList + width gap.toList)) := by
  have hfront : Scans 0 front.toList (tokens front) := scans_tokensFrom 0 front.toList
  have hback : Scans (0 + width front.toList + width gap.toList) back.toList
      ((tokens back).map (Token.moved (width front.toList + width gap.toList))) := by
    rw [Nat.zero_add]
    exact (scans_tokensFrom 0 back.toList).moved _
  have hwhole := hfront.across hg (mt String.toList_eq_nil_iff.1 hne) hback
  rw [tokens, String.toList_append, String.toList_append, List.append_assoc]
  exact hwhole.eq_tokensFrom.symm

/-- And the end of the source is the end of that text, moved on. -/
theorem endToken_append (front back : String) :
    endToken (front ++ back) = (endToken back).moved (width front.toList) := by
  rw [endToken, String.toList_append, width_append]
  rfl

/-! ## §2. Any number of texts. -/

/-- A token says the same wherever it stands. -/
theorem map_word_moved (n : Nat) (ts : List Token) :
    (ts.map (Token.moved n)).map Token.word = ts.map Token.word := by
  rw [List.map_map]
  rfl

/-- Texts that are joined by layout have the tokens that each has alone. -/
theorem map_word_tokens_intercalate {gap : String} (hg : IsGap gap.toList) (hne : gap ≠ "")
    (texts : List String) :
    (tokens (gap.intercalate texts)).map Token.word =
      texts.flatMap fun text => (tokens text).map Token.word := by
  induction texts with
  | nil => simp [tokens, tokensFrom]
  | cons text later ih =>
    cases later with
    | nil => simp
    | cons next later =>
      rw [String.intercalate_cons_cons, tokens_across hg hne, List.map_append, map_word_moved, ih]
      rfl

/-- The text of a token is scanned as this token again. -/
theorem map_word_tokens_text {source : String} {t : Token} (h : t ∈ tokens source) :
    (tokens t.text).map Token.word = [t.word] := by
  obtain ⟨place, c, word, rfl, hlayout, hjoins⟩ := mem_tokensFrom h
  have hword : IsWord (c :: word) := ⟨hlayout, hjoins⟩
  have hclosed : Closed (c :: word) [] := by simp [Closed]
  have hscan : Scans 0 (c :: word) [.ofText 0 (c :: word)] := by
    simpa using Scans.word isGap_nil hword hclosed (.done isGap_nil)
  rw [tokens, Token.text_ofText, String.toList_ofList, ← hscan.eq_tokensFrom]
  rfl

/-- The texts of the tokens of a source, joined by layout, are scanned as these tokens again. -/
theorem map_word_tokens_texts {gap : String} (hg : IsGap gap.toList) (hne : gap ≠ "")
    (source : String) :
    (tokens (gap.intercalate ((tokens source).map Token.text))).map Token.word =
      (tokens source).map Token.word :=
  calc (tokens (gap.intercalate ((tokens source).map Token.text))).map Token.word
    _ = ((tokens source).map Token.text).flatMap fun text => (tokens text).map Token.word :=
      map_word_tokens_intercalate hg hne _
    _ = (tokens source).flatMap fun t => (tokens t.text).map Token.word := List.flatMap_map ..
    _ = (tokens source).flatMap fun t => [t.word] :=
      congrArg List.flatten (List.map_congr_left fun _ ht => map_word_tokens_text ht)
    _ = (tokens source).map Token.word := List.map_eq_flatMap.symm

/-! ## §3. Sources. -/

/-- **LAYOUT CUTS A SOURCE INTO SOURCES.**  With some layout between two texts, the tokens of
the whole are those of the first, without its end, and then those of the second, each as many
bytes further on as the first text and the layout take.  So the texts of the tokens of any
source, joined by single spaces, have the same kinds and texts again. -/
theorem scan_across_layout :
    (∀ front gap back : String, gap ≠ "" →
      (∀ c ∈ gap.toList, c ∈ [' ', '\t', '\x0c', '\x0b', '\r', '\n']) →
        scan (front ++ gap ++ back) =
          tokens front ++ (scan back).map (Token.moved (width front.toList + width gap.toList))) ∧
      ∀ source : String,
        (scan (" ".intercalate ((tokens source).map Token.text))).map Token.word =
          (scan source).map Token.word := by
  refine ⟨?across, ?joined⟩
  case across =>
    intro front gap back hne hlayout
    have hg : IsGap gap.toList := fun c hc => isLayout_iff.2 (hlayout c hc)
    have hend : endToken (front ++ gap ++ back) =
        (endToken back).moved (width front.toList + width gap.toList) := by
      rw [endToken_append, String.toList_append, width_append]
    rw [scan, tokens_across hg hne, hend, scan, List.map_append, List.append_assoc]
    rfl
  case joined =>
    intro source
    have hspace : IsGap " ".toList := List.forall_mem_singleton.2 rfl
    rw [scan, scan, List.map_append, List.map_append,
      map_word_tokens_texts hspace (by decide)]
    rfl

/-- The layout ends a number before a digit, and the character in front of it takes two bytes;
without the layout the two digits are one number. -/
theorem scan_across_layout_digits :
    scan "with é1\n\t2b" =
        [⟨.withKeyword, "with", ⟨0, 4⟩⟩, ⟨.unknown, "é", ⟨5, 2⟩⟩, ⟨.number, "1", ⟨7, 1⟩⟩,
          ⟨.number, "2", ⟨10, 1⟩⟩, ⟨.identifier, "b", ⟨11, 1⟩⟩, ⟨.endOfInput, "", ⟨12, 0⟩⟩] ∧
      (tokens "with é12b").map Token.text = ["with", "é", "12", "b"] := by
  have hne : "\n\t" ≠ "" := by decide
  have hlayout : ∀ c ∈ "\n\t".toList, c ∈ [' ', '\t', '\x0c', '\x0b', '\r', '\n'] :=
    List.forall_mem_cons.2 ⟨by decide, List.forall_mem_singleton.2 (by decide)⟩
  have hscan := scan_across_layout.1 "with é1" "\n\t" "2b" hne hlayout
  refine ⟨hscan.trans ?_, by decide +kernel⟩
  decide +kernel

end Calculator
