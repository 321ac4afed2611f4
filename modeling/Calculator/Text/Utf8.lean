/-
  Calculator.Text.Utf8
  ────────────────────
  **TEXT AS BYTES.**

  Source positions count the bytes of the UTF-8 form, and input and output are
  bytes.  This module measures characters in bytes (`width`), cuts a text at a
  byte offset, and writes and reads the UTF-8 form itself.

  Main statements: a cut at a character boundary gives back the two parts
  (`dropBytes?_append`, `takeBytes?_append`), the written form is as long as
  the text is wide (`length_encode`), and reading accepts exactly what writing
  produces (`decode?_eq_some_iff`).
-/

namespace Calculator.Text

/-! ## §1. Width and cuts. -/

/-- How many bytes the characters take. -/
def width (cs : List Char) : Nat := cs.foldr (fun c n => c.utf8Size + n) 0

@[simp] theorem width_nil : width [] = 0 := rfl

@[simp] theorem width_cons (c : Char) (cs : List Char) :
    width (c :: cs) = c.utf8Size + width cs := rfl

@[simp] theorem width_append (cs ds : List Char) : width (cs ++ ds) = width cs + width ds := by
  induction cs with
  | nil => simp
  | cons c cs ih => rw [List.cons_append, width_cons, width_cons, ih, Nat.add_assoc]

/-- What follows the first `n` bytes; `none` if they end inside a character or
behind the text. -/
def dropBytes? : Nat → List Char → Option (List Char)
  | 0, cs => some cs
  | _ + 1, [] => none
  | n + 1, c :: cs => if c.utf8Size ≤ n + 1 then dropBytes? (n + 1 - c.utf8Size) cs else none

/-- The characters in the first `n` bytes; `none` if they end inside a character
or behind the text. -/
def takeBytes? : Nat → List Char → Option (List Char)
  | 0, _ => some []
  | _ + 1, [] => none
  | n + 1, c :: cs =>
    if c.utf8Size ≤ n + 1 then (takeBytes? (n + 1 - c.utf8Size) cs).map (c :: ·) else none

theorem dropBytes?_append (cs ds : List Char) : dropBytes? (width cs) (cs ++ ds) = some ds := by
  induction cs with
  | nil => simp [dropBytes?]
  | cons c cs ih =>
    have hc := c.utf8Size_pos
    obtain ⟨k, hk⟩ : ∃ k, width (c :: cs) = k + 1 := ⟨width (c :: cs) - 1, by simp; omega⟩
    have hk' : k + 1 - c.utf8Size = width cs := by simp at hk; omega
    rw [hk, List.cons_append, dropBytes?, if_pos (by simp at hk; omega), hk', ih]

theorem takeBytes?_append (cs ds : List Char) : takeBytes? (width cs) (cs ++ ds) = some cs := by
  induction cs with
  | nil => simp [takeBytes?]
  | cons c cs ih =>
    have hc := c.utf8Size_pos
    obtain ⟨k, hk⟩ : ∃ k, width (c :: cs) = k + 1 := ⟨width (c :: cs) - 1, by simp; omega⟩
    have hk' : k + 1 - c.utf8Size = width cs := by simp at hk; omega
    rw [hk, List.cons_append, takeBytes?, if_pos (by simp at hk; omega), hk', ih, Option.map_some]

/-! ## §2. The UTF-8 form. -/

/-- The UTF-8 form of a text. -/
def encode (text : String) : List UInt8 := text.toList.flatMap String.utf8EncodeChar

/-- The text whose UTF-8 form the bytes are, if there is one. -/
def decode? (bytes : List UInt8) : Option String := String.fromUTF8? bytes.toByteArray

@[simp] theorem encode_append (s t : String) : encode (s ++ t) = encode s ++ encode t := by
  simp [encode]

theorem length_encode (text : String) : (encode text).length = width text.toList := by
  unfold encode
  induction text.toList with
  | nil => rfl
  | cons c cs ih =>
    rw [List.flatMap_cons, List.length_append, ih, width_cons, String.length_utf8EncodeChar]

theorem toByteArray_encode (text : String) : (encode text).toByteArray = text.toByteArray := by
  conv => rhs; rw [← String.ofList_toList (s := text), String.toByteArray_ofList]
  rfl

theorem decode?_encode (text : String) : decode? (encode text) = some text := by
  simp only [decode?, toByteArray_encode, String.fromUTF8?, dif_pos text.isValidUTF8]
  rfl

theorem decode?_eq_some_iff {bytes : List UInt8} {text : String} :
    decode? bytes = some text ↔ bytes = encode text := by
  refine ⟨fun h => ?_, fun h => h ▸ decode?_encode text⟩
  simp only [decode?, String.fromUTF8?] at h
  split at h
  · have h' : bytes.toByteArray = (encode text).toByteArray := by
      rw [toByteArray_encode, ← Option.some.inj h]; rfl
    simpa using congrArg (fun b : ByteArray => b.data.toList) h'
  · exact absurd h (by simp)

end Calculator.Text
