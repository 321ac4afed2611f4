/-
  Calculator.Number
  ─────────────────
  **INTEGERS OF 32 BITS AND THEIR DECIMAL TEXT.**

  Values are the integers from -2^31 to 2^31 - 1.  A result is computed
  exactly and then kept only if it is one of them (`fit?`).  A number is
  written with as few digits as possible and read with an optional sign and any
  number of leading zeros.

  Main statements: `fit?` keeps a number exactly if it is in range
  (`fit?_eq_some_iff`, `fit?_eq_none_iff`), and what is written reads back
  (`read?_write`).
-/

namespace Calculator.Number

/-! ## §1. The range. -/

/-- The value `n`, if it is in the range of 32 bits. -/
def fit? (n : Int) : Option Int32 :=
  if -2147483648 ≤ n ∧ n ≤ 2147483647 then some (.ofInt n) else none

theorem fit?_eq_some_iff {n : Int} {v : Int32} : fit? n = some v ↔ v.toInt = n := by
  simp only [fit?]
  constructor
  · intro h
    split at h
    · next hn => rw [← Option.some.inj h, Int32.toInt_ofInt_of_le (by omega) (by omega)]
    · exact absurd h (by simp)
  · rintro rfl
    have hlow := v.le_toInt
    have hhigh := v.toInt_lt
    rw [if_pos (by omega), Int32.ofInt_toInt]

@[simp] theorem fit?_toInt (v : Int32) : fit? v.toInt = some v := fit?_eq_some_iff.2 rfl

theorem fit?_eq_none_iff {n : Int} : fit? n = none ↔ n < -2147483648 ∨ 2147483647 < n := by
  simp only [fit?]
  split <;> simp <;> omega

/-! ## §2. Reading. -/

/-- The number that a nonempty run of decimal digits denotes. -/
def ofDigits? (cs : List Char) : Option Nat :=
  if cs ≠ [] ∧ cs.all Char.isDigit then some (Nat.ofDigitChars 10 cs 0) else none

/-- The number that digits denote behind an optional sign. -/
def ofSigned? : List Char → Option Int
  | '+' :: cs => (ofDigits? cs).map Int.ofNat
  | '-' :: cs => (ofDigits? cs).map fun n : Nat => -Int.ofNat n
  | cs => (ofDigits? cs).map Int.ofNat

/-- The value that a decimal text denotes, if it is one and in range. -/
def read? (cs : List Char) : Option Int32 := (ofSigned? cs).bind fit?

/-! ## §3. Writing. -/

/-- The shortest decimal text of a value. -/
def write (v : Int32) : String :=
  if v.toInt < 0 then "-" ++ Nat.repr v.toInt.natAbs else Nat.repr v.toInt.natAbs

private theorem all_isDigit_toDigits (n : Nat) : (Nat.toDigits 10 n).all Char.isDigit = true := by
  simpa using fun c hc => Nat.isDigit_of_mem_toDigits (by decide) (by decide) hc

theorem ofDigits?_toDigits (n : Nat) : ofDigits? (Nat.toDigits 10 n) = some n := by
  rw [ofDigits?, if_pos ⟨Nat.toDigits_ne_nil, all_isDigit_toDigits n⟩,
    Nat.ofDigitChars_ten_toDigits]

/-- Digits without a sign are read as they are. -/
theorem ofSigned?_of_digits {cs : List Char} (h : cs.all Char.isDigit = true) :
    ofSigned? cs = (ofDigits? cs).map Int.ofNat := by
  unfold ofSigned?
  split
  · simp at h
  · simp at h
  · rfl

theorem read?_write (v : Int32) : read? (write v).toList = some v := by
  rw [read?, write]
  split
  · next h =>
    have hn : -Int.ofNat v.toInt.natAbs = v.toInt := by simp only [Int.ofNat_eq_natCast]; omega
    rw [String.toList_append, Nat.toList_repr]
    show ((ofDigits? (Nat.toDigits 10 _)).map fun n : Nat => -Int.ofNat n).bind fit? = some v
    rw [ofDigits?_toDigits, Option.map_some, hn, Option.bind_some, fit?_toInt]
  · next h =>
    have hn : Int.ofNat v.toInt.natAbs = v.toInt := by simp only [Int.ofNat_eq_natCast]; omega
    rw [Nat.toList_repr, ofSigned?_of_digits (all_isDigit_toDigits _), ofDigits?_toDigits,
      Option.map_some, hn, Option.bind_some, fit?_toInt]

end Calculator.Number
