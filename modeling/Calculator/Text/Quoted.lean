/-
  Calculator.Text.Quoted
  ──────────────────────
  **TEXT IN DOUBLE QUOTES.**

  Where a message repeats what someone typed, it does so in double quotes and
  without characters that could mislead: a quote and a backslash get a backslash
  in front, the usual controls have short names, and whatever cannot be shown as
  it is appears as its code point in hexadecimal.
-/
import Calculator.Text.Graphic

namespace Calculator.Text

/-- The code point of a character in braces: the fewest lowercase hexadecimal
digits. -/
def codePoint (c : Char) : String :=
  "\\u\x7b" ++ String.ofList (Nat.toDigits 16 c.toNat) ++ "\x7d"

/-- One character inside quotes. -/
def escape (c : Char) : String :=
  match c with
  | '\x00' => "\\0"
  | '\t' => "\\t"
  | '\n' => "\\n"
  | '\r' => "\\r"
  | '"' => "\\\""
  | '\\' => "\\\\"
  | c => if isGraphic c then String.singleton c else codePoint c

/-- A text in double quotes. -/
def quote (text : String) : String := "\"" ++ String.join (text.toList.map escape) ++ "\""

end Calculator.Text
