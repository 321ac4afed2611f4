/-
  Calculator.Token
  ────────────────
  **THE WORDS OF A SOURCE TEXT.**

  A token is a piece of the source with its kind and its place.  The kind is a
  function of the text alone (`TokenKind.ofText`): a letter starts a word, a
  digit starts a number, and every other character stands for itself.  Letters
  and digits are the ASCII ones.
-/
import Calculator.Span

namespace Calculator

/-! ## §1. Kinds. -/

/-- What role a piece of the source can play. -/
inductive TokenKind where
  /-- The end of the source. -/
  | endOfInput
  /-- A character that plays no role. -/
  | unknown
  | identifier
  | number
  | comma
  | colon
  | plus
  | minus
  | star
  | slash
  | leftParen
  | rightParen
  /-- The word `with`, which opens a declaration. -/
  | withKeyword
  deriving DecidableEq, Repr, Inhabited

namespace TokenKind

/-- What messages call the kind. -/
def display : TokenKind → String
  | endOfInput => "end of input"
  | unknown => "unknown character"
  | identifier => "identifier"
  | number => "number"
  | comma => "','"
  | colon => "':'"
  | plus => "'+'"
  | minus => "'-'"
  | star => "'*'"
  | slash => "'/'"
  | leftParen => "'('"
  | rightParen => "')'"
  | withKeyword => "'with'"

/-- The short code of the kind in log records. -/
def code : TokenKind → String
  | endOfInput => "Eoi"
  | unknown => "Unknown"
  | identifier => "Ident"
  | number => "Number"
  | comma => "Comma"
  | colon => "Colon"
  | plus => "Plus"
  | minus => "Minus"
  | star => "Star"
  | slash => "Slash"
  | leftParen => "LParen"
  | rightParen => "RParen"
  | withKeyword => "KwWith"

/-- The kind of a character that is neither a letter nor a digit. -/
def ofChar : Char → TokenKind
  | ',' => comma
  | ':' => colon
  | '+' => plus
  | '-' => minus
  | '*' => star
  | '/' => slash
  | '(' => leftParen
  | ')' => rightParen
  | _ => unknown

/-- The word that opens a declaration. -/
def withText : List Char := ['w', 'i', 't', 'h']

/-- The kind of a piece of the source; only the end of the source has no text. -/
def ofText : List Char → TokenKind
  | [] => endOfInput
  | c :: cs =>
    if c.isAlpha then if c :: cs = withText then withKeyword else identifier
    else if c.isDigit then number
    else ofChar c

end TokenKind

/-! ## §2. Tokens. -/

/-- A piece of the source: its kind, its text and its place. -/
structure Token where
  kind : TokenKind
  text : String
  span : Span
  deriving DecidableEq, Repr, Inhabited

namespace Token

/-- The token that the piece `text` at the byte `offset` makes. -/
def ofText (offset : Nat) (text : List Char) : Token :=
  ⟨.ofText text, .ofList text, ⟨offset, Text.width text⟩⟩

/-- The end of a source of `size` bytes: a token without text. -/
def endOfInput (size : Nat) : Token := ofText size []

/-- How messages refer to the token. -/
def describe (t : Token) : String :=
  match t.kind with
  | .endOfInput => "end of input"
  | _ => "'" ++ t.text ++ "'"

@[simp] theorem kind_ofText (offset : Nat) (text : List Char) :
    (ofText offset text).kind = .ofText text := rfl

@[simp] theorem text_ofText (offset : Nat) (text : List Char) :
    (ofText offset text).text = .ofList text := rfl

@[simp] theorem span_ofText (offset : Nat) (text : List Char) :
    (ofText offset text).span = ⟨offset, Text.width text⟩ := rfl

@[simp] theorem kind_endOfInput (size : Nat) : (endOfInput size).kind = .endOfInput := rfl

end Token
end Calculator
