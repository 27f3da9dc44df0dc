import Landform.Text.Printable

/-! # Quoted text

Text between double quotes. Quotes, backslashes and the common controls have short escapes, and
every other character that does not show as a mark of its own is given by its code point. -/

namespace Landform.Text

/-- The lower-case hexadecimal digits of `n`, without leading zeros. -/
def hex (n : Nat) : String := String.ofList (Nat.toDigits 16 n)

/-- The last `width` hexadecimal digits of `n`, in lower case. -/
def hexPadded (width n : Nat) : String :=
  String.ofList ((List.range width).reverse.map fun i => Nat.digitChar (n / Nat.pow 16 i % 16))

/-- Which of the two quotes are escaped inside quoted text. -/
inductive QuoteStyle where
  /-- The double quote alone. -/
  | double
  /-- The double and the single quote. -/
  | both
  deriving DecidableEq, Repr

/-- One character inside quoted text. -/
def escape (style : QuoteStyle) (c : Char) : String :=
  match c with
  | '\x00' => "\\0"
  | '\t' => "\\t"
  | '\r' => "\\r"
  | '\n' => "\\n"
  | '\\' => "\\\\"
  | '"' => "\\\""
  | '\'' => if style = .both then "\\'" else "'"
  | c => if isPrintable c then c.toString else "\\u\x7b" ++ hex c.toNat ++ "\x7d"

/-- The text between quotes, with escapes where they are due. -/
def quote (style : QuoteStyle) (s : String) : String :=
  "\"" ++ String.join (s.toList.map (escape style)) ++ "\""

end Landform.Text
