import Csp.Text.Printable

/-!
# Quoted text

A text inside a larger message is written between quotes and on one line:
apostrophes enclose it, unless it holds an apostrophe and no quotation mark,
when quotation marks do. Inside, a backslash marks the enclosing quote, the
backslash itself, and every character that is not printable.
-/
namespace Csp.Text

/-- The apostrophe, the usual quote. -/
def apostrophe : Char := '\x27'

/-- The quotation mark, which takes over where only apostrophes occur inside. -/
def quotationMark : Char := '\x22'

/-- The quote that needs fewer escapes, with the apostrophe preferred. -/
def enclosingQuote (text : List Char) : Char :=
  if text.contains apostrophe && !text.contains quotationMark then quotationMark else apostrophe

/-- A hexadecimal digit in lower case. -/
def hexDigit (n : Nat) : Char := Nat.digitChar n

/-- The last `width` hexadecimal digits of a number, padded with zeros. -/
def hexDigits : (width : Nat) → Nat → List Char
  | 0, _ => []
  | width + 1, n => hexDigits width (n / 16) ++ [hexDigit (n % 16)]

/-- A code point by number: two, four or eight digits, whichever is the shortest that holds it. The
letter in front of the digits tells how many there are. -/
def escapeByNumber (c : Char) : List Char :=
  if c.toNat < 0x100 then '\x5c' :: 'x' :: hexDigits 2 c.toNat
  else if c.toNat < 0x10000 then '\x5c' :: 'u' :: hexDigits 4 c.toNat
  else '\x5c' :: 'U' :: hexDigits 8 c.toNat

/-- One character between the given quotes. -/
def escape (quote c : Char) : List Char :=
  if c = quote ∨ c = '\x5c' then ['\x5c', c]
  else if c = '\n' then ['\x5c', 'n']
  else if c = '\r' then ['\x5c', 'r']
  else if c = '\t' then ['\x5c', 't']
  else if isPrintable c then [c]
  else escapeByNumber c

/-- The text between its quotes. -/
def quoted (text : String) : String :=
  let quote := enclosingQuote text.toList
  .ofList (quote :: text.toList.flatMap (escape quote) ++ [quote])

end Csp.Text
