/-
# Quoted texts

The quoted form in which a text appears inside a list, in a key error and in messages about names.
It is enclosed in single quotes, or in double quotes when it holds single quotes and no double ones;
the enclosing quote and the backslash are escaped, and so is every character that does not print.
-/
import ViewEngine.Text.Basic
import ViewEngine.Text.PrintableTable

namespace ViewEngine.Text

/-- Is the character shown as itself? -/
def isPrintable (c : Char) : Bool :=
  if c.toNat < 128 then 32 ≤ c.toNat && c.toNat < 127 else printableRanges.has c

/-- The last `width` hexadecimal digits of a number, in lower case. -/
def hexDigits : Nat → Nat → Text
  | 0, _ => []
  | width + 1, n => hexDigits width (n / 16) ++ [Nat.digitChar (n % 16)]

/-- The escape of a character by its code point, as short as it can be. -/
def escapeByCode (n : Nat) : Text :=
  if n < 0x100 then '\\' :: 'x' :: hexDigits 2 n
  else if n < 0x10000 then '\\' :: 'u' :: hexDigits 4 n
  else '\\' :: 'U' :: hexDigits 8 n

/-- One character of a text enclosed in `quote`. -/
def quotedChar (quote c : Char) : Text :=
  if c = quote ∨ c = '\\' then ['\\', c]
  else if c = '\n' then ['\\', 'n']
  else if c = '\r' then ['\\', 'r']
  else if c = '\t' then ['\\', 't']
  else if isPrintable c then [c]
  else escapeByCode c.toNat

/-- The quote that encloses the text. -/
def quoteFor (t : Text) : Char :=
  if t.contains '\'' && !t.contains '"' then '"' else '\''

/-- The quoted form of the text. -/
def quoted (t : Text) : Text :=
  quoteFor t :: expand (quotedChar (quoteFor t)) t ++ [quoteFor t]

/-- The text with all characters outside ASCII escaped. -/
def asciiOnly (t : Text) : Text :=
  expand (fun c => if c.toNat < 128 then [c] else escapeByCode c.toNat) t

end ViewEngine.Text
