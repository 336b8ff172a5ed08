/-
# String literals of generated code

A text is put into generated code between double quotes, with the characters escaped that would end
the literal or its line.
-/
import ViewEngine.Text.Basic

namespace ViewEngine.Literal

/-- How a character is written in a literal. -/
def escapeChar (c : Char) : Text :=
  if c = '\\' then "\\\\"
  else if c = '\n' then "\\n"
  else if c = '\r' then "\\r"
  else if c = '"' then "\\\""
  else if c = '\x00' then "\\x00"
  else [c]

/-- The text as it is written in a literal. -/
def escape (t : Text) : Text := Text.expand escapeChar t

theorem escape_append (s t : Text) : escape (s ++ t) = escape s ++ escape t :=
  Text.expand_append _ s t

end ViewEngine.Literal
