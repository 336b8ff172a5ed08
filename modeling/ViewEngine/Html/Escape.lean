/-
# Escaping for markup

The five characters that mean something in markup are replaced by their entities, each by itself, so
that the text of a value cannot end the place it is put into.
-/
import ViewEngine.Text.Basic

namespace ViewEngine.Html

/-- A character as it is written in markup. -/
def escapeChar (c : Char) : Text :=
  if c = '&' then "&amp;"
  else if c = '<' then "&lt;"
  else if c = '>' then "&gt;"
  else if c = '"' then "&#34;"
  else if c = '\'' then "&#39;"
  else [c]

/-- A text as it is written in markup. -/
def escape (t : Text) : Text := Text.expand escapeChar t

theorem escape_append (s t : Text) : escape (s ++ t) = escape s ++ escape t :=
  Text.expand_append _ s t

end ViewEngine.Html
