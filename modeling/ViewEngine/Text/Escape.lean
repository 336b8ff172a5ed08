/-
# Escapes

A backslash begins an escape: a letter for a control character, digits for a code point, or a
quote or backslash that stands for itself.  A backslash at the end of a line joins it to the next;
a backslash before any other character stands for itself.
-/
import ViewEngine.Text.Basic

namespace ViewEngine.Text

/-- The value of a hexadecimal digit. -/
def hexDigit? (c : Char) : Option Nat :=
  if c.isDigit then some (c.toNat - 48)
  else if 'a' ≤ c.toLower ∧ c.toLower ≤ 'f' then some (c.toLower.toNat - 87)
  else none

/-- The number written in so many hexadecimal digits at the front of a text. -/
def hexNumber? : Nat → Nat → Text → Option Nat
  | 0, value, _ => some value
  | _ + 1, _, [] => none
  | n + 1, value, c :: cs => (hexDigit? c).bind fun d => hexNumber? n (value * 16 + d) cs

/-- The number written in at most so many octal digits at the front of a text, and how many there
are. -/
def octalNumber : Nat → Nat → Nat → Text → Nat × Nat
  | 0, count, value, _ => (value, count)
  | _, count, value, [] => (value, count)
  | n + 1, count, value, c :: cs =>
    if '0' ≤ c ∧ c ≤ '7' then octalNumber n (count + 1) (value * 8 + (c.toNat - 48)) cs
    else (value, count)

/-- The escapes of one character. -/
def simpleEscape? (c : Char) : Option Text :=
  match c with
  | '\n' => some []
  | '\\' => some ['\\']
  | '\'' => some ['\'']
  | '"' => some ['"']
  | 'a' => some ['\x07']
  | 'b' => some ['\x08']
  | 'f' => some ['\x0c']
  | 'n' => some ['\n']
  | 'r' => some ['\r']
  | 't' => some ['\t']
  | 'v' => some ['\x0b']
  | _ => none

/-- The text that an escape at the front stands for, without its backslash, and how many characters
it takes; `none` if it is malformed. -/
def escape? (c : Char) (cs : Text) : Option (Text × Nat) :=
  match simpleEscape? c with
  | some t => some (t, 1)
  | none =>
    if '0' ≤ c ∧ c ≤ '7' then
      let o := octalNumber 3 0 0 (c :: cs)
      some ([Char.ofNat o.1], o.2)
    else
      let width := if c = 'x' then 2 else if c = 'u' then 4 else if c = 'U' then 8 else 0
      if width = 0 then if c = 'N' then none else some (['\\', c], 1)
      else match hexNumber? width 0 cs with
        | some n => if n < 0x110000 then some ([Char.ofNat n], width + 1) else none
        | none => none

/-- The text that a text with escapes stands for; `last` is what a backslash at its very end stands
for, and the first `skip` characters belong to an earlier escape. -/
def unescapeFrom (last : Option Text) : Nat → Text → Option Text
  | _, [] => some []
  | skip + 1, _ :: cs => unescapeFrom last skip cs
  | 0, c :: cs =>
    if c = '\\' then
      match cs with
      | d :: ds =>
        match escape? d ds with
        | some (t, n) => (unescapeFrom last n (d :: ds)).map (t ++ ·)
        | none => none
      | [] => last
    else (unescapeFrom last 0 cs).map (c :: ·)

end ViewEngine.Text
