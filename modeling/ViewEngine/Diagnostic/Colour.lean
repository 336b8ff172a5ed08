/-
# Terminal colours

Diagnostics are coloured with escape sequences when colours are on.  `Colour.strip` takes every
escape sequence out of a text again, whoever wrote it.
-/
import ViewEngine.Text.Pieces

namespace ViewEngine

/-- A text style of the terminal. -/
inductive Style where
  | reset | bold | dim | cyan | green | yellow | brightRed
deriving DecidableEq, Repr

namespace Style

/-- The number that selects the style. -/
def parameter : Style → Text
  | reset => "0"
  | bold => "1"
  | dim => "2"
  | cyan => "36"
  | green => "32"
  | yellow => "33"
  | brightRed => "91"

/-- The sequence that switches the style on. -/
def sequence (s : Style) : Text := '\x1b' :: '[' :: s.parameter ++ ['m']

/-- The name under which a style is asked for. -/
def name : Style → Text
  | reset => "reset"
  | bold => "bold"
  | dim => "dim"
  | cyan => "cyan"
  | green => "green"
  | yellow => "yellow"
  | brightRed => "bright_red"

/-- All styles. -/
def all : List Style := [reset, bold, dim, cyan, green, yellow, brightRed]

/-- The style of a name. -/
def named? (n : Text) : Option Style := all.find? fun s => s.name = n

end Style

namespace Colour

/-- Colours are on when they are forced, else off when they are refused, else on at a terminal.  An
empty setting counts as none. -/
def wanted (force refuse : Option Text) (terminal : Bool) : Bool :=
  if force.any (!·.isEmpty) then true
  else if refuse.any (!·.isEmpty) then false
  else terminal

/-- The text in the given styles, if colours are on and a style is given. -/
def paint (on : Bool) (styles : List Style) (t : Text) : Text :=
  if !on || styles.isEmpty then t
  else styles.flatMap Style.sequence ++ t ++ Style.reset.sequence

/-- The style of an error code. -/
def errorCode (on : Bool) (t : Text) : Text := paint on [.brightRed, .bold] t

/-- The style of a location. -/
def location (on : Bool) (t : Text) : Text := paint on [.cyan] t

/-- The style of a hint. -/
def hint (on : Bool) (t : Text) : Text := paint on [.green] t

/-- The style of secondary text. -/
def dimmed (on : Bool) (t : Text) : Text := paint on [.dim] t

/-- Is the code point of `c` between `lo` and `hi`? -/
def between (lo hi : Nat) (c : Char) : Bool := lo ≤ c.toNat && c.toNat ≤ hi

/-- The length of the escape sequence at the front of the text: the escape character with one
character of `@`…`Z`, `\`, `]`, `^` or `_`, or with a bracket, parameter characters, intermediate
characters and one final character. -/
def sequenceAt? : Text.Matcher Unit
  | '\x1b' :: '[' :: t =>
    let rest := t.dropWhile (between 0x30 0x3f)
    let rest := rest.dropWhile (between 0x20 0x2f)
    match rest with
    | f :: rest => if between 0x40 0x7e f then some ((), t.length + 2 - rest.length) else none
    | [] => none
  | '\x1b' :: c :: _ => if between 0x40 0x5a c || between 0x5c 0x5f c then some ((), 2) else none
  | _ => none

/-- The text without its escape sequences. -/
def strip (t : Text) : Text := Text.replaceAll sequenceAt? (fun _ _ => []) t

end Colour
end ViewEngine
