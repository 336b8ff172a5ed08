/-
# Lines

Three notions of line occur.  Positions in a view count line feeds only.  A snippet cuts its source
at every character that ends a line on some terminal or printer.  A file read from disk has each of
the three usual line ends turned into a line feed.
-/
import ViewEngine.Text.Basic

namespace ViewEngine.Text

/-- The pieces of the text between line feeds; always at least one. -/
def cutAtLineFeeds : Text → List Text
  | [] => [[]]
  | c :: cs =>
    if c = '\n' then [] :: cutAtLineFeeds cs
    else match cutAtLineFeeds cs with
      | [] => [[c]]
      | l :: ls => (c :: l) :: ls

theorem cutAtLineFeeds_ne_nil (t : Text) : cutAtLineFeeds t ≠ [] := by
  cases t with
  | nil => simp [cutAtLineFeeds]
  | cons c cs =>
    rw [cutAtLineFeeds]
    split
    · simp
    · split <;> simp

/-- Does the character end a line wherever it stands?  (A carriage return and a line feed after it
end one line together.) -/
def endsLine (c : Char) : Bool :=
  c = '\n' || c = '\r' || c.toNat = 0x0b || c.toNat = 0x0c
    || (0x1c ≤ c.toNat && c.toNat ≤ 0x1e) || c.toNat = 0x85
    || c.toNat = 0x2028 || c.toNat = 0x2029

/-- The lines of the text, without their ends.  A line end at the very end of the text begins no
further line. -/
def lines : Text → List Text
  | [] => []
  | [c] => if endsLine c then [[]] else [[c]]
  | c :: d :: cs =>
    if c = '\r' ∧ d = '\n' then [] :: lines cs
    else if endsLine c then [] :: lines (d :: cs)
    else match lines (d :: cs) with
      | [] => [[c]]
      | l :: ls => (c :: l) :: ls

/-- The text with a carriage return, alone or with a line feed after it, made a line feed. -/
def unifyLineEnds : Text → Text
  | [] => []
  | [c] => if c = '\r' then ['\n'] else [c]
  | c :: d :: cs =>
    if c = '\r' then
      if d = '\n' then '\n' :: unifyLineEnds cs else '\n' :: unifyLineEnds (d :: cs)
    else c :: unifyLineEnds (d :: cs)

/-- What follows one line break (CR LF, CR or LF) at the front of the text. -/
def afterLineBreak? : Text → Option Text
  | '\r' :: '\n' :: cs => some cs
  | '\r' :: cs => some cs
  | '\n' :: cs => some cs
  | _ => none

/-- The number of lines that reading the text as a program counts up to its end: line breaks of all
three kinds, each counted once. -/
def lineBreaks : Text → Nat
  | [] => 0
  | [c] => if c = '\r' ∨ c = '\n' then 1 else 0
  | c :: d :: cs =>
    if c = '\r' ∧ d = '\n' then lineBreaks cs + 1
    else (if c = '\r' ∨ c = '\n' then 1 else 0) + lineBreaks (d :: cs)

end ViewEngine.Text
