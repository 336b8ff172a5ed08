/-
# Brackets and comments of a line of code

A line of code is scanned for what matters to its block structure: the comment at its end and the
brackets that it opens and closes.  String literals hide both.  A quote without a partner on the
line is passed over; a triple quote without a partner ends the scan.
-/
import ViewEngine.Text.Pieces

namespace ViewEngine.Brackets

/-- What a scan stops at. -/
inductive Mark where
  /-- A string literal that ends on the line. -/
  | string
  /-- A comment. -/
  | comment
  /-- An opening bracket. -/
  | opening (c : Char)
  /-- A closing bracket. -/
  | closing
  /-- The rest of the line, which is not looked at: it begins with a triple quote that has no
  partner, with a string that goes on behind the line, or with the line's end. -/
  | rest
deriving DecidableEq, Repr

/-- What a string behind its opening quote `q` is, and how many characters it takes, the closing quote
included; a backslash takes the next character with it.  A backslash at the end of a line lets the
string go on behind the line, so that the whole rest of the line belongs to it. -/
def stringBody? (q : Char) : Text → Option (Mark × Nat)
  | [] => none
  | [c] => if c = q then some (.string, 1) else none
  | c :: d :: cs =>
    if c = '\\' then
      if d = '\n' ∨ d = '\r' ∧ cs.head? = some '\n' then some (.rest, cs.length + 2)
      else (stringBody? q cs).map fun p => (p.1, p.2 + 2)
    else if c = q then some (.string, 1)
    else if c = '\n' then none
    else (stringBody? q (d :: cs)).map fun p => (p.1, p.2 + 1)

/-- How many characters a triple-quoted string takes behind its opening quotes. -/
def tripleLength? (q : Char) : Text → Option Nat
  | c :: d :: e :: cs =>
    if c = '\\' then if d = '\n' then none else (tripleLength? q (e :: cs)).map (· + 2)
    else if c = q ∧ d = q ∧ e = q then some 3
    else if c = '\n' then none
    else (tripleLength? q (d :: e :: cs)).map (· + 1)
  | _ => none

/-- The string literal that begins with the quote `q` in front of the text. -/
def stringAt? (q : Char) (t : Text) : Option (Mark × Nat) :=
  match Text.after? [q, q] t with
  | some r =>
    match tripleLength? q r with
    | some n => some (.string, n + 3)
    | none => some (.rest, t.length + 1)
  | none => (stringBody? q t).map fun p => (p.1, p.2 + 1)

/-- What begins at the front of the text, if it matters. -/
def mark? : Text.Matcher Mark
  | [] => none
  | c :: cs =>
    if c = '#' then some (.comment, (cs.takeWhile fun d => d ≠ '\r' ∧ d ≠ '\n').length + 1)
    else if c = '(' ∨ c = '[' ∨ c = '{' then some (.opening c, 1)
    else if c = ')' ∨ c = ']' ∨ c = '}' then some (.closing, 1)
    else if c = '\'' ∨ c = '"' then stringAt? c cs
    else if c = '\n' then some (.rest, cs.length + 1)
    else none

/-- The open brackets, innermost last, after a mark: a closing bracket closes the innermost one,
whatever its kind. -/
def step (pending : List Char) : Mark → List Char
  | .opening c => pending ++ [c]
  | .closing => pending.dropLast
  | _ => pending

/-- A scanned line. -/
structure Scan where
  /-- The line without its comment. -/
  code : Text
  /-- The brackets open behind it, innermost last. -/
  pending : List Char
deriving DecidableEq, Repr

/-- The text in front of the last comment, if there is a comment. -/
def beforeComment? (seen : Text) : List (Text.Piece Mark) → Option Text
  | [] => none
  | p :: ps =>
    match beforeComment? (seen ++ p.text) ps with
    | some t => some t
    | none => match p with
      | .found .comment _ => some seen
      | _ => none

/-- The blanks in front of what is written on a line: spaces, tabs and form feeds. -/
def indentation (line : Text) : Text :=
  line.takeWhile fun c => c = ' ' || c = '\t' || c = '\x0c'

/-- Scans a line in front of which the brackets `pending` are open.  Where none is, a line that begins
with a comment is nothing but that comment, and one that begins with a carriage return is not looked
at. -/
def scan (line : Text) (pending : List Char) : Scan :=
  let blanks := indentation line
  let first := (line.drop blanks.length).head?
  if pending.isEmpty && first = some '#' then ⟨blanks, pending⟩
  else if pending.isEmpty && first = some '\r' then ⟨line, pending⟩
  else
    let ps := Text.pieces mark? line
    { code := (beforeComment? [] ps).getD line
      pending := (ps.filterMap fun | .found m _ => some m | .plain _ => none).foldl step pending }

end ViewEngine.Brackets
