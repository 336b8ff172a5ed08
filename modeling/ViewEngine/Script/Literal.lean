/-
# Literals of scripts

What the characters between the quotes of a string literal mean.  A backslash begins an escape; a
backslash at the end of a line joins it to the next; a backslash before any other character stands
for itself.

In a formatted string an expression in braces stands for its value, and doubled braces stand for
single ones.  Behind the expression may stand an equals sign, which shows the expression as well,
and an exclamation mark with the letter of a conversion.
-/
import ViewEngine.Script.Syntax
import ViewEngine.Text.Escape

namespace ViewEngine.Script

/-- The text that the body of a string literal stands for. -/
def unescape? (raw : Bool) (t : Text) : Option Text :=
  if raw then some t else Text.unescapeFrom (some ['\\']) 0 t

/-- A piece of the body of a formatted string. -/
inductive Piece where
  /-- Text as it is written. -/
  | text (written : Text)
  /-- An expression: how many line breaks lie before its brace, how it is written, the text that is
  shown before its value, and how that is converted. -/
  | hole (breaks : Nat) (written shown : Text) (conversion : Conversion)

/-- The pieces of the body of a formatted string up to the first fault, if there is one. -/
structure Cut where
  /-- The pieces. -/
  pieces : List Piece
  /-- Was the whole body cut? -/
  complete : Bool

namespace Cut

/-- How a run of text ends. -/
inductive RunEnd where
  /-- At the end of the body. -/
  | finished
  /-- At a doubled brace, behind which the text follows. -/
  | doubled (rest : Text)
  /-- At a brace, behind which an expression follows. -/
  | opened (rest : Text)
  /-- At a closing brace that stands alone. -/
  | alone

/-- Puts characters in front of a run of text. -/
def before (cs : Text) (r : Text × RunEnd) : Text × RunEnd := (cs ++ r.1, r.2)

/-- What a brace in a run of text means; `cs` is what follows it. -/
def atBrace (c : Char) (cs : Text) : Text × RunEnd :=
  match cs with
  | d :: rest =>
    if d = c then ([c], .doubled rest) else ([], if c = '{' then .opened cs else .alone)
  | [] => ([], if c = '{' then .opened cs else .alone)

/-- Is the character a brace? -/
def isBrace (c : Char) : Bool := c = '{' || c = '}'

/-- The run of text at the front of a body; `named` says whether the front is a part of an escape
that names a character. -/
def run (raw named : Bool) : Text → Text × RunEnd
  | [] => ([], .finished)
  | c :: cs =>
    if named then before [c] (run raw (c ≠ '}') cs)
    else if isBrace c then atBrace c cs
    else if c = '\\' && !raw then
      match cs with
      | 'N' :: '{' :: rest => before [c, 'N', '{'] (run raw true rest)
      | d :: rest =>
        if isBrace d then before [c] (atBrace d rest) else before [c, d] (run raw false rest)
      | [] => ([c], .finished)
    else before [c] (run raw false cs)

/-- Where in an expression a character stands. -/
structure Position where
  /-- The quote of the string around it, and whether it is tripled. -/
  quote : Option (Char × Bool) := none
  /-- The open brackets around it, innermost first. -/
  stack : List Char := []

/-- The bracket that a closing bracket closes. -/
def partner (c : Char) : Char :=
  if c = ')' then '(' else if c = ']' then '[' else '{'

/-- The expression at the front of a text and what follows it; `none` if it does not end. -/
def expression (p : Position) : Nat → Text → Option (Text × Text)
  | skip + 1, c :: cs => (expression p skip cs).map fun r => (c :: r.1, r.2)
  | _, [] => none
  | 0, c :: cs =>
    let keep (p : Position) (skip : Nat) := (expression p skip cs).map fun r => (c :: r.1, r.2)
    let tripled := cs.take 2 = [c, c]
    if c = '\\' then none
    else match p.quote with
      | some (q, triple) =>
        if c ≠ q || (triple && !tripled) then keep p 0
        else keep { p with quote := none } (if triple then 2 else 0)
      | none =>
        if c = '\'' || c = '"' then
          keep { p with quote := some (c, tripled) } (if tripled then 2 else 0)
        else if c = '(' || c = '[' || c = '{' then
          if 200 ≤ p.stack.length then none else keep { p with stack := c :: p.stack } 0
        else if c = '#' then none
        else match p.stack with
          | [] =>
            if (c = '!' || c = '=' || c = '<' || c = '>') && cs.head? = some '=' then keep p 1
            else if c = '!' || c = ':' || c = '}' || c = '=' then some ([], c :: cs)
            else if c = ')' || c = ']' then none
            else keep p 0
          | open' :: rest =>
            if c = ')' || c = ']' || c = '}' then
              if open' = partner c then keep { p with stack := rest } 0 else none
            else keep p 0

/-- Does the text hold nothing but blanks of the language? -/
def isVoid (t : Text) : Bool := t.all fun c => c = ' ' || c = '\t' || c = '\n' || c = '\x0c'

/-- Is the character an ASCII blank? -/
def isSpace (c : Char) : Bool := c = ' ' || (9 ≤ c.toNat && c.toNat ≤ 13)

/-- The conversion of a letter. -/
def conversion? (c : Char) : Option Conversion :=
  match c with
  | 's' => some .plain
  | 'r' => some .quoted
  | 'a' => some .ascii
  | _ => none

/-- The conversion at the front of a text, if one stands there, and what follows it. -/
def conversionAt (t : Text) : Option (Option Conversion × Text) :=
  match t with
  | '!' :: c :: rest => (conversion? c).map fun k => (some k, rest)
  | ['!'] => none
  | _ => some (none, t)

/-- What stands behind an expression up to the brace: the text shown before the value, the conversion
and what follows the brace. -/
def closing (written t : Text) : Option (Text × Conversion × Text) := do
  let (shown, t) := match t with
    | '=' :: rest =>
      let blanks := rest.takeWhile isSpace
      (written ++ '=' :: blanks, rest.drop blanks.length)
    | _ => ([], t)
  let (k, t) ← conversionAt t
  let t := match t with
    | ':' :: rest => rest
    | _ => t
  match t with
  | '}' :: rest => some (shown, k.getD (if shown.isEmpty then .plain else .quoted), rest)
  | _ => none

/-- The pieces of a body behind some line breaks; there are at most so many. -/
def piecesFrom (raw : Bool) : Nat → Nat → Text → Cut
  | 0, _, _ => ⟨[], false⟩
  | n + 1, breaks, t =>
    let add (p : Piece) (c : Cut) : Cut := { c with pieces := p :: c.pieces }
    let (written, e) := run raw false t
    let breaks' := breaks + Text.lineFeeds written
    let withText (c : Cut) : Cut := if written.isEmpty then c else add (.text written) c
    match e with
    | .finished => withText ⟨[], true⟩
    | .alone => ⟨[], false⟩
    | .doubled rest => withText (piecesFrom raw n breaks' rest)
    | .opened rest =>
      withText (match expression {} 0 rest with
        | none => ⟨[], false⟩
        | some (e, tail) =>
          if isVoid e then ⟨[], false⟩
          else match closing e tail with
            | none => ⟨[.hole breaks' e [] .plain], false⟩
            | some (shown, k, after) =>
              let passed := e ++ tail.take (tail.length - after.length)
              add (.hole breaks' e shown k) (piecesFrom raw n (breaks' + Text.lineFeeds passed) after))

/-- Cuts the body of a formatted string. -/
def ofBody (raw : Bool) (t : Text) : Cut := piecesFrom raw (t.length + 1) 0 t

end Cut

end ViewEngine.Script
