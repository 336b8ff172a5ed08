/-
# Tokens of the script language

The code that views embed, and that the generator writes, is a script in an indentation-structured
language.  This file cuts a script into tokens.  A line break outside brackets ends a logical line;
the indentation of the next one is compared with the indentations that are open.  Inside brackets
line breaks and indentation mean nothing.

Cutting can fail.  Some failures are reported wherever they stand; others only if nothing before
them is wrong, and then a bracket that was never closed takes their place.
-/
import ViewEngine.Text.Lines
import ViewEngine.Text.Normal
import ViewEngine.Text.Quoted
import ViewEngine.Text.Word

namespace ViewEngine.Script

/-- What a token is. -/
inductive TokenKind where
  /-- An identifier. -/
  | name (id : Text)
  /-- A reserved word. -/
  | keyword (word : Text)
  /-- A whole number, and with how many digits it is written if these are decimal. -/
  | int (value count : Nat)
  /-- A number with a fraction or an exponent: digits times a power of ten. -/
  | float (digits : Nat) (exponent : Int)
  /-- A string literal: is it raw, is it formatted, and what stands between its quotes. -/
  | string (raw formatted : Bool) (body : Text)
  /-- An operator, a bracket or a separator. -/
  | op (symbol : Text)
  /-- A character that means nothing. -/
  | stray (c : Char)
  /-- The end of a logical line. -/
  | newline
  /-- The beginning of a block. -/
  | indent
  /-- The end of a block. -/
  | dedent
  /-- The end of the script. -/
  | finish
deriving DecidableEq, Repr

/-- A token. -/
structure Token where
  /-- What it is. -/
  kind : TokenKind
  /-- The line on which it begins. -/
  line : Nat
  /-- How many brackets are open behind it. -/
  level : Nat := 0
deriving DecidableEq, Repr

/-- How the cutting into tokens ended. -/
inductive Ending where
  /-- All was cut. -/
  | complete
  /-- A fault on a line that is reported wherever it stands. -/
  | fault (line : Nat)
  /-- A fault that is reported only if nothing before it is wrong, with the line of the innermost
  open bracket. -/
  | stuck (line : Nat) (bracketLine : Option Nat)
deriving DecidableEq, Repr

/-- The tokens of a script. -/
structure Tokens where
  /-- The tokens before the end or the first fault. -/
  list : List Token
  /-- How it ended. -/
  ending : Ending
deriving Repr

/-- The reserved words. -/
def keywords : List Text :=
  ["False", "None", "True", "and", "as", "assert", "async", "await", "break", "class", "continue",
   "def", "del", "elif", "else", "except", "finally", "for", "from", "global", "if", "import", "in",
   "is", "lambda", "nonlocal", "not", "or", "pass", "raise", "return", "try", "while", "with",
   "yield"].map String.toList

/-- Operators of three characters, then of two; the first that fits is taken. -/
def longOperators : List Text :=
  ["**=", "...", "//=", "<<=", ">>=", "!=", "%=", "&=", "**", "*=", "+=", "-=", "->", "//", "/=",
   ":=", "<<", "<=", "<>", "==", ">=", ">>", "@=", "^=", "|="].map String.toList

/-- Operators of one character. -/
def shortOperators : Text := "%&*+,-./:;<=>@^|~"

/-- The deepest nesting of indentations, the outermost one counted. -/
def indentLimit : Nat := 99

/-- The deepest nesting of brackets. -/
def bracketLimit : Nat := 200

/-- The most decimal digits that a whole number can have. -/
def digitLimit : Nat := 4300

/-- May the character belong to an identifier, as far as the first look goes? -/
def isNameLike (c : Char) : Bool := c.isAlphanum || c = '_' || 128 ≤ c.toNat

/-! ### Numbers -/

/-- Digits with single underscores between them: their value, how many, and what follows.  `none` if
an underscore is not followed by a digit. -/
def digitsFrom (isDigit : Char → Bool) (base : Nat) :
    Nat → Nat → Text → Option (Nat × Nat × Text)
  | value, count, [] => some (value, count, [])
  | value, count, c :: cs =>
    if isDigit c then digitsFrom isDigit base (value * base + digitValue c) (count + 1) cs
    else if c = '_' then
      match cs with
      | d :: ds =>
        if isDigit d then digitsFrom isDigit base (value * base + digitValue d) (count + 1) ds
        else none
      | [] => none
    else some (value, count, c :: cs)
where
  /-- The value of a digit. -/
  digitValue (c : Char) : Nat :=
    if c.isDigit then c.toNat - 48 else c.toLower.toNat - 87

/-- Words that may follow a number without a blank. -/
def afterNumberWords : List Text := ["and", "else", "for", "if", "in", "is", "or", "not"]

/-- May the text follow a number?  A letter that is not ASCII may. -/
def endsNumber (t : Text) : Bool :=
  match t with
  | [] => true
  | c :: _ => !isNameLike c || 128 ≤ c.toNat || afterNumberWords.any fun w => Text.startsWith w t

/-- Is the character a digit in base `base`? -/
def isDigitIn (base : Nat) (c : Char) : Bool :=
  if base = 16 then c.isDigit || ('a' ≤ c.toLower && c.toLower ≤ 'f')
  else c.isDigit && c.toNat < 48 + base

/-- A number behind `0x`, `0o` or `0b`. -/
def basedNumber (base : Nat) (t : Text) : Option (TokenKind × Text) :=
  let t := if t.head? = some '_' then t.tail else t
  match t with
  | c :: _ =>
    if isDigitIn base c then
      match digitsFrom (isDigitIn base) base 0 0 t with
      | some (v, _, r) =>
        if (r.head?.any Char.isDigit) || !endsNumber r then none else some (.int v 0, r)
      | none => none
    else none
  | [] => none

/-- The exponent of a number, if one follows: its value and what follows it. -/
def exponentAt (t : Text) : Option (Option (Int × Text)) :=
  match t with
  | e :: rest =>
    if e = 'e' ∨ e = 'E' then
      let (negative, signed, ds) := match rest with
        | '+' :: ds => (false, true, ds)
        | '-' :: ds => (true, true, ds)
        | ds => (false, false, ds)
      if ds.head?.any Char.isDigit then
        match digitsFrom Char.isDigit 10 0 0 ds with
        | some (v, _, r) => some (some (if negative then -(v : Int) else v, r))
        | none => none
      else if signed then none
      else some none
    else some none
  | [] => some none

/-- A number that begins with `count` digits of value `whole`, or with a point. -/
def decimalRest (whole count : Nat) (zeros : Bool) (t : Text) : Option (TokenKind × Text) := do
  let (digits, scale, isFloat, t) ← match t with
    | '.' :: ds =>
      if ds.head?.any Char.isDigit then
        match digitsFrom Char.isDigit 10 whole 0 ds with
        | some (v, n, r) => some (v, n, true, r)
        | none => none
      else some (whole, 0, true, ds)
    | _ => some (whole, 0, false, t)
  let (exponent, isFloat, t) ← match ← exponentAt t with
    | some (e, r) => some (e, true, r)
    | none => some (0, isFloat, t)
  if !endsNumber t then none
  else if isFloat then some (.float digits (exponent - scale), t)
  else if zeros && digits ≠ 0 then none
  else some (.int digits (if zeros then 0 else count), t)

/-- The number at the front of a text that begins with a digit, or with a point and a digit. -/
def numberAt (t : Text) : Option (TokenKind × Text) :=
  match t with
  | '0' :: c :: rest =>
    if c = 'x' ∨ c = 'X' then basedNumber 16 rest
    else if c = 'o' ∨ c = 'O' then basedNumber 8 rest
    else if c = 'b' ∨ c = 'B' then basedNumber 2 rest
    else match digitsFrom Char.isDigit 10 0 0 t with
      | some (v, n, r) => decimalRest v n true r
      | none => none
  | '.' :: _ => decimalRest 0 0 false t
  | _ =>
    match digitsFrom Char.isDigit 10 0 0 t with
    | some (v, n, r) => decimalRest v n false r
    | none => none

/-! ### Strings -/

/-- The body of a string up to its closing quotes, and the length of the body and the quotes.  A
backslash takes the next character with it; a string in single quotes ends before the line does. -/
def stringBody? (quote : Char) (triple : Bool) : Text → Option (Text × Nat)
  | [] => none
  | [c] => if c = quote && !triple then some ([], 1) else none
  | c :: d :: rest =>
    if c = '\\' then (stringBody? quote triple rest).map fun p => (c :: d :: p.1, p.2 + 2)
    else if triple then
      if c = quote ∧ d = quote ∧ rest.head? = some quote then some ([], 3)
      else (stringBody? quote triple (d :: rest)).map fun p => (c :: p.1, p.2 + 1)
    else if c = quote then some ([], 1)
    else if c = '\n' then none
    else (stringBody? quote triple (d :: rest)).map fun p => (c :: p.1, p.2 + 1)

/-- The letters that may stand in front of a string, in lower case. -/
def stringLetters : List Text := ["", "b", "f", "r", "u", "br", "rb", "fr", "rf"]

/-- The string literal at the front of the text and its length, if a quote stands there, perhaps
behind letters. -/
def stringAt? (t : Text) : Option (Option (TokenKind × Nat)) :=
  let letters := t.takeWhile Char.isAlpha
  let small := letters.map Char.toLower
  if stringLetters.contains small then
    match t.drop letters.length with
    | q :: rest =>
      if q = '\'' ∨ q = '"' then
        let triple := Text.startsWith [q, q] rest
        let opening := if triple then 3 else 1
        some ((stringBody? q triple (rest.drop (opening - 1))).map fun p =>
          (.string (small.contains 'r') (small.contains 'f') p.1, letters.length + opening + p.2))
      else none
    | [] => none
  else none

/-! ### Cutting -/

/-- The blanks at the front of a line, measured in two ways. -/
structure Margin where
  /-- The width if a tab leads to the next multiple of eight. -/
  wide : Nat := 0
  /-- The width if a tab counts like a blank. -/
  narrow : Nat := 0
deriving DecidableEq, Repr

/-- The state between two tokens. -/
structure LexState where
  /-- The line. -/
  line : Nat := 1
  /-- The open indentations, innermost first, without the outermost one of zero. -/
  indents : List Margin := []
  /-- The open brackets with their lines, innermost first. -/
  brackets : List (Char × Nat) := []
  /-- Does a logical line begin here? -/
  lineStart : Bool := true
deriving Repr

/-- Is the character a blank between tokens? -/
def isGap (c : Char) : Bool := c = ' ' || c = '\t' || c = '\x0c'

/-- How an indentation relates to the open ones: the number of blocks it closes, and whether it
opens one; `none` if it fits none, or if that depends on the width of tabs. -/
def indentChange (m : Margin) : List Margin → Option (Nat × Bool)
  | [] => if (m.wide = 0) = (m.narrow = 0) then some (0, 0 < m.wide) else none
  | w :: rest =>
    if w.wide < m.wide then if w.narrow < m.narrow then some (0, true) else none
    else if w.wide = m.wide then if w.narrow = m.narrow then some (0, false) else none
    else match indentChange m rest with
      | some (n, false) => some (n + 1, false)
      | _ => none

/-- The bracket that a closing bracket closes. -/
def partner (c : Char) : Char :=
  if c = ')' then '(' else if c = ']' then '[' else '{'

/-- The outcome of looking at the front of a text. -/
inductive Look where
  /-- Characters that make no token. -/
  | skip (count : Nat) (state : LexState)
  /-- A token. -/
  | token (kind : TokenKind) (count : Nat) (state : LexState)
  /-- A fault. -/
  | stop (ending : Ending)

/-- The line of the innermost open bracket. -/
def LexState.bracketLine (s : LexState) : Option Nat := s.brackets.head?.map (·.2)

/-- An identifier, a reserved word or a string at the front of the text. -/
def lookName (s : LexState) (t : Text) : Look :=
  let word := t.takeWhile isNameLike
  if keywords.contains word then .token (.keyword word) word.length s
  else if word.all fun c => c.toNat < 128 then .token (.name word) word.length s
  else if Text.isIdentifier word then .token (.name (Text.compatible word)) word.length s
  else .stop (.fault s.line)

/-- A token of so many characters, some of which may be line feeds. -/
def lookCut (s : LexState) (t : Text) (kind : TokenKind) (count : Nat) : Look :=
  .token kind count { s with line := s.line + Text.lineFeeds (t.take count) }

/-- A bracket, an operator or a stray character at the front of the text. -/
def lookSymbol (s : LexState) (c : Char) (cs : Text) : Look :=
  if c = '(' ∨ c = '[' ∨ c = '{' then
    if bracketLimit ≤ s.brackets.length then .stop (.fault s.line)
    else .token (.op [c]) 1 { s with brackets := (c, s.line) :: s.brackets }
  else if c = ')' ∨ c = ']' ∨ c = '}' then
    match s.brackets with
    | (b, _) :: rest =>
      if b = partner c then .token (.op [c]) 1 { s with brackets := rest }
      else .stop (.fault s.line)
    | [] => .stop (.fault s.line)
  else match longOperators.find? fun o => Text.startsWith o (c :: cs) with
    | some o => .token (.op o) o.length s
    | none =>
      if shortOperators.contains c then .token (.op [c]) 1 s
      else if Text.isPrintable c then .token (.stray c) 1 s
      else .stop (.fault s.line)

/-- What stands at the front of a text that begins no logical line. -/
def look (s : LexState) (c : Char) (cs : Text) : Look :=
  if isGap c then .skip 1 s
  else if c = '#' then .skip (cs.takeWhile (· ≠ '\n')).length.succ s
  else if c = '\n' then
    let next := { s with line := s.line + 1, lineStart := s.brackets.isEmpty }
    if s.brackets.isEmpty then .token .newline 1 next else .skip 1 next
  else if c = '\\' then
    match cs with
    | '\n' :: rest =>
      if rest.isEmpty then .stop (.stuck (s.bracketLine.getD s.line) s.bracketLine)
      else .skip 2 { s with line := s.line + 1 }
    | _ => .stop (.stuck s.line s.bracketLine)
  else if c.isDigit || (c = '.' && cs.head?.any Char.isDigit) then
    match numberAt (c :: cs) with
    | some (k, rest) => lookCut s (c :: cs) k (cs.length + 1 - rest.length)
    | none => .stop (.fault s.line)
  else match stringAt? (c :: cs) with
    | some (some (k, count)) => lookCut s (c :: cs) k count
    | some none => .stop (.fault s.line)
    | none => if isNameLike c then lookName s (c :: cs) else lookSymbol s c cs

/-- What stands at the front of a logical line. -/
structure Front where
  /-- How many characters the blanks and the joins of lines take. -/
  count : Nat := 0
  /-- How many line breaks are among them. -/
  breaks : Nat := 0
  /-- The blanks since the last form feed. -/
  margin : Margin := {}
  /-- The width in front of the first join of lines, which then counts alone. -/
  joined : Nat := 0
  /-- Does a backslash stand in the way? -/
  stuck : Bool := false

/-- Measures the front of a logical line. -/
def Front.measure (f : Front) : Text → Front
  | [] => f
  | c :: cs =>
    let next := { f with count := f.count + 1 }
    if c = ' ' then
      measure { next with margin := { wide := f.margin.wide + 1, narrow := f.margin.narrow + 1 } } cs
    else if c = '\t' then
      measure { next with
        margin := { wide := (f.margin.wide / 8 + 1) * 8, narrow := f.margin.narrow + 1 } } cs
    else if c = '\x0c' then measure { next with margin := {} } cs
    else if c = '\\' then
      match cs with
      | '\n' :: rest =>
        if rest.isEmpty then { f with stuck := true }
        else measure { next with
          count := f.count + 2
          breaks := f.breaks + 1
          joined := if f.joined = 0 then f.margin.wide else f.joined } rest
      | _ => { f with stuck := true }
    else f

/-- The indentation of the line. -/
def Front.indentation (f : Front) : Margin :=
  if f.joined = 0 then f.margin else { wide := f.joined, narrow := f.joined }

/-- The beginning of a logical line: nothing but blanks and perhaps a comment, or the blocks that
its indentation closes and opens. -/
inductive LineStart where
  /-- A line without tokens, of so many characters, with line breaks before its last one. -/
  | blank (count breaks : Nat)
  /-- The blocks closed and whether one is opened, on a line that lies some line breaks below. -/
  | code (closed : Nat) (opens : Bool) (margin : Margin) (breaks : Nat)
  /-- An indentation that fits no open block, or one too many, some line breaks below. -/
  | misfit (breaks : Nat)

/-- Looks at the beginning of a logical line. -/
def lineStart (s : LexState) (t : Text) : LineStart :=
  let f := Front.measure {} t
  if f.stuck then .misfit f.breaks
  else match t.drop f.count with
    | '\n' :: _ => .blank (f.count + 1) f.breaks
    | '#' :: cs => .blank (f.count + 2 + (cs.takeWhile (· ≠ '\n')).length) f.breaks
    | _ =>
      match indentChange f.indentation s.indents with
      | none => .misfit f.breaks
      | some (n, opens) =>
        if opens && indentLimit ≤ s.indents.length then .misfit f.breaks
        else .code n opens f.indentation f.breaks

/-- Puts tokens in front. -/
def Tokens.push (ts : List Token) (rest : Tokens) : Tokens := { rest with list := ts ++ rest.list }

/-- The tokens of a text; the first `skip` characters belong to an earlier token. -/
def lexFrom : Nat → LexState → Text → Tokens
  | _, s, [] =>
    let last := s.line - 1
    if s.brackets.isEmpty then
      { list := s.indents.map (fun _ => ⟨.dedent, last, 0⟩) ++ [⟨.finish, last, 0⟩]
        ending := .complete }
    else { list := [], ending := .stuck (s.bracketLine.getD last) s.bracketLine }
  | skip + 1, s, _ :: cs => lexFrom skip s cs
  | 0, s, c :: cs =>
    match if s.lineStart then lineStart s (c :: cs) else .code 0 false {} 0 with
    | .blank n breaks => lexFrom (n - 1) { s with line := s.line + breaks + 1 } cs
    | .misfit breaks => ⟨[], .stuck (s.line + breaks) none⟩
    | .code closed opens margin breaks =>
      let line := s.line + breaks
      let marks := List.replicate closed ⟨.dedent, line, 0⟩ ++
        if opens then [⟨.indent, line, 0⟩] else []
      let s := { s with
        lineStart := false
        indents := (if opens then [margin] else []) ++ s.indents.drop closed }
      match look s c cs with
      | .skip n next => (lexFrom (n - 1) next cs).push marks
      | .token k n next =>
        (lexFrom (n - 1) next cs).push (marks ++ [⟨k, s.line, next.brackets.length⟩])
      | .stop e => ⟨marks, e⟩

/-- A script with every line ended, and by a line feed. -/
def closedLines (t : Text) : Text :=
  let t := Text.unifyLineEnds t
  if t.getLast? = some '\n' then t else t ++ ['\n']

/-- The tokens of a script whose first line has the given number. -/
def lex (line : Nat) (t : Text) : Tokens := lexFrom 0 { line } (closedLines t)

end ViewEngine.Script
