/-
# From tokens to code

The generator reads the tokens of a view from left to right.  Markers switch its mode; a run of text
becomes statements according to the mode:

* outside tags and in literal mode, one statement that appends the text;
* in an output tag, one statement that appends the value of the expression, escaped or raw;
* in a code tag, the lines of code, re-indented by their block structure;
* in a comment, nothing.

A code line that ends in a colon opens a block, a line `end` closes one, and a line that begins
with `else`, `elif`, `except` or `finally` closes one and opens the next.  Lines inside open
brackets are never looked at in this way.
-/
import ViewEngine.Code.Brackets
import ViewEngine.Code.Listing
import ViewEngine.Code.Literal
import ViewEngine.Diagnostic.ViewError
import ViewEngine.Markup.Token
import ViewEngine.Text.Blank
import ViewEngine.Text.Word

namespace ViewEngine

/-- How the text between markers is read. -/
inductive Mode where
  /-- Text outside tags. -/
  | plain
  /-- Code. -/
  | eval
  /-- An expression whose value is escaped. -/
  | escaped
  /-- An expression whose value is appended as it is. -/
  | raw
  /-- A comment. -/
  | comment
  /-- Text behind `<%%`. -/
  | literal
deriving DecidableEq, Repr

/-- The mode that an open marker switches to. -/
def Marker.mode? : Marker → Option Mode
  | .openEval | .openEvalSlurp => some .eval
  | .openEscaped => some .escaped
  | .openRaw => some .raw
  | .openComment => some .comment
  | .openLiteral => some .literal
  | .closeLiteral | .close | .closeTrim | .closeSlurp => none

/-- Why no code can be generated. -/
inductive GenerationFault where
  /-- An open marker is not followed by its text and a close marker. -/
  | unmatchedTag (tag : Text) (line : Int)
  /-- An output tag holds no expression. -/
  | noExpression (line : Int) (generated : Text)
  /-- A block is closed where none is open. -/
  | unexpectedEnd (line : Int) (generated : Text)
deriving DecidableEq, Repr

/-- The fault as an error about a view. -/
def GenerationFault.toError (name source : Option Text) : GenerationFault → ViewError
  | unmatchedTag tag line => .unmatchedTag tag { line, name, source }
  | noExpression line generated =>
    .uncompilable "Output tag has no expression" { line, name, source } generated .compileError
  | unexpectedEnd line generated =>
    .uncompilable "'end' without an open block" { line, name, source } generated .unexpectedEnd

/-- The state of the generator between two tokens. -/
structure Generator where
  /-- The code so far. -/
  listing : Listing := {}
  /-- How the next text is read. -/
  mode : Mode := .plain
  /-- Does the next literal text lose a line break at its front? -/
  trim : Bool := false
  /-- The brackets that code lines have left open. -/
  pending : List Char := []
deriving DecidableEq, Repr

/-- Where a generator stopped, and why. -/
structure Halt where
  /-- The state that was reached. -/
  state : Generator
  /-- The reason. -/
  fault : GenerationFault
deriving DecidableEq, Repr

/-- The text without a semicolon that only blanks follow. -/
def stripSemicolon (t : Text) : Text :=
  let tail := (t.reverse.takeWhile Text.isBlank).reverse
  match t.reverse.dropWhile Text.isBlank with
  | ';' :: front => front.reverse ++ tail
  | _ => t

/-- Is the code line, without blanks at its ends, one that closes a block? -/
def isEndLine (line : Text) : Bool :=
  match Text.after? "end" line with
  | none => false
  | some r =>
    let r := Text.stripLeft r
    let r := Text.stripLeft ((Text.after? ";" r).getD r)
    r.isEmpty || Text.startsWith "#" r

/-- The words that close one clause of a block and open the next. -/
def clauseWords : List Text := ["else", "elif", "except", "finally"]

/-- Does the code line begin with a word that continues a block? -/
def isClauseLine (line : Text) : Bool :=
  clauseWords.any fun w =>
    match Text.after? w line with
    | some (c :: _) => !Text.isWordChar c
    | some [] => true
    | none => false

/-- Does the code without its comment end in a colon? -/
def opensBlock (code : Text) : Bool := (Text.stripRight code).getLast? = some ':'

/-- Does the text have a `#` on its last line?  Then a line feed has to follow it, so that a comment
does not hide what is put behind the text. -/
def mayEndInComment (t : Text) : Bool := (t.reverse.takeWhile (· ≠ '\n')).contains '#'

/-- The text, closed with a line feed if it may end in a comment. -/
def closeComment (t : Text) : Text := if mayEndInComment t then t ++ ['\n'] else t

/-- The statement that appends a text. -/
def appendLiteral (t : Text) : Text := "_append(\"" ++ Literal.escape t ++ "\")"

/-- The statement that appends the escaped value of an expression. -/
def appendEscaped (e : Text) : Text := "_append(escape(" ++ e ++ "))"

/-- The statement that appends the value of an expression. -/
def appendRaw (e : Text) : Text := "_append(" ++ e ++ ")"

namespace Generator

/-- Adds a statement. -/
def emit (g : Generator) (text : Text) (line : Int) : Generator :=
  { g with listing := g.listing.add text line }

/-- Adds the statement for a literal text, if a text remains after trimming. -/
def output (g : Generator) (t : Text) (line : Int) : Generator :=
  let (t, line) :=
    if g.trim then
      match Text.afterLineBreak? t with
      | some r => (r, line + 1)
      | none => (t, line)
    else (t, line)
  let g := { g with trim := false }
  if t.isEmpty then g else g.emit (appendLiteral t) line

/-- Leaves a block on account of a code line. -/
def closeBlock (g : Generator) (line : Int) : Except Halt Generator :=
  match g.listing.dedent? with
  | some l => .ok { g with listing := l }
  | none => .error ⟨g, .unexpectedEnd line g.listing.code⟩

/-- Adds a code line and enters the block that it opens. -/
def addCode (g : Generator) (code : Text) (line : Int) : Generator :=
  let g := g.emit code line
  let s := Brackets.scan code g.pending
  let g := { g with pending := s.pending }
  if s.pending.isEmpty && opensBlock s.code then
    { g with listing := g.listing.indent.add "pass" line }
  else g

/-- One line of a code tag. -/
def codeLine (g : Generator) (raw : Text) (line : Int) : Except Halt Generator :=
  let code := Text.strip raw
  if code.isEmpty then .ok g
  else if !g.pending.isEmpty then .ok (g.addCode code line)
  else if isEndLine code then g.closeBlock line
  else if isClauseLine code then do
    let g ← g.closeBlock line
    .ok (g.addCode code line)
  else .ok (g.addCode code line)

/-- The lines of a code tag, the first of them being `line`. -/
def codeLines (g : Generator) : List Text → Int → Except Halt Generator
  | [], _ => .ok g
  | raw :: rest, line => do
    let g ← g.codeLine raw line
    codeLines g rest (line + 1)

/-- A text between markers, read as the mode says. -/
def text (g : Generator) (t : Text) (line : Int) : Except Halt Generator :=
  match g.mode with
  | .plain | .literal => .ok (g.output t line)
  | .comment => .ok g
  | .eval => g.codeLines (Text.cutAtLineFeeds (closeComment t)) line
  | .escaped =>
    if Text.blank (stripSemicolon t) then .error ⟨g, .noExpression line g.listing.code⟩
    else .ok (g.emit (appendEscaped (stripSemicolon (closeComment t))) line)
  | .raw =>
    if Text.blank (stripSemicolon t) then .error ⟨g, .noExpression line g.listing.code⟩
    else .ok (g.emit (appendRaw (stripSemicolon (closeComment t))) line)

/-- A marker. -/
def marker (g : Generator) (m : Marker) (t : Token) : Except Halt Generator :=
  match m.mode? with
  | some mode =>
    let g := { g with mode }
    if m = .openLiteral then .ok (g.emit (appendLiteral "<%") t.line) else .ok g
  | none =>
    if m = .closeLiteral then
      if g.mode = .literal then
        .ok { g.emit (appendLiteral "%>") t.line with mode := .plain }
      else g.text "%>" t.line
    else
      let g := if g.mode = .literal then g.output t.value t.line else g
      .ok { g with mode := .plain, trim := m ≠ .close }

/-- One token. -/
def token (g : Generator) (t : Token) : Except Halt Generator :=
  match t.kind with
  | .text => g.text t.value t.line
  | .tag m => g.marker m t

/-- Is the token an open marker that needs a close marker? -/
def needsClose (t : Token) : Bool := t.kind.isOpen && t.kind ≠ .tag .openLiteral

/-- Is the second of the tokens a close marker? -/
def closesSecond : List Token → Bool
  | _ :: t :: _ => t.kind.isClose
  | _ => false

/-- A list of tokens.  Behind each open marker but `<%%` stand one token and a close marker. -/
def run (g : Generator) : List Token → Except Halt Generator
  | [] => .ok g
  | t :: rest =>
    if needsClose t && !closesSecond rest then .error ⟨g, .unmatchedTag t.value t.line⟩
    else do
      let g ← g.token t
      run g rest

end Generator

/-- Code generated from a view. -/
structure Generated where
  /-- The statements. -/
  code : Text
  /-- The line of the view for each line of the code. -/
  lineMap : List Int
  /-- The name of the view. -/
  name : Option Text := none
  /-- The view from which the code was generated. -/
  source : Option Text := none
deriving DecidableEq, Repr

namespace Generated

/-- The line of the view for a line of the code, counted from 1. -/
def templateLine (g : Generated) (line : Int) : Option Int :=
  if 0 < line then g.lineMap[(line - 1).toNat]? else none

end Generated

/-- The code of a listing, with the view that it comes from. -/
def Listing.toGenerated (l : Listing) (name source : Option Text) : Generated :=
  { code := l.code, lineMap := l.lineMap, name, source }

/-- The code of a view. -/
def generate (source : Text) (name : Option Text) : Except ViewError Generated :=
  match Generator.run {} (tokens source) with
  | .ok g => .ok (g.listing.toGenerated name source)
  | .error h => .error (h.fault.toError name source)

end ViewEngine
