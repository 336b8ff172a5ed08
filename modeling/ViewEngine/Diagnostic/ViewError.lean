/-
# Errors of the view engine

Every failure that the engine reports itself, with the fields a caller can look at, and the two
texts made of it: the full message and the compact one.
-/
import ViewEngine.Diagnostic.ErrorCode
import ViewEngine.Diagnostic.Snippet

namespace ViewEngine

/-- Where in a view a fault lies; each part may be unknown. -/
structure Place where
  /-- The line in the view. -/
  line : Option Int := none
  /-- The name of the view. -/
  name : Option Text := none
  /-- The text of the view, from which a snippet is cut. -/
  source : Option Text := none
deriving DecidableEq, Repr

/-- A failure while a view is resolved or executed. -/
structure RuntimeFailure where
  /-- What went wrong. -/
  message : Text
  /-- The view that was at work. -/
  name : Option Text := none
  /-- The line in the view. -/
  line : Option Int := none
  /-- The lines around it. -/
  snippet : Option Snippet := none
  /-- The views being resolved, outermost first. -/
  stack : List Text := []
  /-- What the author may do about it. -/
  suggestion : Option Text := none
  /-- The code of the failure. -/
  code : ErrorCode := .runtimeError
  /-- The class of the exception in the view's code that caused the failure. -/
  cause : Option Text := none
deriving DecidableEq, Repr

/-- An error of the view engine. -/
inductive ViewError where
  /-- An error without any particulars. -/
  | general (message : Text)
  /-- The store has no such view. -/
  | notFound (message : Text)
  /-- A view that cannot be turned into code. -/
  | malformed (message : Text) (place : Place)
  /-- An open marker without a close marker. -/
  | unmatchedTag (tag : Text) (place : Place)
  /-- Code that cannot be generated, or that does not compile. -/
  | uncompilable (message : Text) (place : Place) (generated : Option Text) (code : ErrorCode)
  /-- A failure while resolving or executing. -/
  | runtime (failure : RuntimeFailure)
deriving DecidableEq, Repr

/-- An absent or empty text is none. -/
def nonempty? (t : Option Text) : Option Text := t.filter (!·.isEmpty)

/-- An absent line and line zero are none. -/
def nonzero? (n : Option Int) : Option Int := n.filter (· != 0)

/-- A name with a line behind it. -/
def locationText (name : Option Text) (line : Option Int) : Text :=
  (nonempty? name).getD "<template>" ++
    (match nonzero? line with
     | some n => ':' :: Text.ofInt n
     | none => [])

/-- The chain of views being resolved, outermost first. -/
def formatViewStack (colour : Bool) (stack : List Text) : Text :=
  if stack.isEmpty then []
  else Text.joinWith ['\n']
    (Colour.dimmed colour "View stack:" :: stack.map fun n => "  • " ++ Colour.location colour n)

namespace Place

/-- The place as it is shown in messages. -/
def text (p : Place) : Text := locationText p.name p.line

/-- The snippet of the place, when its line and its source are known. -/
def snippet? (p : Place) : Option Snippet :=
  match nonempty? p.source, nonzero? p.line with
  | some s, some n => some (.around s n 2)
  | _, _ => none

/-- A message followed by the place and its snippet. -/
def format (colour : Bool) (message : Text) (p : Place) : Text :=
  let header := message ++ "\n  --> " ++ Colour.location colour p.text
  match p.snippet? with
  | some s => header ++ "\n" ++ s.format colour
  | none => header

end Place

/-- The message of a runtime failure: what, where, the lines around, the chain of views, advice. -/
def RuntimeFailure.format (colour : Bool) (f : RuntimeFailure) : Text :=
  let place : List Text :=
    if (nonempty? f.name).isSome || (nonzero? f.line).isSome then
      ["  Location: " ++ Colour.location colour (locationText f.name f.line)]
    else []
  let snippet := (f.snippet.map (·.format colour)).toList
  let stack := if f.stack.isEmpty then [] else [formatViewStack colour f.stack]
  let advice := ((nonempty? f.suggestion).map fun s =>
    "  " ++ Colour.hint colour "Suggestion:" ++ " " ++ s).toList
  Text.joinWith ['\n'] (("Runtime Error: " ++ f.message) :: place ++ snippet ++ stack ++ advice)

namespace ViewError

/-- The code of an error. -/
def code : ViewError → Option ErrorCode
  | general _ => none
  | notFound _ => some .templateNotFound
  | malformed .. => some .syntaxError
  | unmatchedTag .. => some .unmatchedTag
  | uncompilable _ _ _ c => some c
  | runtime f => some f.code

/-- What is said of an open marker without a close marker. -/
def unmatchedMessage (tag : Text) : Text :=
  "Could not find matching close tag for \"" ++ tag ++ "\""

/-- The full message of an error. -/
def message (colour : Bool) : ViewError → Text
  | general m => m
  | notFound m => m
  | malformed m p => p.format colour m
  | unmatchedTag tag p => p.format colour (unmatchedMessage tag)
  | uncompilable m p _ _ => p.format colour m
  | runtime f => f.format colour

/-- A header with its code in front, unless the header shows the code already. -/
def withCode (colour : Bool) (code : Option ErrorCode) (header : Text) : Text :=
  match code with
  | some c =>
    if Text.occurs c.text header then header
    else Colour.errorCode colour c.text ++ ": " ++ header
  | none => header

/-- A message with code and place, without a snippet. -/
def compactAt (colour : Bool) (code : ErrorCode) (m : Text) (p : Place) : Text :=
  Colour.errorCode colour code.text ++ ": " ++ m ++ "\n  --> " ++ p.text

/-- The compact message of an error. -/
def compact (colour : Bool) : ViewError → Text
  | malformed m p => compactAt colour .syntaxError m p
  | unmatchedTag tag p => compactAt colour .unmatchedTag (unmatchedMessage tag) p
  | uncompilable m p _ c => compactAt colour c m p
  | e => withCode colour e.code (e.message colour)

end ViewError

/-- A recoverable problem found while a view is resolved. -/
inductive ViewWarning where
  /-- `@particle` names a view that the store does not have. -/
  | missingParticle (particle origin : Text)
  /-- `@yield` in a parent has no section in the child. -/
  | missingSection (name view parent : Text)
deriving DecidableEq, Repr

/-- The word for the kind of a warning. -/
def ViewWarning.kind : ViewWarning → Text
  | missingParticle .. => "MissingParticleWarning"
  | missingSection .. => "MissingSectionWarning"

/-- The text of a warning. -/
def ViewWarning.message : ViewWarning → Text
  | missingParticle particle origin =>
    "particle \"" ++ particle ++ "\" not found in \"" ++ origin ++ "\""
  | missingSection name view parent =>
    "section \"" ++ name ++ "\" not found in \"" ++ view ++ "\" for parent \"" ++ parent ++ "\""

end ViewEngine
