/-
# Layout directives

Views are composed by directives in their text: `@extends('name')` names the parent view,
`@section('name') … @endsection` defines a section, `@yield('name')` is the place of a section and
`@particle('name')` the place of another view.  A name is a non-empty run of characters other than
the single quote.
-/
import ViewEngine.Names
import ViewEngine.Text.Lines
import ViewEngine.Text.Pieces

namespace ViewEngine.Layout

/-- The name written behind `head`, with `')` behind the name, and how many characters head, name
and end take. -/
def named? (head : Text) : Text.Matcher Text := fun t => do
  let r ← Text.after? head t
  let name := r.takeWhile (· ≠ '\'')
  if name.isEmpty then none
  let r ← Text.after? ['\'', ')'] (r.drop name.length)
  some (name, t.length - r.length)

/-- How the directives begin. -/
def extendsHead : Text := "@extends('"
/-- How a place for a section begins. -/
def yieldHead : Text := "@yield('"
/-- How a place for a view begins. -/
def particleHead : Text := "@particle('"
/-- How a section begins. -/
def sectionHead : Text := "@section('"
/-- How a section ends. -/
def sectionEnd : Text := "@endsection"

/-- `@extends('name')` -/
def extends? : Text.Matcher Text := named? extendsHead

/-- `@yield('name')` -/
def yield? : Text.Matcher Text := named? yieldHead

/-- `@particle('name')` -/
def particle? : Text.Matcher Text := named? particleHead

/-- Is the character a space or a tab? -/
def isSpacing (c : Char) : Bool := c = ' ' || c = '\t'

/-- The text without a line break at its front. -/
def withoutLineBreak (t : Text) : Text := (Text.afterLineBreak? t).getD t

/-- What follows the end of a section at the front of the text: one line break may stand before it,
then spaces and tabs, then the end mark. -/
def afterSectionEnd? (t : Text) : Option Text :=
  Text.after? sectionEnd ((withoutLineBreak t).dropWhile isSpacing)

/-- The body of a section, up to the nearest end of a section, and what follows that end. -/
def sectionBody? : Text → Option (Text × Text)
  | [] => none
  | c :: cs =>
    match afterSectionEnd? (c :: cs) with
    | some r => some ([], r)
    | none => (sectionBody? cs).map fun p => (c :: p.1, p.2)

/-- A section: its name and its body.  Spaces and tabs behind the head and one line break after them
do not belong to the body, nor do a line break and spaces before the end. -/
def section? : Text.Matcher (Text × Text) := fun t => do
  let (name, n) ← named? sectionHead t
  let (body, rest) ← sectionBody? (withoutLineBreak ((t.drop n).dropWhile isSpacing))
  some ((name, body), t.length - rest.length)

/-- What a view says about its place in a layout. -/
structure Dependencies where
  /-- The view named by the first `@extends`. -/
  parent : Option Text
  /-- The sections in the order of their first definitions, each with its last body. -/
  sections : Names Text
  /-- The text without `@extends` and without sections. -/
  body : Text
deriving DecidableEq, Repr

/-- Reads the directives of a view. -/
def dependencies (t : Text) : Dependencies where
  parent := (Text.findAll extends? t).head?
  sections := (Text.findAll section? t).foldl (fun m s => m.put s.1 s.2) ([] : Names Text)
  body := Text.replaceAll section? (fun _ _ => []) (Text.replaceAll extends? (fun _ _ => []) t)

namespace Dependencies

/-- The body of a section. -/
def find? (d : Dependencies) (name : Text) : Option Text :=
  d.sections.find? name

end Dependencies
end ViewEngine.Layout
