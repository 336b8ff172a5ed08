/-
# Listings

Generated code is a listing of statements, each indented by the depth at which it was added and
each knowing the line of the view it comes from.  A statement may hold line breaks; all its lines
come from the same line of the view.
-/
import ViewEngine.Text.Basic

namespace ViewEngine

/-- One statement of generated code. -/
structure Statement where
  /-- How deep in blocks the statement stands. -/
  depth : Nat
  /-- The statement without its indentation. -/
  text : Text
  /-- The line of the view. -/
  line : Int
deriving DecidableEq, Repr

namespace Statement

/-- The statement as it stands in the code. -/
def code (s : Statement) : Text := List.replicate (4 * s.depth) ' ' ++ s.text ++ ['\n']

/-- The line of the view, once for each line of the statement. -/
def lineMap (s : Statement) : List Int := List.replicate (Text.lineFeeds s.text + 1) s.line

end Statement

/-- Generated code in the making. -/
structure Listing where
  /-- The statements added so far. -/
  statements : List Statement := []
  /-- The depth of the next statement. -/
  depth : Nat := 0
deriving DecidableEq, Repr

namespace Listing

/-- Adds a statement that comes from `line`. -/
def add (l : Listing) (text : Text) (line : Int) : Listing :=
  { l with statements := l.statements ++ [⟨l.depth, text, line⟩] }

/-- Enters a block. -/
def indent (l : Listing) : Listing := { l with depth := l.depth + 1 }

/-- Leaves a block, if one is open. -/
def dedent? (l : Listing) : Option Listing :=
  match l.depth with
  | 0 => none
  | d + 1 => some { l with depth := d }

/-- The code of the listing. -/
def code (l : Listing) : Text := l.statements.flatMap Statement.code

/-- The line of the view for each line of the code. -/
def lineMap (l : Listing) : List Int := l.statements.flatMap Statement.lineMap

@[simp] theorem code_add (l : Listing) (t : Text) (n : Int) :
    (l.add t n).code = l.code ++ Statement.code ⟨l.depth, t, n⟩ := by
  simp [add, code]

@[simp] theorem lineMap_add (l : Listing) (t : Text) (n : Int) :
    (l.add t n).lineMap = l.lineMap ++ Statement.lineMap ⟨l.depth, t, n⟩ := by
  simp [add, lineMap]

end Listing
end ViewEngine
