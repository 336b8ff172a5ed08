/-
# Source snippets

A snippet is the lines of a source around an error line, each with its number.
-/
import ViewEngine.Diagnostic.Colour
import ViewEngine.Text.Lines

namespace ViewEngine

/-- Some numbered lines of a source. -/
structure Snippet where
  /-- The lines with their numbers, in order. -/
  lines : List (Int × Text)
  /-- The number of the line in error; it need not be among the lines. -/
  errorLine : Int
deriving DecidableEq, Repr

namespace Snippet

/-- The lines of `source` at most `context` lines away from `errorLine`. -/
def around (source : Text) (errorLine : Int) (context : Int) : Snippet :=
  let all := Text.lines source
  let first := (errorLine - 1 - context).toNat
  let last := min (all.length : Int) (errorLine + context)
  { lines := ((all.zipIdx.drop first).take (last - first).toNat).map fun p => (p.2 + 1, p.1)
    errorLine }

/-- One numbered line; the line in error is marked. -/
def formatLine (colour : Bool) (isError : Bool) (line : Int) (t : Text) : Text :=
  let mark : Text := if isError then ">" else " "
  let number := Colour.paint colour [.yellow] (mark ++ Text.padLeft 3 (Text.ofInt line))
  let body := if isError then Colour.paint colour [.brightRed] t else Colour.dimmed colour t
  number ++ " | " ++ body

/-- The snippet between two rules. -/
def format (colour : Bool) (s : Snippet) : Text :=
  let rule := Colour.dimmed colour "   |"
  Text.joinWith ['\n']
    (rule :: (s.lines.map fun l => formatLine colour (l.1 = s.errorLine) l.1 l.2) ++ [rule])

end Snippet
end ViewEngine
