/-
# Tag markers

The fixed alphabet of markers that open and close tags, and the rule that says which marker begins
at a place: a marker of three characters wins over the one of two characters it begins with.
-/
import ViewEngine.Text.Pieces

namespace ViewEngine

/-- A tag marker. -/
inductive Marker where
  /-- `<%` -/
  | openEval
  /-- `<%_` -/
  | openEvalSlurp
  /-- `<%=` -/
  | openEscaped
  /-- `<%-` -/
  | openRaw
  /-- `<%#` -/
  | openComment
  /-- `<%%`, which stands for the text `<%` -/
  | openLiteral
  /-- `%%>`, which stands for the text `%>` -/
  | closeLiteral
  /-- `%>` -/
  | close
  /-- `-%>` -/
  | closeTrim
  /-- `_%>` -/
  | closeSlurp
deriving DecidableEq, Repr

namespace Marker

/-- How the marker is written. -/
def text : Marker → Text
  | openEval => ['<', '%']
  | openEvalSlurp => ['<', '%', '_']
  | openEscaped => ['<', '%', '=']
  | openRaw => ['<', '%', '-']
  | openComment => ['<', '%', '#']
  | openLiteral => ['<', '%', '%']
  | closeLiteral => ['%', '%', '>']
  | close => ['%', '>']
  | closeTrim => ['-', '%', '>']
  | closeSlurp => ['_', '%', '>']

/-- All markers, a longer one before one it begins with. -/
def all : List Marker :=
  [openLiteral, closeLiteral, openEscaped, openRaw, openEvalSlurp, openComment, openEval,
   closeTrim, closeSlurp, close]

/-- Does the marker open a tag? -/
def isOpen : Marker → Bool
  | openEval | openEvalSlurp | openEscaped | openRaw | openComment | openLiteral => true
  | _ => false

/-- May the marker close a tag?  (`%%>` does not.) -/
def isClose : Marker → Bool
  | close | closeTrim | closeSlurp => true
  | _ => false

/-- The marker that begins at the front of the text. -/
def first? : Text.Matcher Marker := fun t =>
  (all.find? fun m => Text.startsWith m.text t).map fun m => (m, m.text.length)

theorem text_ne_nil (m : Marker) : m.text ≠ [] := by cases m <;> simp [text]

theorem mem_all (m : Marker) : m ∈ all := by cases m <;> decide

end Marker
end ViewEngine
