/-
# Cutting a text at what a matcher finds

Tag markers and layout directives are both found in the same way: the text is read from left to
right, a match is taken where one begins, and the search goes on behind it.  A *matcher* looks at
the front of a text; `pieces` cuts a whole text into what it found and the plain runs between.
-/
import ViewEngine.Text.Basic

namespace ViewEngine.Text

/-- What begins at the front of a text, and how many characters it takes. -/
abbrev Matcher (α : Type) := Text → Option (α × Nat)

/-- A piece of a text that was cut by a matcher. -/
inductive Piece (α : Type) where
  /-- A run of characters in which no match begins. -/
  | plain (t : Text)
  /-- A match and the characters it took. -/
  | found (a : α) (t : Text)
deriving DecidableEq

namespace Piece

variable {α : Type}

/-- The characters of a piece. -/
def text : Piece α → Text
  | plain t => t
  | found _ t => t

/-- Puts one more plain character in front. -/
def cons (c : Char) : List (Piece α) → List (Piece α)
  | plain t :: ps => plain (c :: t) :: ps
  | ps => plain [c] :: ps

end Piece

/-- The pieces of a text; the first `k` characters, which belong to an earlier match, are passed
over. -/
def piecesFrom {α : Type} (m : Matcher α) : Nat → Text → List (Piece α)
  | _, [] => []
  | k + 1, _ :: cs => piecesFrom m k cs
  | 0, c :: cs =>
    match m (c :: cs) with
    | some (a, n) => .found a ((c :: cs).take n) :: piecesFrom m (n - 1) cs
    | none => Piece.cons c (piecesFrom m 0 cs)

/-- The pieces of a text. -/
def pieces {α : Type} (m : Matcher α) (t : Text) : List (Piece α) := piecesFrom m 0 t

/-- The text with each match replaced by the text `f` gives for it. -/
def replaceAll {α : Type} (m : Matcher α) (f : α → Text → Text) (t : Text) : Text :=
  (pieces m t).flatMap fun
    | .plain t => t
    | .found a t => f a t

/-- What the matcher finds in the text, from left to right. -/
def findAll {α : Type} (m : Matcher α) (t : Text) : List α :=
  (pieces m t).filterMap fun
    | .plain _ => none
    | .found a _ => some a

end ViewEngine.Text
