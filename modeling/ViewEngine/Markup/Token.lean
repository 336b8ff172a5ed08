/-
# Tokens of a view

A view is cut into literal runs and tag markers.  The fragments concatenate to the view; each token
remembers the line on which it starts.
-/
import ViewEngine.Markup.Marker

namespace ViewEngine

/-- What a token is: a marker, or a run of text without any. -/
inductive TokenKind where
  /-- A run of text. -/
  | text
  /-- A tag marker. -/
  | tag (m : Marker)
deriving DecidableEq, Repr

namespace TokenKind

/-- Does the token open a tag? -/
def isOpen : TokenKind → Bool
  | text => false
  | tag m => m.isOpen

/-- May the token close a tag? -/
def isClose : TokenKind → Bool
  | text => false
  | tag m => m.isClose

end TokenKind

/-- A token of a view. -/
structure Token where
  /-- What the token is. -/
  kind : TokenKind
  /-- The characters of the token. -/
  value : Text
  /-- The line on which the token starts, counted from 1. -/
  line : Int
deriving DecidableEq, Repr

namespace Token

/-- The token for one piece of a view. -/
def ofPiece (line : Int) : Text.Piece Marker → Token
  | .plain t => ⟨.text, t, line⟩
  | .found m t => ⟨.tag m, t, line⟩

/-- The tokens for pieces that follow each other from `line` on. -/
def ofPieces : Int → List (Text.Piece Marker) → List Token
  | _, [] => []
  | line, p :: ps => ofPiece line p :: ofPieces (line + Text.lineFeeds p.text) ps

end Token

/-- The fragments of a view. -/
def fragments (source : Text) : List Text := (Text.pieces Marker.first? source).map (·.text)

/-- The tokens of a view. -/
def tokens (source : Text) : List Token := Token.ofPieces 1 (Text.pieces Marker.first? source)

end ViewEngine
