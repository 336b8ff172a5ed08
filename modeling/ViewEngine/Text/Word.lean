/-
# Words and identifiers

Which characters make up a word, and which texts are identifiers of the language that views embed.
ASCII characters are decided directly; the tables serve the others.
-/
import ViewEngine.Text.Basic
import ViewEngine.Text.NameTable
import ViewEngine.Text.WordTable

namespace ViewEngine.Text

/-- Is the character a letter, a digit, a numeral or the underscore? -/
def isWordChar (c : Char) : Bool :=
  if c.toNat < 128 then c.isAlphanum || c = '_' else wordRanges.has c

/-- May the character begin an identifier? -/
def isNameStart (c : Char) : Bool :=
  if c.toNat < 128 then c.isAlpha || c = '_' else nameStartRanges.has c

/-- May the character stand in an identifier after the first place? -/
def isNameRest (c : Char) : Bool :=
  if c.toNat < 128 then c.isAlphanum || c = '_' else nameRestRanges.has c

/-- An identifier begins with a start character and goes on with rest characters. -/
def isIdentifier : Text → Bool
  | [] => false
  | c :: cs => isNameStart c && cs.all isNameRest

end ViewEngine.Text
