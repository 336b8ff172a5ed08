/-
# Upper and lower case

The full case mappings: a character may become several (`ß` becomes `SS`), and a capital sigma at
the end of a word becomes the final small sigma.
-/
import ViewEngine.Text.Basic
import ViewEngine.Text.CaseTable

namespace ViewEngine.Text

/-- The code point that the runs send `n` to; one that no run holds stays. -/
def moveByRuns (runs : List (Nat × Nat × Nat × Int)) (n : Nat) : Nat :=
  match runs.find? fun r => r.1 ≤ n && n ≤ r.2.1 && (n - r.1) % r.2.2.1 = 0 with
  | some r => (n + r.2.2.2).toNat
  | none => n

/-- The case mapping of one character, from its list of runs and its list of expansions. -/
def mapCase (runs : List (Nat × Nat × Nat × Int)) (long : List (Nat × List Nat)) (c : Char) :
    Text :=
  match long.find? fun e => e.1 = c.toNat with
  | some e => e.2.map Char.ofNat
  | none => [Char.ofNat (moveByRuns runs c.toNat)]

/-- The upper case of a character. -/
def upperChar (c : Char) : Text :=
  if c.toNat < 128 then [c.toUpper] else mapCase upperRuns upperExpansions c

/-- The lower case of a character outside any context. -/
def lowerChar (c : Char) : Text :=
  if c.toNat < 128 then [c.toLower] else mapCase lowerRuns lowerExpansions c

/-- The text in upper case. -/
def upper (t : Text) : Text := expand upperChar t

/-- Is the nearest character that is not ignored one that has a case? -/
def nextIsCased (t : Text) : Bool :=
  match t.find? fun c => !caseIgnorableRanges.has c with
  | some c => casedRanges.has c
  | none => false

/-- Lower case of a text that follows `before` (its characters in reverse order). -/
def lowerAfter (before : Text) : Text → Text
  | [] => []
  | c :: cs =>
    (if c.toNat = 0x3a3 then
      (if nextIsCased before && !nextIsCased cs then [Char.ofNat 0x3c2] else [Char.ofNat 0x3c3])
    else lowerChar c) ++ lowerAfter (c :: before) cs

/-- The text in lower case. -/
def lower (t : Text) : Text := lowerAfter [] t

end ViewEngine.Text
