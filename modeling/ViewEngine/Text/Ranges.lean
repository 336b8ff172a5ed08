/-
# Sets of characters given by ranges

A property of characters is held as an ascending list of ranges of code points, ends included.
-/

namespace ViewEngine.Text

/-- Ascending ranges of code points, both ends included. -/
abbrev Ranges := List (Nat × Nat)

/-- Does one of the ranges hold the code point of `c`? -/
def Ranges.has (t : Ranges) (c : Char) : Bool :=
  t.any fun r => r.1 ≤ c.toNat && c.toNat ≤ r.2

theorem Ranges.has_iff {t : Ranges} {c : Char} :
    t.has c = true ↔ ∃ r ∈ t, r.1 ≤ c.toNat ∧ c.toNat ≤ r.2 := by
  simp [Ranges.has]

end ViewEngine.Text
