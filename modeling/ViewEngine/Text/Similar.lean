/-
# Similar texts

How alike two texts are, measured by what they have in common: the longest common run is found, then
the same is done to the left and to the right of it.  The share of matched characters in both texts
decides which of several names comes closest to a misspelt one.

In a long text the characters that occur in more than one place in a hundred begin no common run;
they can only prolong one.
-/
import ViewEngine.Text.Basic

namespace ViewEngine.Text.Similar

/-- A common run: where it begins in the first and in the second text, and its length. -/
structure Run where
  /-- Place in the first text. -/
  left : Nat
  /-- Place in the second text. -/
  right : Nat
  /-- Number of characters. -/
  size : Nat

/-- The characters of `b` that begin no common run. -/
def frequent (b : Text) : List Char :=
  if b.length < 200 then []
  else b.eraseDups.filter fun c => b.length / 100 + 1 < b.count c

/-- For each place in `b`, how long the common run is that ends there and at the character `x`;
`before` is the length one place earlier, `above` the row of the character in front of `x`. -/
def nextRow (skip : List Char) (x : Char) : Nat → List Nat → Text → List Nat
  | _, _, [] => []
  | before, above, y :: ys =>
    (if x = y && !skip.contains y then before + 1 else 0)
      :: nextRow skip x (above.headD 0) above.tail ys

/-- The better of `best` and the runs that end at place `i` of the first text, the row telling their
lengths at the places of the second text from `j` on.  Of runs of one length the first is kept. -/
def betterInRow (i : Nat) : Nat → List Nat → Run → Run
  | _, [], best => best
  | j, k :: ks, best =>
    betterInRow i (j + 1) ks (if best.size < k then ⟨i + 1 - k, j + 1 - k, k⟩ else best)

/-- The longest run, reading the first text from place `i` on. -/
def longestFrom (skip : List Char) (b : Text) : Nat → List Nat → Text → Run → Run
  | _, _, [], best => best
  | i, row, x :: xs, best =>
    let row := nextRow skip x 0 row b
    longestFrom skip b (i + 1) row xs (betterInRow i 0 row best)

/-- How many characters the two texts have in common at their fronts. -/
def commonFront : Text → Text → Nat
  | a :: as, b :: bs => if a = b then commonFront as bs + 1 else 0
  | _, _ => 0

/-- The longest run, prolonged on both sides as far as the texts agree. -/
def longest (skip : List Char) (a b : Text) : Run :=
  let r := longestFrom skip b 0 [] a ⟨0, 0, 0⟩
  let back := commonFront (a.take r.left).reverse (b.take r.right).reverse
  let on := commonFront (a.drop (r.left + r.size)) (b.drop (r.right + r.size))
  ⟨r.left - back, r.right - back, back + r.size + on⟩

/-- The number of matched characters; `fuel` is at least the length of `a`. -/
def matchedWithin (skip : List Char) : Nat → Text → Text → Nat
  | 0, _, _ => 0
  | fuel + 1, a, b =>
    let r := longest skip a b
    if r.size = 0 then 0
    else r.size + matchedWithin skip fuel (a.take r.left) (b.take r.right)
      + matchedWithin skip fuel (a.drop (r.left + r.size)) (b.drop (r.right + r.size))

/-- The number of matched characters of `a` and `b`. -/
def matched (a b : Text) : Nat := matchedWithin (frequent b) a.length a b

/-- A candidate with its measure: matched characters over all characters. -/
structure Candidate where
  /-- The name. -/
  name : Text
  /-- Matched characters. -/
  common : Nat
  /-- Characters of both texts. -/
  total : Nat

/-- Is the share of matched characters at least three fifths? -/
def Candidate.close (c : Candidate) : Bool := 3 * c.total ≤ 10 * c.common

/-- Is `c` a better choice than `d`?  Of equally close names the greater one is. -/
def Candidate.better (c d : Candidate) : Bool :=
  d.common * c.total < c.common * d.total
    || (d.common * c.total = c.common * d.total && Text.le d.name c.name)

/-- The name that comes closest to `word`, if one is close. -/
def closest? (word : Text) (names : List Text) : Option Text :=
  let cs := (names.map fun n => (⟨n, matched n word, n.length + word.length⟩ : Candidate)).filter
    Candidate.close
  (cs.foldl (fun best c =>
    match best with
    | none => some c
    | some b => if c.better b then some c else some b) none).map (·.name)

end ViewEngine.Text.Similar
