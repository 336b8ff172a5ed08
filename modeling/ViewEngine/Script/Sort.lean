/-
# Sorting

A stable sort by merging.  The runs that are in order already are found and, if they are short,
filled up by binary insertion; neighbouring runs are merged in an order that keeps the merges
balanced; and a merge leaps ahead where one run wins for long.

The comparison may fail, and it may be no order at all.  Which values are compared, and when, is
therefore a part of what a sort does.
-/

namespace ViewEngine.Script.Sort

variable {α : Type} {m : Type → Type} [Monad m] (less : α → α → m Bool)

/-- Does the value at a place satisfy a test?  There is none behind the end. -/
def testAt (xs : Array α) (i : Nat) (test : α → m Bool) : m Bool :=
  match xs[i]? with
  | some x => test x
  | none => return false

/-! ### Runs -/

/-- How many values at the front of a list go on a run whose last value is `last`; each compares with
the one before as `descends` says. -/
def runLength (descends : Bool) (last : α) : List α → m Nat
  | [] => return 0
  | x :: xs => do
    if (← less x last) = descends then return (← runLength descends x xs) + 1 else return 0

/-- The run at the front of a list in ascending order, and what follows it. -/
def frontRun : List α → m (List α × List α)
  | x :: y :: rest => do
    let descends ← less y x
    let n ← runLength less descends y rest
    let run := x :: y :: rest.take n
    return (if descends then run.reverse else run, rest.drop n)
  | xs => return (xs, [])

/-- The place in a sorted array, between two places, behind all values that are not greater. -/
def insertionPlace (xs : Array α) (x : α) : Nat → Nat → Nat → m Nat
  | 0, low, _ => return low
  | n + 1, low, high => do
    if low < high then
      let middle := low + (high - low) / 2
      if ← testAt xs middle (less x) then insertionPlace xs x n low middle
      else insertionPlace xs x n (middle + 1) high
    else return low

/-- Puts values into a sorted array one after the other. -/
def insertAll : Array α → List α → m (Array α)
  | xs, [] => return xs
  | xs, y :: ys => do
    let i ← insertionPlace less xs y (xs.size + 1) 0 xs.size
    insertAll (xs.insertIdxIfInBounds i y) ys

/-- The least length of a run in a list of some length, so that the number of runs is a power of two
or a little less; `odd` tells whether a remainder was dropped. -/
def leastRun : Nat → Bool → Nat → Nat
  | 0, _, n => n
  | room + 1, odd, n =>
    if 64 ≤ n then leastRun room (odd || n % 2 = 1) (n / 2) else n + odd.toNat

/-! ### Leaping -/

/-- Doubles a distance as long as a test holds there and the distance is less than `most`; the last
distance of which it holds, and the next one. -/
def stretch (holds : Nat → m Bool) (most : Nat) : Nat → Nat → Nat → m (Nat × Nat)
  | 0, last, next => return (last, min next most)
  | n + 1, last, next => do
    if next < most then
      if ← holds next then stretch holds most n next (2 * next + 1) else return (last, next)
    else return (last, min next most)

/-- The first place from `low` on, below `high`, of which a test fails. -/
def bisect (holds : Nat → m Bool) : Nat → Nat → Nat → m Nat
  | 0, low, _ => return low
  | n + 1, low, high => do
    if low < high then
      let middle := low + (high - low) / 2
      if ← holds middle then bisect holds n (middle + 1) high else bisect holds n low middle
    else return low

/-- The first place of a sorted array of which a test fails, sought from a hint on in both
directions. -/
def leap (holds : Nat → m Bool) (size hint : Nat) : m Nat := do
  if ← holds hint then
    let (last, next) ← stretch (fun d => holds (hint + d)) (size - hint) (size + 1) 0 1
    bisect holds (size + 1) (hint + last + 1) (hint + next)
  else
    let (last, next) ← stretch (fun d => do return !(← holds (hint - d))) (hint + 1) (size + 1) 0 1
    bisect holds (size + 1) (hint + 1 - next) (hint - last)

/-- The first place of a value that is not less than `x`. -/
def leapLeft (x : α) (xs : Array α) (hint : Nat) : m Nat :=
  leap (fun i => testAt xs i fun y => less y x) xs.size hint

/-- The first place of a value that is greater than `x`. -/
def leapRight (x : α) (xs : Array α) (hint : Nat) : m Nat :=
  leap (fun i => testAt xs i fun y => do return !(← less x y)) xs.size hint

/-! ### Merging -/

/-- How many wins in a row make leaping worth while. -/
def leastWins : Nat := 7

/-- A merge under way: what remains of both runs, and what has been put in order. -/
structure Merge (α : Type) where
  /-- The rest of the first run. -/
  first : Array α
  /-- The rest of the second run. -/
  second : Array α
  /-- The values in order. -/
  done : Array α
  /-- How many wins in a row begin leaping. -/
  wins : Nat

/-- What a step of a merge leads to. -/
inductive Progress (α : Type) where
  /-- The merge goes on. -/
  | going (state : Merge α)
  /-- The merge is over: the values in order, and the wins that begin leaping. -/
  | over (values : Array α) (wins : Nat)

namespace Merge

variable (s : Merge α)

/-- Moves values from the front of the first run to those in order. -/
def takeFirst (n : Nat) : Merge α :=
  { s with first := s.first.extract n s.first.size, done := s.done ++ s.first.extract 0 n }

/-- Moves values from the front of the second run to those in order. -/
def takeSecond (n : Nat) : Merge α :=
  { s with second := s.second.extract n s.second.size, done := s.done ++ s.second.extract 0 n }

/-- The end of a merge upwards: the rests as they stand, but a single value of the first run goes
behind the rest of the second. -/
def closeUp : Progress α :=
  if s.second.isEmpty || s.first.isEmpty then .over (s.done ++ s.first ++ s.second) s.wins
  else if s.first.size = 1 then .over (s.done ++ s.second ++ s.first) s.wins
  else .going s

/-- Moves values from the end of the first run to the front of those in order. -/
def dropFirst (n : Nat) : Merge α :=
  let k := s.first.size - n
  { s with first := s.first.extract 0 k, done := s.first.extract k s.first.size ++ s.done }

/-- Moves values from the end of the second run to the front of those in order. -/
def dropSecond (n : Nat) : Merge α :=
  let k := s.second.size - n
  { s with second := s.second.extract 0 k, done := s.second.extract k s.second.size ++ s.done }

/-- The end of a merge downwards: the rests as they stand, but a single value of the second run goes
before the rest of the first. -/
def closeDown : Progress α :=
  if s.second.isEmpty || s.first.isEmpty then .over (s.first ++ s.second ++ s.done) s.wins
  else if s.second.size = 1 then .over (s.second ++ s.first ++ s.done) s.wins
  else .going s

end Merge

/-- Goes on unless the merge is over. -/
def Progress.andThen (p : Progress α) (f : Merge α → m (Progress α)) : m (Progress α) :=
  match p with
  | .going s => f s
  | .over vs w => return .over vs w

/-- The comparison of the values at the fronts: does the second run win? -/
def frontsCompare (s : Merge α) : m Bool :=
  match s.second[0]?, s.first[0]? with
  | some y, some x => less y x
  | _, _ => return false

/-- The comparison of the values at the ends: does the first run win? -/
def endsCompare (s : Merge α) : m Bool :=
  match s.second.back?, s.first.back? with
  | some y, some x => less y x
  | _, _ => return false

/-- Merges upwards value by value until one run wins often in a row. -/
def stepsUp : Nat → Nat → Nat → Merge α → m (Progress α)
  | 0, _, _, s => return .going s
  | n + 1, a, b, s => do
    if ← frontsCompare less s then
      (s.takeSecond 1).closeUp.andThen fun s =>
        if s.wins ≤ b + 1 then return .going s else stepsUp n 0 (b + 1) s
    else
      (s.takeFirst 1).closeUp.andThen fun s =>
        if s.wins ≤ a + 1 then return .going s else stepsUp n (a + 1) 0 s

/-- Merges upwards in leaps as long as they are long. -/
def leapsUp : Nat → Merge α → m (Progress α)
  | 0, s => return .going s
  | n + 1, s => do
    let s := { s with wins := if 1 < s.wins then s.wins - 1 else s.wins }
    match s.second[0]? with
    | none => return s.closeUp
    | some y =>
      let a ← leapRight less y s.first 0
      let p := if a = 0 then .going s else (s.takeFirst a).closeUp
      p.andThen fun s => (s.takeSecond 1).closeUp.andThen fun s => do
        match s.first[0]? with
        | none => return s.closeUp
        | some x =>
          let b ← leapLeft less x s.second 0
          let s := s.takeSecond b
          let p := if s.second.isEmpty then s.closeUp else .going s
          p.andThen fun s => (s.takeFirst 1).closeUp.andThen fun s =>
            if leastWins ≤ a || leastWins ≤ b then leapsUp n s
            else return .going { s with wins := s.wins + 1 }

/-- Merges downwards value by value until one run wins often in a row. -/
def stepsDown : Nat → Nat → Nat → Merge α → m (Progress α)
  | 0, _, _, s => return .going s
  | n + 1, a, b, s => do
    if ← endsCompare less s then
      (s.dropFirst 1).closeDown.andThen fun s =>
        if s.wins ≤ a + 1 then return .going s else stepsDown n (a + 1) 0 s
    else
      (s.dropSecond 1).closeDown.andThen fun s =>
        if s.wins ≤ b + 1 then return .going s else stepsDown n 0 (b + 1) s

/-- Merges downwards in leaps as long as they are long. -/
def leapsDown : Nat → Merge α → m (Progress α)
  | 0, s => return .going s
  | n + 1, s => do
    let s := { s with wins := if 1 < s.wins then s.wins - 1 else s.wins }
    match s.second.back? with
    | none => return s.closeDown
    | some y =>
      let a := s.first.size - (← leapRight less y s.first (s.first.size - 1))
      let s := s.dropFirst a
      let p := if s.first.isEmpty then s.closeDown else .going s
      p.andThen fun s => (s.dropSecond 1).closeDown.andThen fun s => do
        match s.first.back? with
        | none => return s.closeDown
        | some x =>
          let b := s.second.size - (← leapLeft less x s.second (s.second.size - 1))
          let p := if b = 0 then .going s else (s.dropSecond b).closeDown
          p.andThen fun s => (s.dropFirst 1).closeDown.andThen fun s =>
            if leastWins ≤ a || leastWins ≤ b then leapsDown n s
            else return .going { s with wins := s.wins + 1 }

/-- Merges value by value and in leaps by turns. -/
def alternate (steps leaps : Merge α → m (Progress α)) : Nat → Merge α → m (Array α × Nat)
  | 0, s => return (s.done ++ s.first ++ s.second, s.wins)
  | n + 1, s => do
    match ← steps s with
    | .over vs w => return (vs, w)
    | .going s =>
      match ← leaps { s with wins := s.wins + 1 } with
      | .over vs w => return (vs, w)
      | .going s => alternate steps leaps n s

/-- Merges two runs; the number of wins that begin leaping is carried on. -/
def merge (wins : Nat) (xs ys : Array α) : m (Array α × Nat) := do
  let room := xs.size + ys.size + 1
  match ys[0]? with
  | none => return (xs, wins)
  | some y =>
    let k ← leapRight less y xs 0
    let front := xs.extract 0 k
    let first := xs.extract k xs.size
    match first.back? with
    | none => return (xs ++ ys, wins)
    | some x =>
      let n ← leapLeft less x ys (ys.size - 1)
      let second := ys.extract 0 n
      let back := ys.extract n ys.size
      if n = 0 then return (xs ++ ys, wins)
      else
        let s : Merge α := { first, second, done := #[], wins }
        let start : Progress α :=
          if first.size ≤ second.size then (s.takeSecond 1).closeUp else (s.dropFirst 1).closeDown
        let (vs, w) ← match start with
          | .over vs w => pure (vs, w)
          | .going s =>
            if first.size ≤ second.size then
              alternate (stepsUp less room 0 0) (leapsUp less room) room s
            else alternate (stepsDown less room 0 0) (leapsDown less room) room s
        return (front ++ vs ++ back, w)

/-! ### The order of merges -/

/-- A run that waits to be merged. -/
structure Waiting (α : Type) where
  /-- Its values. -/
  values : Array α
  /-- How high the node between it and the next run stands in a balanced tree. -/
  power : Nat := 0

/-- The first binary place in which two fractions differ, of which the first is the less; both are
given by their numerators. -/
def splitPower (whole : Nat) : Nat → Nat → Nat → Nat
  | 0, _, _ => 1
  | n + 1, a, b =>
    if whole ≤ a then splitPower whole n (2 * (a - whole)) (2 * (b - whole)) + 1
    else if whole ≤ b then 1
    else splitPower whole n (2 * a) (2 * b) + 1

/-- The power of the node between a run that begins at some place and the next one. -/
def nodePower (whole start first second : Nat) : Nat :=
  splitPower whole (whole + 2) (2 * start + first) (2 * start + 2 * first + second)

/-- Merges the two last of the waiting runs, of which the last comes first, as long as the node
between them stands higher than the one to come. -/
def collapse (power : Nat) : Nat → Nat → List (Waiting α) → m (List (Waiting α) × Nat)
  | n + 1, wins, y :: x :: rest => do
    if power < x.power then
      let (vs, w) ← merge less wins x.values y.values
      collapse power n w ({ values := vs, power := y.power } :: rest)
    else return (y :: x :: rest, wins)
  | _, wins, ws => return (ws, wins)

/-- Merges all waiting runs, of which the last comes first. -/
def collapseAll : Nat → Nat → List (Waiting α) → m (Array α)
  | n + 1, wins, z :: y :: x :: rest => do
    if x.values.size < z.values.size then
      let (vs, w) ← merge less wins x.values y.values
      collapseAll n w (z :: { values := vs } :: rest)
    else
      let (vs, w) ← merge less wins y.values z.values
      collapseAll n w ({ values := vs } :: x :: rest)
  | _, wins, [y, x] => do return (← merge less wins x.values y.values).1
  | _, _, ws => return ws.foldl (fun vs w => w.values ++ vs) #[]

/-- Finds the runs of a list one after the other, and merges as they come. -/
def sortRuns (whole least : Nat) : Nat → Nat → Nat → List (Waiting α) → List α → m (Array α)
  | n + 1, start, wins, ws, x :: xs => do
    let (run, rest) ← frontRun less (x :: xs)
    let missing := least - run.length
    let values ← insertAll less run.toArray (rest.take missing)
    let rest := rest.drop missing
    let (ws, wins) ← match ws with
      | w :: more => do
        let p := nodePower whole (start - w.values.size) w.values.size values.size
        let (ws, wins) ← collapse less p (more.length + 1) wins (w :: more)
        pure (match ws with
          | w :: more => { w with power := p } :: more
          | [] => [], wins)
      | [] => pure ([], wins)
    sortRuns whole least n (start + values.size) wins ({ values } :: ws) rest
  | _, _, wins, ws, _ => collapseAll less ws.length wins ws

/-- The values in ascending order; equal ones keep their places. -/
def sort (xs : List α) : m (List α) := do
  if xs.length < 2 then return xs
  else
    let n := xs.length
    return (← sortRuns less n (leastRun n false n) n 0 leastWins [] xs).toList

end ViewEngine.Script.Sort
