/-
# Sequences and iterations

Taking the elements of a value one by one, looking one up by its place or key, cutting out a slice,
and asking for membership.
-/
import ViewEngine.Script.Compare

namespace ViewEngine.Script

/-- A number of steps that no run of practical use takes. -/
def stepLimit : Nat := Nat.pow 2 62

/-- More elements than a sequence can have. -/
def sizeLimit : Int := Int.pow 2 36

/-- Raises that a sequence is too large for the memory. -/
def tooLarge {α : Type} : Run α := Run.raise .memory []

/-- A text as the list of its characters. -/
def characters (t : Text) : Run (List Value) := t.mapM fun c => Run.pieceOf [c]

/-- The first numbers of a range. -/
def rangeNumbers (start step : Int) : Nat → Run (List Value)
  | 0 => return []
  | n + 1 => do
    let v ← Run.newInt start
    return v :: (← rangeNumbers (start + step) step n)

/-- What is said of a number that is too large to be a size. -/
def sizeOverflow {α : Type} : Run α :=
  Run.fail .overflow "Python int too large to convert to C ssize_t"

/-- All numbers of a range, if memory can hold them. -/
def allNumbers (start stop step : Int) : Run (List Value) :=
  let n := rangeLength start stop step
  if Nat.pow 2 63 ≤ n then sizeOverflow
  else if sizeLimit < n then tooLarge
  else rangeNumbers start step n

/-! ### Iterating -/

/-- What is said of a value that has no elements. -/
def notIterable {α : Type} (v : Value) : Run α := do
  Run.fail .type ("'" ++ (← v.typeName) ++ "' object is not iterable")

/-- The iteration over a value; an iteration in progress is its own. -/
def iterationOf? (v : Value) : Run (Option Iteration) :=
  match v with
  | .list a => return some (.list a 0)
  | .tuple _ vs => return some (.values vs)
  | .text _ t => do return some (.values (← characters t))
  | .range _ a b s => return some (.numbers a b s)
  | .dict a => do return some (.dict .keys a 0 (← Run.dictAt a).length)
  | .dictView _ p a => do return some (.dict p a 0 (← Run.dictAt a).length)
  | _ => return none

/-- The cell of an iteration over a value. -/
def iterate (v : Value) : Run Address :=
  match v with
  | .iterator a => return a
  | _ => do
    match ← iterationOf? v with
    | some i => Run.alloc (.iterator i)
    | none => notIterable v

/-- What is said of iterations that end together but not at the same time. -/
def unequalLengths {α : Type} (place : Nat) (outcome : Text) : Run α :=
  Run.fail .value ("zip() argument " ++ Text.ofNat (place + 1) ++ " is " ++ outcome ++
    " than argument" ++ (if place = 1 then " " else "s 1-") ++ Text.ofNat place)

/-- Demands that iterations, of which the first follows `place` others, have ended. -/
def demandEnded (next : Address → Run (Option Value)) (place : Nat) : List Address → Run Unit
  | [] => return ()
  | a :: as => do
    match ← next a with
    | none => demandEnded next (place + 1) as
    | some _ => unequalLengths place "longer"

/-- Takes one element of each iteration, of which the first follows `place` others, unless one of
them has none. -/
def takeEach (next : Address → Run (Option Value)) (strict : Bool) (place : Nat) :
    List Address → Run (Option (List Value))
  | [] => return some []
  | a :: as => do
    match ← next a with
    | none =>
      if strict then
        if place = 0 then demandEnded next 1 as else unequalLengths place "shorter"
      return none
    | some v =>
      match ← takeEach next strict (place + 1) as with
      | none => return none
      | some vs => return some (v :: vs)

/-- The next element of an iteration; `room` bounds the nesting of iterations. -/
def nextWithin (room : Nat) (a : Address) : Run (Option Value) :=
  match room with
  | 0 => tooDeep []
  | n + 1 => do
    match ← Run.iterationAt a with
    | .list c i =>
      match (← Run.listAt c)[i]? with
      | some v =>
        Run.store a (.iterator (.list c (i + 1)))
        return some v
      | none =>
        Run.store a (.iterator (.values []))
        return none
    | .values [] => return none
    | .values (v :: vs) =>
      Run.store a (.iterator (.values vs))
      return some v
    | .numbers i stop step =>
      if rangeLength i stop step = 0 then return none
      else
        Run.store a (.iterator (.numbers (i + step) stop step))
        return some (← Run.newInt i)
    | .dict p c i size =>
      let es ← Run.dictAt c
      if es.length ≠ size then
        Run.fail .runtime "dictionary changed size during iteration"
      else match es[i]? with
        | some e =>
          Run.store a (.iterator (.dict p c (i + 1) size))
          return some (← p.of e)
        | none => return none
    | .numbered b i =>
      match ← nextWithin n b with
      | some v =>
        Run.store a (.iterator (.numbered b (i + 1)))
        return some (← Run.newTuple [← Run.newInt i, v])
      | none => return none
    | .together _ [] => return none
    | .together strict as =>
      match ← takeEach (nextWithin n) strict 0 as with
      | some vs => return some (← Run.newTuple vs)
      | none => return none

/-- The next element of an iteration. -/
def next (a : Address) : Run (Option Value) := nextWithin recursionLimit a

/-- The elements that remain of an iteration. -/
def drain (a : Address) : Nat → Run (List Value)
  | 0 => throw .endless
  | n + 1 => do
    match ← next a with
    | some v => return v :: (← drain a n)
    | none => return []

/-- The elements of a value, if it has any to take. -/
def elements? (v : Value) : Run (Option (List Value)) :=
  match v with
  | .list a => do return some (← Run.listAt a)
  | .tuple _ vs => return some vs
  | .text _ t => do return some (← characters t)
  | .range _ a b s => do return some (← allNumbers a b s)
  | .dict a => do return some ((← Run.dictAt a).map (·.1))
  | .dictView _ p a => do return some (← (← Run.dictAt a).mapM p.of)
  | .iterator a => do return some (← drain a stepLimit)
  | _ => return none

/-- The elements of a value. -/
def elements (v : Value) : Run (List Value) := do
  match ← elements? v with
  | some vs => return vs
  | none => notIterable v

/-- The elements that an iteration gives next, at most so many. -/
def takeSome (a : Address) : Nat → Run (List Value)
  | 0 => return []
  | n + 1 => do
    match ← next a with
    | some v => return v :: (← takeSome a n)
    | none => return []

/-- The first elements of a value, at most so many, if it has any to take. -/
def front? (count : Nat) (v : Value) : Run (Option (List Value)) :=
  match v with
  | .range _ a b s => do return some (← rangeNumbers a s (min count (rangeLength a b s)))
  | .iterator a => do return some (← takeSome a count)
  | _ => elements? v

/-- Exactly so many elements of a value.  One more is taken to see that there are not more. -/
def unpack (count : Nat) (v : Value) : Run (List Value) := do
  match ← front? (count + 1) v with
  | none => Run.fail .type ("cannot unpack non-iterable " ++ (← v.typeName) ++ " object")
  | some vs =>
    let expected := "(expected " ++ Text.ofNat count
    if vs.length < count then
      Run.fail .value ("not enough values to unpack " ++ expected ++ ", got " ++
        Text.ofNat vs.length ++ ")")
    else if count < vs.length then
      Run.fail .value ("too many values to unpack " ++ expected ++ ")")
    else return vs

/-! ### Membership -/

/-- Is one of the values equal to `v`? -/
def anyEqual (v : Value) : List Value → Run Bool
  | [] => return false
  | w :: ws => do
    if ← equalInside w v then return true else anyEqual v ws

/-- Does an iteration still have an element equal to `v`? -/
def findIn (v : Value) (a : Address) : Nat → Run Bool
  | 0 => throw .endless
  | n + 1 => do
    match ← next a with
    | some w => if ← equalInside w v then return true else findIn v a n
    | none => return false

/-- Is the number in the range? -/
def inRange (n start stop step : Int) : Bool :=
  (n - start) % step = 0 &&
    (if 0 < step then start ≤ n && n < stop else stop < n && n ≤ start)

/-- The whole number that a number is equal to. -/
def Number.exact? : Number → Option Int
  | .int n => some n
  | .float x =>
    match Decimal.read x with
    | .finite b => b.whole?
    | _ => none

/-- Is the value an element of the other? -/
def isMember (v owner : Value) : Run Bool :=
  match owner with
  | .text _ t =>
    match v with
    | .text _ s => return Text.occurs s t
    | _ => do
      Run.fail .type ("'in <string>' requires string as left operand, not " ++ (← v.typeName))
  | .dict a => do return (← lookUp v (← Run.dictAt a)).isSome
  | .dictView _ p a => do
    if p.isSet then inView equalInside p (← Run.dictAt a) v
    else anyEqual v (← (← Run.dictAt a).mapM p.of)
  | .range _ a b s => return (v.number?.bind Number.exact?).any fun n => inRange n a b s
  | .iterator a => findIn v a stepLimit
  | _ => do
    match ← elements? owner with
    | some vs => anyEqual v vs
    | none => Run.fail .type ("argument of type '" ++ (← owner.typeName) ++ "' is not iterable")

/-! ### Places -/

/-- The least number that is too large to be a place. -/
def placeLimit : Int := Int.pow 2 63

/-- The place that a number means in a sequence of some length; negative ones count from the end. -/
def place? (length : Nat) (i : Int) : Option Nat :=
  let j := if i < 0 then i + length else i
  if 0 ≤ j ∧ j < length then some j.toNat else none

/-- The place that a value means. -/
def placeOf (length : Nat) (kind missing : Text) (key : Value) : Run Nat :=
  match key.whole? with
  | some i =>
    if i < -placeLimit ∨ placeLimit ≤ i then
      Run.fail .index "cannot fit 'int' into an index-sized integer"
    else match place? length i with
      | some n => return n
      | none => Run.fail .index missing
  | none => do Run.fail .type (kind ++ (← key.typeName))

/-- Raises that there is no value for a key. -/
def missingKey {α : Type} (key : Value) : Run α := Run.raise .key [key]

/-- How a value is called that has no elements to look up. -/
def ownerName (v : Value) : Run Text := do
  match v with
  | .kind k => return "type '" ++ k.text ++ "'"
  | .native f =>
    let kind ← v.typeName
    if kind = "type".toList then return "type '" ++ f.text ++ "'"
    else return "'" ++ kind ++ "' object"
  | _ => return "'" ++ (← v.typeName) ++ "' object"

/-- What is said of a value that has no elements to look up. -/
def notSubscriptable {α : Type} (v : Value) : Run α := do
  Run.fail .type ((← ownerName v) ++ " is not subscriptable")

/-- The element of a list of values at a place. -/
def elementAt (vs : List Value) (kind missing : Text) (key : Value) : Run Value := do
  let n ← placeOf vs.length kind missing key
  match vs[n]? with
  | some v => return v
  | none => Run.fail .index missing

/-- The element of a value at a place or of a key. -/
def lookAt (owner key : Value) : Run Value :=
  match owner with
  | .text _ t =>
    match key.whole? with
    | some _ => do
      let missing : Text := "string index out of range"
      match t[← placeOf t.length [] missing key]? with
      | some c => Run.pieceOf [c]
      | none => Run.fail .index missing
    | none => do
      Run.fail .type ("string indices must be integers, not '" ++ (← key.typeName) ++ "'")
  | .list a => do
    elementAt (← Run.listAt a) "list indices must be integers or slices, not "
      "list index out of range" key
  | .tuple _ vs =>
    elementAt vs "tuple indices must be integers or slices, not " "tuple index out of range" key
  | .range _ a b s =>
    match key.whole? with
    | some i =>
      match place? (rangeLength a b s) i with
      | some n => Run.newInt (a + s * n)
      | none => Run.fail .index "range object index out of range"
    | none => do
      Run.fail .type ("range indices must be integers or slices, not " ++ (← key.typeName))
  | .dict a => do
    match ← lookUp key (← Run.dictAt a) with
    | some v => return v
    | none => missingKey key
  | _ => notSubscriptable owner

/-- What is said of a value whose elements cannot be changed. -/
def notAssignable (v : Value) : Run Unit := do
  Run.fail .type ("'" ++ (← v.typeName) ++ "' object does not support item assignment")

/-- Sets an element. -/
def setAt (owner key value : Value) : Run Unit :=
  match owner with
  | .list a => do
    let vs ← Run.listAt a
    let n ← placeOf vs.length "list indices must be integers or slices, not "
      "list assignment index out of range" key
    Run.store a (.list (vs.set n value))
  | .dict a => do Run.store a (.dict (← insertEntry key value (← Run.dictAt a)))
  | _ => notAssignable owner

/-! ### Slices -/

/-- A bound of a slice. -/
def sliceBound (v : Value) : Run (Option Int) :=
  match v with
  | .none => return none
  | _ =>
    match v.whole? with
    | some n => return some n
    | none => Run.fail .type
        "slice indices must be integers or None or have an __index__ method"

/-- The place at which a slice begins or ends, in a sequence of some length. -/
def clampBound (length : Nat) (backward : Bool) (i : Int) : Int :=
  let j := if i < 0 then i + length else i
  if j < 0 then if backward then -1 else 0
  else if length ≤ j then if backward then length - 1 else length
  else j

/-- A slice of a sequence of some length: where it begins, its step, and the number of its
elements. -/
structure Slice where
  /-- The first place. -/
  start : Int
  /-- The place where it ends. -/
  stop : Int
  /-- The step. -/
  step : Int
  /-- The number of elements. -/
  count : Nat

/-- The places that three bounds mean. -/
def sliceOf (length : Nat) (low high step : Value) : Run Slice := do
  let step := (← sliceBound step).getD 1
  if step = 0 then Run.fail .value "slice step cannot be zero"
  else
    let low ← sliceBound low
    let high ← sliceBound high
    let backward : Bool := step < 0
    let start := match low with
      | some i => clampBound length backward i
      | none => if backward then (length : Int) - 1 else 0
    let stop := match high with
      | some i => clampBound length backward i
      | none => if backward then -1 else length
    return { start, stop, step, count := rangeLength start stop step }

/-- The elements of a slice. -/
def Slice.take {α : Type} (s : Slice) (xs : List α) : List α :=
  let places := xs.toArray
  (List.range s.count).filterMap fun (k : Nat) => places[(s.start + s.step * (k : Int)).toNat]?

/-- What is said of a dictionary that is asked for a slice. -/
def sliceAsKey {α : Type} : Run α := Run.fail .type "unhashable type: 'slice'"

/-- Is the slice the whole of a sequence of some length? -/
def Slice.isWhole (s : Slice) (length : Nat) : Bool :=
  s.start = 0 && s.step = 1 && s.count = length

/-- A slice of a value; the whole of a text or tuple is the text or tuple itself. -/
def slice (owner low high step : Value) : Run Value :=
  match owner with
  | .text _ t => do
    let s ← sliceOf t.length low high step
    if s.isWhole t.length then return owner
    else if s.step = 1 then Run.pieceOf (s.take t) else Run.newText (s.take t)
  | .tuple _ vs => do
    let s ← sliceOf vs.length low high step
    if s.isWhole vs.length then return owner else Run.newTuple (s.take vs)
  | .list a => do
    let vs ← Run.listAt a
    Run.newList ((← sliceOf vs.length low high step).take vs)
  | .range _ a b c => do
    let s ← sliceOf (rangeLength a b c) low high step
    Run.newRange (a + c * s.start) (a + c * s.stop) (c * s.step)
  | .dict _ => sliceAsKey
  | _ => notSubscriptable owner

/-- Puts values into the places of a slice, one for one. -/
def Slice.put {α : Type} (s : Slice) : Nat → List α → List α → List α
  | k, v :: vs, xs => s.put (k + 1) vs (xs.set (s.start + s.step * k).toNat v)
  | _, [], xs => xs

/-- Replaces a slice of a list. -/
def setSlice (owner low high step value : Value) : Run Unit :=
  match owner with
  | .list a => do
    let xs ← Run.listAt a
    let s ← sliceOf xs.length low high step
    match ← elements? value with
    | none =>
      if s.step = 1 then Run.fail .type "can only assign an iterable"
      else Run.fail .type "must assign iterable to extended slice"
    | some vs =>
      if s.step = 1 then
        let n := s.start.toNat
        Run.store a (.list (xs.take n ++ vs ++ xs.drop (max n s.stop.toNat)))
      else if vs.length = s.count then Run.store a (.list (s.put 0 vs xs))
      else Run.fail .value ("attempt to assign sequence of size " ++ Text.ofNat vs.length ++
        " to extended slice of size " ++ Text.ofNat s.count)
  | .dict _ => sliceAsKey
  | _ => notAssignable owner

/-! ### Length and truth -/

/-- The number of elements of a value, if it has a number of them. -/
def length? (v : Value) : Run (Option Nat) :=
  match v with
  | .text _ t => return some t.length
  | .tuple _ vs => return some vs.length
  | .list a => do return some (← Run.listAt a).length
  | .dict a | .dictView _ _ a => do return some (← Run.dictAt a).length
  | .range _ a b s => return some (rangeLength a b s)
  | _ => return none

/-- Does the value count as true?  Nothing, zero and what has no elements do not. -/
def isTrue (v : Value) : Run Bool := do
  match v.number? with
  | some n => return n.isTrue
  | none =>
    match v with
    | .none => return false
    | _ => return (← length? v) != some 0

end ViewEngine.Script
