/-
# Comparing values

Equality goes through tuples, lists and dictionaries; numbers of both kinds are equal if they are
the same number.  Order is defined between numbers, between texts, and between lists or tuples by
the first place where they differ.
-/
import ViewEngine.Script.Show

namespace ViewEngine.Script

/-- Do two lists have the same length and elements of which `eq` holds in each place? -/
def allEqual (eq : Value → Value → Run Bool) : List Value → List Value → Run Bool
  | [], [] => return true
  | a :: as, b :: bs => do
    if ← eq a b then allEqual eq as bs else return false
  | _, _ => return false

/-- The value of the first entry whose key is equal to `key`. -/
def findEntry (eq : Value → Value → Run Bool) (key : Value) :
    List (Value × Value) → Run (Option Value)
  | [] => return none
  | e :: es => do
    if ← eq e.1 key then return some e.2 else findEntry eq key es

/-- Does each entry of the first list have an equal one in the second? -/
def allEntries (eq : Value → Value → Run Bool) (others : List (Value × Value)) :
    List (Value × Value) → Run Bool
  | [] => return true
  | e :: es => do
    match ← findEntry eq e.1 others with
    | some v => if ← eq e.2 v then allEntries eq others es else return false
    | none => return false

/-- The number of numbers in a range. -/
def rangeLength (start stop step : Int) : Nat :=
  if 0 < step then ((stop - start + step - 1) / step).toNat
  else if step < 0 then ((start - stop - step - 1) / (-step)).toNat
  else 0

/-- What tells a range from others: how many numbers it has, the first, and the step if there are
several. -/
def rangeKey (start stop step : Int) : Nat × Int × Int :=
  let n := rangeLength start stop step
  (n, if n = 0 then 0 else start, if n ≤ 1 then 0 else step)

/-- May the value be a key?  Lists and dictionaries may not, alone or inside a tuple. -/
def demandKey (v : Value) : Run Unit :=
  match v with
  | .dictView _ .values _ => return ()
  | .list _ | .dict _ | .dictView .. => do
    Run.fail .type ("unhashable type: '" ++ (← v.typeName) ++ "'")
  | .tuple i (a :: as) => do
    demandKey a
    demandKey (.tuple i as)
  | _ => return ()

/-- Is the value one that a view shows? -/
def inView (eq : Value → Value → Run Bool) (q : DictPart) (es : List (Value × Value))
    (v : Value) : Run Bool :=
  match q, v with
  | .items, .tuple _ [k, w] => do
    demandKey k
    match ← findEntry eq k es with
    | some x => eq x w
    | none => return false
  | .items, _ => return false
  | _, _ => do
    demandKey v
    return (← findEntry eq v es).isSome

/-- Does the second view show all that the first one does of some entries? -/
def viewWithin (eq : Value → Value → Run Bool) (p q : DictPart) (others : List (Value × Value)) :
    List (Value × Value) → Run Bool
  | [] => return true
  | e :: es => do
    if ← inView eq q others (← p.of e) then viewWithin eq p q others es else return false

/-- Does a view compare with views like a set? -/
def DictPart.isSet : DictPart → Bool
  | .values => false
  | _ => true

/-- Equality of values; `room` bounds their nesting. -/
def equalWithin (room : Nat) (v w : Value) : Run Bool :=
  match room with
  | 0 => tooDeep " in comparison"
  | n + 1 =>
    let inside (a b : Value) : Run Bool := if a.isSame b then return true else equalWithin n a b
    match v.number?, w.number? with
    | some a, some b => return a.order? b = some .eq
    | _, _ =>
      match v, w with
      | .text _ s, .text _ t => return s = t
      | .tuple _ as, .tuple _ bs => allEqual inside as bs
      | .list a, .list b => do
        let as ← Run.listAt a
        let bs ← Run.listAt b
        if as.length = bs.length then allEqual inside as bs else return false
      | .dict a, .dict b => do
        let as ← Run.dictAt a
        let bs ← Run.dictAt b
        if as.length = bs.length then allEntries inside bs as else return false
      | .dictView _ p a, .dictView _ q b => do
        if !(p.isSet && q.isSet) then return v.isSame w
        else
          let as ← Run.dictAt a
          let bs ← Run.dictAt b
          if as.length = bs.length then viewWithin inside p q bs as else return false
      | .range _ a b c, .range _ d e f => return rangeKey a b c = rangeKey d e f
      | .method _ m a, .method _ k b => return m = k && a.isSame b
      | _, _ => return v.isSame w

/-- Equality of values. -/
def equal (v w : Value) : Run Bool := equalWithin recursionLimit v w

/-- Equality as containers use it: a value is equal to itself. -/
def equalInside (v w : Value) : Run Bool := if v.isSame w then return true else equal v w

/-- How an order comparison is written. -/
def Comparison.symbol : Comparison → Text
  | lt => "<"
  | le => "<="
  | gt => ">"
  | ge => ">="
  | eq => "=="
  | ne => "!="
  | same => "is"
  | notSame => "is not"
  | memberOf => "in"
  | notMemberOf => "not in"

/-- Does the outcome of a comparison satisfy the operator? -/
def Comparison.holds (c : Comparison) (o : Ordering) : Bool :=
  match c with
  | lt => o = .lt
  | le => o != .gt
  | gt => o = .gt
  | ge => o != .lt
  | eq => o = .eq
  | _ => o != .eq

/-- The order of two texts. -/
def textOrder (s t : Text) : Ordering :=
  if s = t then .eq else if Text.le s t then .lt else .gt

/-- What is said of values that have no order. -/
def noOrder (c : Comparison) (v w : Value) : Run Bool := do
  Run.fail .type ("'" ++ c.symbol ++ "' not supported between instances of '" ++ (← v.typeName)
    ++ "' and '" ++ (← w.typeName) ++ "'")

/-- Compares lists by the first place where they differ, or else by their lengths. -/
def firstDifference (decide : Value → Value → Run Bool) (c : Comparison) :
    List Value → List Value → Run Bool
  | a :: as, b :: bs => do
    if ← equalInside a b then firstDifference decide c as bs else decide a b
  | as, bs => return c.holds (compare as.length bs.length)

/-- An order comparison of values; `room` bounds their nesting. -/
def orderedWithin (room : Nat) (c : Comparison) (v w : Value) : Run Bool :=
  match room with
  | 0 => tooDeep " in comparison"
  | n + 1 =>
    match v.number?, w.number? with
    | some a, some b => return (a.order? b).any c.holds
    | _, _ =>
      match v, w with
      | .text _ s, .text _ t => return c.holds (textOrder s t)
      | .tuple _ as, .tuple _ bs => firstDifference (orderedWithin n c) c as bs
      | .list a, .list b => do
        firstDifference (orderedWithin n c) c (← Run.listAt a) (← Run.listAt b)
      | .dictView _ p a, .dictView _ q b => do
        if !(p.isSet && q.isSet) then noOrder c v w
        else
          let as ← Run.dictAt a
          let bs ← Run.dictAt b
          if !c.holds (compare as.length bs.length) then return false
          else if c = .lt || c = .le then viewWithin equalInside p q bs as
          else viewWithin equalInside q p as bs
      | _, _ => noOrder c v w

/-- An order comparison of values. -/
def ordered (c : Comparison) (v w : Value) : Run Bool := orderedWithin recursionLimit c v w

/-! ### Keys -/

/-- The value of a key. -/
def lookUp (key : Value) (es : List (Value × Value)) : Run (Option Value) := do
  demandKey key
  findEntry equalInside key es

/-- Sets the value of a key: in its place, or at the end if the key is new. -/
def setEntry (key value : Value) : List (Value × Value) → Run (List (Value × Value))
  | [] => return [(key, value)]
  | e :: es => do
    if ← equalInside e.1 key then return (e.1, value) :: es
    else return e :: (← setEntry key value es)

/-- Sets the value of a key. -/
def insertEntry (key value : Value) (es : List (Value × Value)) : Run (List (Value × Value)) := do
  demandKey key
  setEntry key value es

/-- Sets the values of several keys one after the other. -/
def insertEntries (es : List (Value × Value)) : List (Value × Value) → Run (List (Value × Value))
  | [] => return es
  | e :: rest => do insertEntries (← insertEntry e.1 e.2 es) rest

end ViewEngine.Script
