/-
# Operators

What the operators do to values: arithmetic on numbers, joining and repeating of texts, lists and
tuples, filling in of a text, and the comparisons.

A sequence that is joined with an empty one of its kind, or taken once, stays itself.
-/
import ViewEngine.Script.Fill

namespace ViewEngine.Script

/-- How an operator is named in a complaint about its operands. -/
def BinaryOp.complaintText (op : BinaryOp) (inPlace : Bool) : Text :=
  let plain : Text := match op with
    | add => "+"
    | subtract => "-"
    | multiply => "*"
    | divide => "/"
    | floorDivide => "//"
    | remainder => "%"
    | power => if inPlace then "**" else "** or pow()"
  if inPlace then plain ++ ['='] else plain

/-- What is said of operands that an operator does not take. -/
def unsupported {α : Type} (op : BinaryOp) (inPlace : Bool) (v w : Value) : Run α := do
  Run.fail .type ("unsupported operand type(s) for " ++ op.complaintText inPlace ++ ": '" ++
    (← v.typeName) ++ "' and '" ++ (← w.typeName) ++ "'")

/-! ### Joining and repeating -/

/-- What is said of a sequence that is joined with something else. -/
def onlyJoins {α : Type} (kind : Text) (w : Value) : Run α := do
  Run.fail .type ("can only concatenate " ++ kind ++ " (not \"" ++ (← w.typeName) ++ "\") to " ++
    kind)

/-- How often a sequence is repeated. -/
def timesOf (w : Value) : Run Int :=
  match w.whole? with
  | some n =>
    if n < -placeLimit ∨ placeLimit ≤ n then
      Run.fail .overflow "cannot fit 'int' into an index-sized integer"
    else return n
  | none => do
    Run.fail .type ("can't multiply sequence by non-int of type '" ++ (← w.typeName) ++ "'")

/-- How often a list or tuple of some length is repeated. -/
def repeatCount (length : Nat) (w : Value) : Run Nat := do
  let n ← timesOf w
  if sizeLimit < n * length then tooLarge else return n.toNat

/-- How often a text of some length is repeated. -/
def textCount (length : Nat) (w : Value) : Run Nat := do
  if placeLimit ≤ (← timesOf w) * length then
    Run.fail .overflow "repeated string is too long"
  else repeatCount length w

/-- The list so many times in a row. -/
def repeated {α : Type} (n : Nat) (xs : List α) : List α := (List.replicate n xs).flatten

/-- A sequence repeated; nothing if the value cannot be repeated. -/
def repeat? (inPlace : Bool) (v w : Value) : Option (Run Value) :=
  match v with
  | .text _ t => some do
    let n ← textCount t.length w
    if n = 1 then return v else Run.newText (repeated n t)
  | .tuple _ vs => some do
    let n ← repeatCount vs.length w
    if n = 1 then return v else Run.newTuple (repeated n vs)
  | .list a => some do
    let vs ← Run.listAt a
    let n ← repeatCount vs.length w
    if inPlace then
      Run.store a (.list (repeated n vs))
      return v
    else Run.newList (repeated n vs)
  | _ => none

/-- The sum of two values of which one is no number. -/
def join (inPlace : Bool) (v w : Value) : Run Value :=
  match v, w with
  | .text _ s, .text _ t =>
    if t.isEmpty then return v else if s.isEmpty then return w else Run.newText (s ++ t)
  | .text .., _ => onlyJoins "str" w
  | .tuple _ vs, .tuple _ ws =>
    if vs.isEmpty then return w else if ws.isEmpty then return v else Run.newTuple (vs ++ ws)
  | .tuple .., _ => onlyJoins "tuple" w
  | .list a, _ =>
    if inPlace then do
      let ws ← elements w
      Run.store a (.list ((← Run.listAt a) ++ ws))
      return v
    else
      match w with
      | .list b => do Run.newList ((← Run.listAt a) ++ (← Run.listAt b))
      | _ => onlyJoins "list" w
  | _, _ => unsupported .add inPlace v w

/-- Is the value of a kind that could be repeated, but is not? -/
def Value.refusesRepeating : Value → Run Bool
  | dict _ | dictView .. | range .. | object _ => return true
  | fault a => do
    match (← Run.faultAt a).kind with
    | .engine _ => return true
    | _ => return false
  | _ => return false

/-- The product of two values of which one is no number. -/
def product (inPlace : Bool) (v w : Value) : Run Value := do
  match repeat? inPlace v w with
  | some r => r
  | none =>
    if inPlace && (← v.refusesRepeating) then unsupported .multiply inPlace v w
    else match repeat? false w v with
      | some r => r
      | none => unsupported .multiply inPlace v w

/-! ### Operators -/

/-- The whole number that a value is; a truth value is none yet. -/
def Value.exact (v : Value) (n : Int) : Run Value :=
  match v with
  | .int .. => return v
  | _ => Run.newInt n

/-- The value of an operation; `inPlace` says whether the result replaces the left operand. -/
def operate (op : BinaryOp) (inPlace : Bool) (v w : Value) : Run Value :=
  match v.number?, w.number? with
  | some (.int a), some (.int b) =>
    if op = .remainder && Number.remainderIsSelf a b then v.exact a else Number.onInts op a b
  | some a, some b => a.apply op b
  | _, _ =>
    match op, v with
    | .add, _ => join inPlace v w
    | .multiply, _ => product inPlace v w
    | .remainder, .text _ t => fillText v t w
    | _, _ => unsupported op inPlace v w

/-- The value of an operation on one operand. -/
def operateOn (op : UnaryOp) (v : Value) : Run Value :=
  match v.number?, op with
  | some (.int n), .plus => v.exact n
  | some (.float _), .plus => return v
  | some n, .minus => n.negate
  | none, _ => do
    let sign : Text := match op with
      | .plus => "+"
      | .minus => "-"
    Run.fail .type ("bad operand type for unary " ++ sign ++ ": '" ++ (← v.typeName) ++ "'")

/-- The outcome of a comparison. -/
def compareValues (c : Comparison) (v w : Value) : Run Bool :=
  match c with
  | .eq => equal v w
  | .ne => do return !(← equal v w)
  | .lt | .le | .gt | .ge => ordered c v w
  | .same => return v.isSame w
  | .notSame => return !v.isSame w
  | .memberOf => isMember v w
  | .notMemberOf => do return !(← isMember v w)

end ViewEngine.Script
