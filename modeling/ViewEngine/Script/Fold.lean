/-
# Folding

Operations on values that a script itself says are done once, when it is compiled: arithmetic, the
joining and repeating of short texts and tuples, and the looking up of elements.  Tuples of such
values become such values, and so does one name.  An operation that fails, or whose value would be
large, is left as it is.

Filling values into a text with places of the simplest kind becomes a formatted string; the values
are then shown one by one as they are found.
-/
import ViewEngine.Script.Operation

namespace ViewEngine.Script

namespace Constant

mutual

/-- The value as one that a script says. -/
def ofValue? : Value → Option Constant
  | .none => some .none
  | .bool b => some (.bool b)
  | .int _ n => some (.int n)
  | .float _ x => some (.float x)
  | .text _ t => some (.text t)
  | .tuple _ vs => (ofValues? vs).map .tuple
  | _ => Option.none

/-- The values of the items of a tuple. -/
def ofValues? : List Value → Option (List Constant)
  | [] => some []
  | v :: vs => do
    let k ← ofValue? v
    let ks ← ofValues? vs
    some (k :: ks)

end

/-- The result of a run as a value that a script says. -/
def ofRun? (x : Run Value) : Option Constant :=
  match x.alone with
  | .ok v => ofValue? v
  | .error _ => Option.none

/-! ### What is not too large -/

/-- The whole number that a value is. -/
def whole? : Constant → Option Int
  | .bool b => some (if b then 1 else 0)
  | .int n => some n
  | _ => Option.none

/-- How many bits a number needs. -/
def bits (n : Int) : Nat := if n = 0 then 0 else n.natAbs.log2 + 1

/-- The most bits of a product. -/
def bitLimit : Nat := 128

/-- The most items of a tuple. -/
def itemLimit : Nat := 256

/-- The most items of a tuple and all tuples in it. -/
def nestedLimit : Nat := 1024

/-- The most characters of a text. -/
def textLimit : Nat := 4096

mutual

/-- How many items a value and all tuples in it have. -/
def weight : Constant → Nat
  | .tuple ks => ks.length + weights ks
  | _ => 0

/-- How many items values and all tuples in them have. -/
def weights : List Constant → Nat
  | [] => 0
  | k :: ks => k.weight + weights ks

end

/-- May a value be repeated so often? -/
def mayRepeat (n : Int) : Constant → Bool
  | .text t => t.isEmpty || (0 ≤ n && n.toNat ≤ textLimit / t.length)
  | .tuple ks =>
    ks.isEmpty || (0 ≤ n && n.toNat ≤ itemLimit / ks.length &&
      (n = 0 || (tuple ks).weight ≤ nestedLimit / n.toNat))
  | _ => true

/-- May two values be multiplied? -/
def mayMultiply (a b : Constant) : Bool :=
  match a.whole?, b.whole? with
  | some m, some n => m = 0 || n = 0 || bits m + bits n ≤ bitLimit
  | some m, .none => b.mayRepeat m
  | .none, some n => a.mayRepeat n
  | .none, .none => true

/-- May a value be raised to a power? -/
def mayRaise (a b : Constant) : Bool :=
  match a.whole?, b.whole? with
  | some m, some n => m = 0 || n ≤ 0 || bits m ≤ bitLimit / n.toNat
  | _, _ => true

/-- May an operation be done in advance? -/
def mayOperate (op : BinaryOp) (a b : Constant) : Bool :=
  match op with
  | .multiply => a.mayMultiply b
  | .power => a.mayRaise b
  | .remainder =>
    match a with
    | .text _ => false
    | _ => true
  | _ => true

/-- The value of an operation that is done in advance. -/
def operate? (op : BinaryOp) (a b : Constant) : Option Constant :=
  if mayOperate op a b then ofRun? (operate op false a.toValue b.toValue) else Option.none

end Constant

/-! ### Texts with simple places -/

namespace Fold

/-- A number of fewer than three digits at the front of a text, and what follows it; `none` if there
are more digits. -/
def shortNumber? (t : Text) : Option (Nat × Text) :=
  let ds := t.takeWhile Char.isDigit
  if 3 ≤ ds.length then none
  else some (ds.foldl (fun n c => n * 10 + (c.toNat - 48)) 0, t.drop ds.length)

/-- The conversion of a letter. -/
def conversion? (c : Char) : Option Conversion :=
  match c with
  | 's' => some .plain
  | 'r' => some .quoted
  | 'a' => some .ascii
  | _ => none

/-- A simple place at the front of a text, behind its percent sign, and what follows it. -/
def place? (t : Text) : Option (Conversion × Fit × Text) := do
  let isFlag (c : Char) : Bool := c = '-' || c = '+' || c = ' ' || c = '#' || c = '0'
  let flags := t.takeWhile isFlag
  let (width, t) ← shortNumber? (t.drop flags.length)
  let (precision, t) ← match t with
    | '.' :: rest => (shortNumber? rest).map fun p => (some p.1, p.2)
    | _ => some (none, t)
  match t with
  | c :: rest =>
    let k ← conversion? c
    some (k, { left := flags.contains '-', width, precision }, rest)
  | [] => none

/-- The text at the front up to a place, and what follows from the place on. -/
def plainRun : Text → Text × Text
  | [] => ([], [])
  | '%' :: '%' :: cs => ('%' :: (plainRun cs).1, (plainRun cs).2)
  | '%' :: cs => ([], '%' :: cs)
  | c :: cs => (c :: (plainRun cs).1, (plainRun cs).2)

/-- The line on which an expression begins, if its failure to be shown can matter. -/
def lineOf : Expr → Nat
  | .name l _ | .unary l .. | .binary l .. | .compare l .. | .tuple l _ | .list l _ | .dict l _
  | .comprehension l .. | .subscript l .. | .slice l .. => l
  | .field _ a _ | .conjunction a _ | .disjunction a _ | .choice _ a _ | .call _ a _ => lineOf a
  | _ => 0

/-- The parts of a formatted string with as many simple places as there are values. -/
def parts? : Text → List Item → Option (List FormatPart)
  | t, items => go (t.length + 1) t items
where
  /-- The parts, of which there are at most so many. -/
  go : Nat → Text → List Item → Option (List FormatPart)
    | 0, _, _ => none
    | n + 1, t, items =>
      let (front, rest) := plainRun t
      let add (ps : List FormatPart) := if front.isEmpty then ps else .text front :: ps
      match rest, items with
      | [], [] => some (add [])
      | _ :: rest, .plain e :: items => do
        let (k, fit, rest) ← place? rest
        let ps ← go n rest items
        some (add (.value (lineOf e) e k fit :: ps))
      | _, _ => none

/-- A binary operation, done in advance if that can be. -/
def binary (line : Nat) (op : BinaryOp) (a b : Expr) : Expr :=
  match a, b with
  | .constant j, .constant k =>
    match Constant.operate? op j k with
    | some r => .constant r
    | none => .binary line op a b
  | .constant (.text t), .tuple _ items =>
    match op, parts? t items with
    | .remainder, some ps => .formatted ps
    | _, _ => .binary line op a b
  | _, _ => .binary line op a b

/-- A unary operation, done in advance if that can be. -/
def unary (line : Nat) (op : UnaryOp) (a : Expr) : Expr :=
  match a with
  | .constant k =>
    match Constant.ofRun? (operateOn op k.toValue) with
    | some r => .constant r
    | none => .unary line op a
  | _ => .unary line op a

/-- A negation, done in advance if that can be. -/
def negation (a : Expr) : Expr :=
  match a with
  | .constant k =>
    match Run.alone (isTrue k.toValue) with
    | .ok b => .constant (.bool !b)
    | .error _ => .negation a
  | _ => .negation a

/-- The items of a display if the script says them all. -/
def constants? : List Item → Option (List Constant)
  | [] => some []
  | .plain (.constant k) :: rest => (constants? rest).map (k :: ·)
  | _ => none

/-- A tuple, which is a value of the script if its items are. -/
def tuple (line : Nat) (items : List Item) : Expr :=
  match constants? items with
  | some ks => .constant (.tuple ks)
  | none => .tuple line items

/-- An element, looked up in advance if that can be. -/
def subscript (line : Nat) (owner index : Expr) : Expr :=
  match owner, index with
  | .constant j, .constant k =>
    match Constant.ofRun? (lookAt j.toValue k.toValue) with
    | some r => .constant r
    | none => .subscript line owner index
  | _, _ => .subscript line owner index

end Fold

/-! ### Names -/

/-- The name that stands for a truth value in every script, whatever is bound to it. -/
def debugId : Text := "__debug__"

/-- A name; one of them stands for a value that is known in advance. -/
def Fold.name (line : Nat) (id : Text) : Expr :=
  if id = debugId then .constant (.bool true) else .name line id

/-! ### Whole scripts -/

mutual

/-- The expression with all folded that can be. -/
def Expr.folded : Expr → Expr
  | .constant k => .constant k
  | .name l id => Fold.name l id
  | .formatted ps => .formatted (foldParts ps)
  | .unary l op a => Fold.unary l op a.folded
  | .binary l op a b => Fold.binary l op a.folded b.folded
  | .compare l a links => .compare l a.folded (foldLinks links)
  | .negation a => Fold.negation a.folded
  | .conjunction a b => .conjunction a.folded b.folded
  | .disjunction a b => .disjunction a.folded b.folded
  | .choice k a b => .choice k.folded a.folded b.folded
  | .tuple l items => Fold.tuple l (foldItems items)
  | .list l items => .list l (foldItems items)
  | .dict l entries => .dict l (foldEntries entries)
  | .comprehension l body clauses => .comprehension l body.folded (foldClauses clauses)
  | .field l a id => .field l a.folded id
  | .subscript l a b => Fold.subscript l a.folded b.folded
  | .slice l a b c d => .slice l a.folded b.folded c.folded d.folded
  | .call l f items => .call l f.folded (foldItems items)
  | .starred l a => .starred l a.folded

/-- Parts of a formatted string, folded. -/
def foldParts : List FormatPart → List FormatPart
  | [] => []
  | .text t :: ps => .text t :: foldParts ps
  | .value l e k fit :: ps => .value l e.folded k fit :: foldParts ps

/-- Links of a chain of comparisons, folded. -/
def foldLinks : List Link → List Link
  | [] => []
  | .mk op e :: ls => .mk op e.folded :: foldLinks ls

/-- Items, folded. -/
def foldItems : List Item → List Item
  | [] => []
  | .plain e :: is => .plain e.folded :: foldItems is
  | .spread e :: is => .spread e.folded :: foldItems is
  | .keyword l id e :: is => .keyword l id e.folded :: foldItems is

/-- Entries, folded. -/
def foldEntries : List Entry → List Entry
  | [] => []
  | .mk k v :: es => .mk k.folded v.folded :: foldEntries es

/-- Clauses, folded. -/
def foldClauses : List Clause → List Clause
  | [] => []
  | .each l t e :: cs => .each l t.folded e.folded :: foldClauses cs
  | .test e :: cs => .test e.folded :: foldClauses cs

/-- The target with all folded that can be. -/
def Target.folded : Target → Target
  | .name id => .name id
  | .items l ts => .items l (foldTargets ts)
  | .subscript l a b => .subscript l a.folded b.folded
  | .slice l a b c d => .slice l a.folded b.folded c.folded d.folded
  | .field l a id => .field l a.folded id

/-- Targets, folded. -/
def foldTargets : List Target → List Target
  | [] => []
  | t :: ts => t.folded :: foldTargets ts

end

/-- The parameter with its value folded. -/
def Parameter.folded (p : Parameter) : Parameter := { p with fallback := p.fallback.map Expr.folded }

mutual

/-- The statement with all folded that can be. -/
def Statement.folded : Statement → Statement
  | .expression e => .expression e.folded
  | .assign ts e => .assign (foldTargets ts) e.folded
  | .augment l t op e => .augment l t.folded op e.folded
  | .pass => .pass
  | .leaveLoop l => .leaveLoop l
  | .nextRound l => .nextRound l
  | .giveBack l e => .giveBack l e.folded
  | .throwing l e => .throwing l e.folded
  | .throwAgain l => .throwAgain l
  | .branch k yes no => .branch k.folded (foldStatements yes) (foldStatements no)
  | .repeatWhile l k body otherwise =>
    .repeatWhile l k.folded (foldStatements body) (foldStatements otherwise)
  | .forEach l t e body otherwise =>
    .forEach l t.folded e.folded (foldStatements body) (foldStatements otherwise)
  | .define l id ps body => .define l id (ps.map Parameter.folded) (foldStatements body)
  | .attempt l body handlers otherwise final =>
    .attempt l (foldStatements body) (foldHandlers handlers) (foldStatements otherwise)
      (foldStatements final)

/-- Statements, folded. -/
def foldStatements : List Statement → List Statement
  | [] => []
  | s :: ss => s.folded :: foldStatements ss

/-- Handlers, folded. -/
def foldHandlers : List Handler → List Handler
  | [] => []
  | .all l body :: hs => .all l (foldStatements body) :: foldHandlers hs
  | .only l e body :: hs => .only l e.folded (foldStatements body) :: foldHandlers hs
  | .bound l e id body :: hs => .bound l e.folded id (foldStatements body) :: foldHandlers hs

end

end ViewEngine.Script
