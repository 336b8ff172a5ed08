/-
# Parsing scripts

A recursive descent over the tokens of a script.  Every function takes a bound on the depth of the
recursion; `parse` starts with one that no script can exceed, since each step down either reads
characters of the script or passes to the next of a dozen levels of binding strength.

A parser only says whether there is a script.  Which line is to blame if there is none is a question
of its own.
-/
import ViewEngine.Decimal.Shortest
import ViewEngine.Script.Literal
import ViewEngine.Script.Token

namespace ViewEngine.Script

/-- A parser: takes tokens from the front, or fails. -/
abbrev Parser := StateT (List Token) Option

namespace Parser

variable {α : Type}

/-- Fails. -/
def fail : Parser α := fun _ => none

/-- The next token, which stays. -/
def peek : Parser (Option TokenKind) := fun ts => some (ts.head?.map (·.kind), ts)

/-- The line of the next token. -/
def here : Parser Nat := fun ts => some ((ts.head?.map (·.line)).getD 0, ts)

/-- Passes over the next token. -/
def skip : Parser Unit := fun ts =>
  match ts with
  | _ :: rest => some ((), rest)
  | [] => none

/-- Is the next token of the given kind? -/
def atToken (k : TokenKind) : Parser Bool := do return (← peek) = some k

/-- Passes over the next token if it is of the given kind. -/
def accept (k : TokenKind) : Parser Bool := do
  if ← atToken k then
    skip
    return true
  else return false

/-- Passes over the next token, which has to be of the given kind. -/
def expect (k : TokenKind) : Parser Unit := do
  if ← atToken k then skip else fail

/-- The kind of the token behind the next one. -/
def peekSecond : Parser (Option TokenKind) := fun ts => some (ts[1]?.map (·.kind), ts)

/-- A reserved word. -/
def word (w : String) : TokenKind := .keyword w.toList

/-- An operator. -/
def op (o : String) : TokenKind := .op o.toList

/-- The name that comes next. -/
def name : Parser Text := do
  match ← peek with
  | some (.name id) =>
    skip
    return id
  | _ => fail

/-- May an expression begin with the token? -/
def beginsExpression : TokenKind → Bool
  | .name _ | .int .. | .float .. | .string .. => true
  | .keyword w => ["not", "None", "True", "False"].any fun x => x.toList = w
  | .op o => ["(", "[", "\x7b", "-", "+"].any fun x => x.toList = o
  | _ => false

/-- May an item of a display begin with the next token? -/
def startsItem : Parser Bool := do
  match ← peek with
  | some k => return beginsExpression k || k = op "*"
  | none => fail

/-! ### Targets -/

mutual

/-- The expression as a target. -/
def asTarget : Expr → Option Target
  | .name _ id => some (.name id)
  | .tuple l items => (itemTargets items).map (.items l)
  | .list l items => (itemTargets items).map (.items l)
  | .subscript l o i => some (.subscript l o i)
  | .slice l o a b c => some (.slice l o a b c)
  | .field l o id => some (.field l o id)
  | _ => none

/-- The items of a display as targets. -/
def itemTargets : List Item → Option (List Target)
  | [] => some []
  | .plain e :: rest => do
    let t ← asTarget e
    let ts ← itemTargets rest
    return t :: ts
  | _ :: _ => none

end

/-- The expression as a target. -/
def target (e : Expr) : Parser Target :=
  match asTarget e with
  | some t => pure t
  | none => fail

/-- More arguments than a call can have that is made like one of a method. -/
def argumentLimit : Nat := 30

/-- The line to which a failure of a call is attributed: for a method the line of its name, unless
values are spread into its arguments or these are very many. -/
def callLine (line : Nat) (callee : Expr) (items : List Item) : Nat :=
  let isSpread : Item → Bool
    | .spread _ => true
    | _ => false
  let isNamed : Item → Bool
    | .keyword .. => true
    | _ => false
  let size := items.length + (items.any isNamed).toNat
  match callee with
  | .field l _ _ => if items.any isSpread || argumentLimit ≤ size then line else l
  | _ => line

/-! ### Operators -/

/-- The operator of a sum. -/
def sumOp? : TokenKind → Option BinaryOp
  | .op ['+'] => some .add
  | .op ['-'] => some .subtract
  | _ => none

/-- The operator of a product. -/
def productOp? : TokenKind → Option BinaryOp
  | .op ['*'] => some .multiply
  | .op ['/'] => some .divide
  | .op ['/', '/'] => some .floorDivide
  | .op ['%'] => some .remainder
  | _ => none

/-- The operator of an augmented assignment. -/
def augmentOp? : TokenKind → Option BinaryOp
  | .op ['+', '='] => some .add
  | .op ['-', '='] => some .subtract
  | .op ['*', '='] => some .multiply
  | .op ['/', '='] => some .divide
  | .op ['/', '/', '='] => some .floorDivide
  | .op ['%', '='] => some .remainder
  | .op ['*', '*', '='] => some .power
  | _ => none

/-- The comparison that is written with one operator. -/
def comparisonOp? : TokenKind → Option Comparison
  | .op ['=', '='] => some .eq
  | .op ['!', '='] => some .ne
  | .op ['<'] => some .lt
  | .op ['<', '='] => some .le
  | .op ['>'] => some .gt
  | .op ['>', '='] => some .ge
  | _ => none

/-- The comparison that comes next, if one does. -/
def comparison? : Parser (Option Comparison) := do
  match ← peek with
  | none => return none
  | some k =>
    if let some c := comparisonOp? k then
      skip
      return some c
    else if k = word "in" then
      skip
      return some .memberOf
    else if k = word "not" then
      if (← peekSecond) = some (word "in") then
        skip
        skip
        return some .notMemberOf
      else return none
    else if k = word "is" then
      skip
      return some (if ← accept (word "not") then .notSame else .same)
    else return none

/-- The parts of a formatted string without those that are empty texts. -/
def withText (t : Text) (ps : List FormatPart) : List FormatPart :=
  match ps with
  | .text u :: rest => .text (t ++ u) :: rest
  | _ => if t.isEmpty then ps else .text t :: ps

/-- String literals next to each other make one string. -/
def joinParts (formatted : Bool) (ps : List FormatPart) : Expr :=
  match formatted, ps with
  | false, [.text t] => .constant (.text t)
  | false, [] => .constant (.text [])
  | _, _ => .formatted ps

/-! ### Expressions -/

mutual

/-- An expression. -/
def expression : Nat → Parser Expr
  | 0 => fail
  | n + 1 => do
    let a ← disjunction n
    if ← accept (word "if") then
      let c ← disjunction n
      expect (word "else")
      return .choice c a (← expression n)
    else return a

/-- Operands of `or`. -/
def disjunction : Nat → Parser Expr
  | 0 => fail
  | n + 1 => do disjunctionRest n (← conjunction n)

/-- What follows the first operand of `or`. -/
def disjunctionRest : Nat → Expr → Parser Expr
  | 0, _ => fail
  | n + 1, a => do
    if ← accept (word "or") then disjunctionRest n (.disjunction a (← conjunction n))
    else return a

/-- Operands of `and`. -/
def conjunction : Nat → Parser Expr
  | 0 => fail
  | n + 1 => do conjunctionRest n (← inversion n)

/-- What follows the first operand of `and`. -/
def conjunctionRest : Nat → Expr → Parser Expr
  | 0, _ => fail
  | n + 1, a => do
    if ← accept (word "and") then conjunctionRest n (.conjunction a (← inversion n))
    else return a

/-- An operand of `and`. -/
def inversion : Nat → Parser Expr
  | 0 => fail
  | n + 1 => do
    if ← accept (word "not") then return .negation (← inversion n)
    else
      let line ← here
      let a ← sum n
      let links ← comparisonLinks n
      return if links.isEmpty then a else .compare line a links

/-- The links of a chain of comparisons. -/
def comparisonLinks : Nat → Parser (List Link)
  | 0 => fail
  | n + 1 => do
    match ← comparison? with
    | some c =>
      let b ← sum n
      let rest ← comparisonLinks n
      return .mk c b :: rest
    | none => return []

/-- A sum. -/
def sum : Nat → Parser Expr
  | 0 => fail
  | n + 1 => do
    let line ← here
    sumRest n line (← product n)

/-- What follows the first term of a sum. -/
def sumRest : Nat → Nat → Expr → Parser Expr
  | 0, _, _ => fail
  | n + 1, line, a => do
    match (← peek).bind sumOp? with
    | some o =>
      skip
      sumRest n line (.binary line o a (← product n))
    | none => return a

/-- A product. -/
def product : Nat → Parser Expr
  | 0 => fail
  | n + 1 => do
    let line ← here
    productRest n line (← factor n)

/-- What follows the first factor of a product. -/
def productRest : Nat → Nat → Expr → Parser Expr
  | 0, _, _ => fail
  | n + 1, line, a => do
    match (← peek).bind productOp? with
    | some o =>
      skip
      productRest n line (.binary line o a (← factor n))
    | none => return a

/-- A factor: signs and powers. -/
def factor : Nat → Parser Expr
  | 0 => fail
  | n + 1 => do
    let line ← here
    if ← accept (op "-") then return .unary line .minus (← factor n)
    else if ← accept (op "+") then return .unary line .plus (← factor n)
    else
      let a ← primary n
      if ← accept (op "**") then return .binary line .power a (← factor n) else return a

/-- An atom with attributes, calls and subscripts behind it. -/
def primary : Nat → Parser Expr
  | 0 => fail
  | n + 1 => do
    let line ← here
    primaryRest n line (← atom n)

/-- The attributes, calls and subscripts behind an atom. -/
def primaryRest : Nat → Nat → Expr → Parser Expr
  | 0, _, _ => fail
  | n + 1, line, a => do
    if ← accept (op ".") then
      let at' ← here
      let id ← name
      primaryRest n line (.field at' a id)
    else if ← accept (op "(") then
      let items ← arguments n false
      primaryRest n line (.call (callLine line a items) a items)
    else if ← accept (op "[") then
      let e ← subscript n line a
      primaryRest n line e
    else return a

/-- The arguments of a call, up to the closing bracket; no argument without a name follows one with
a name. -/
def arguments : Nat → Bool → Parser (List Item)
  | 0, _ => fail
  | n + 1, named => do
    if ← accept (op ")") then return []
    else
      let item ← argument n named
      let named := named || match item with
        | .keyword .. => true
        | _ => false
      if ← accept (op ",") then return item :: (← arguments n named)
      else
        expect (op ")")
        return [item]

/-- One argument of a call; `named` says whether one with a name has occurred. -/
def argument : Nat → Bool → Parser Item
  | 0, _ => fail
  | n + 1, named => do
    if ← accept (op "*") then return .spread (← expression n)
    else
      let line ← here
      match ← peek, ← peekSecond with
      | some (.name id), some (.op ['=']) =>
        skip
        skip
        return .keyword line id (← expression n)
      | _, _ => if named then fail else return .plain (← expression n)

/-- What follows the opening bracket of a subscript. -/
def subscript : Nat → Nat → Expr → Parser Expr
  | 0, _, _ => fail
  | n + 1, line, a => do
    let start ← here
    let first ← bound n
    if ← accept (op ":") then
      let high ← bound n
      let step ← if ← accept (op ":") then bound n else pure none
      expect (op "]")
      let part (e : Option Expr) : Expr := e.getD (.constant .none)
      return .slice line a (part first) (part high) (part step)
    else
      match first with
      | none => fail
      | some e =>
        if ← atToken (op ",") then
          let items ← moreItems n (.plain e)
          expect (op "]")
          return .subscript line a (.tuple start items)
        else
          expect (op "]")
          return .subscript line a e

/-- A bound of a slice, which may be absent. -/
def bound : Nat → Parser (Option Expr)
  | 0 => fail
  | n + 1 => do
    if (← atToken (op ":")) || (← atToken (op "]")) then return none
    else return some (← expression n)

/-- A name, a literal, a display or an expression in brackets. -/
def atom : Nat → Parser Expr
  | 0 => fail
  | n + 1 => do
    let line ← here
    match ← peek with
    | some (.name id) =>
      skip
      return .name line id
    | some (.int v count) =>
      if digitLimit < count then fail
      else
        skip
        return .constant (.int v)
    | some (.float d e) =>
      skip
      return .constant (.float (Decimal.ofDecimal d e))
    | some (.string ..) => do
      let (formatted, ps) ← strings n line
      return joinParts formatted ps
    | some (.keyword w) =>
      if w = "None".toList then
        skip
        return .constant .none
      else if w = "True".toList then
        skip
        return .constant (.bool true)
      else if w = "False".toList then
        skip
        return .constant (.bool false)
      else fail
    | some (.op o) =>
      if o = ['('] then
        skip
        group n line
      else if o = ['['] then
        skip
        listDisplay n line
      else if o = ['{'] then
        skip
        return .dict line (← entries n)
      else fail
    | _ => fail

/-- The string literals that come next, the first of which stands on a line: is one of them
formatted, and what are their parts? -/
def strings : Nat → Nat → Parser (Bool × List FormatPart)
  | 0, _ => fail
  | n + 1, first => do
    let line ← here
    match ← peek with
    | some (.string raw formatted body) =>
      skip
      let (others, rest) ← strings n first
      if formatted then
        let cut := Cut.ofBody raw body
        if cut.complete then return (true, ← pieces n raw first line rest cut.pieces) else fail
      else
        match unescape? raw body with
        | some t => return (others, withText t rest)
        | none => fail
    | _ => return (false, [])

/-- The parts that pieces of a formatted string on a line stand for, with others behind them. -/
def pieces : Nat → Bool → Nat → Nat → List FormatPart → List Piece → Parser (List FormatPart)
  | 0, _, _, _, _, _ => fail
  | _, _, _, _, rest, [] => return rest
  | n + 1, raw, first, line, rest, .text written :: ps => do
    let behind ← pieces n raw first line rest ps
    match unescape? raw written with
    | some t => return withText t behind
    | none => fail
  | n + 1, raw, first, line, rest, .hole breaks written shown conversion :: ps => do
    let e ← hole n (line + breaks) written
    let behind ← pieces n raw first line rest ps
    return withText shown (.value first e conversion {} :: behind)

/-- The expression that is written in a hole on a line. -/
def hole : Nat → Nat → Text → Parser Expr
  | 0, _, _ => fail
  | n + 1, line, written => fun ts =>
    let inner : Parser Expr := do
      let e ← expression n
      expect .newline
      return e
    match inner (lex line ('(' :: written ++ [')'])).list with
    | some (e, _) => some (e, ts)
    | none => none

/-- What follows an opening parenthesis: a tuple, or one expression. -/
def group : Nat → Nat → Parser Expr
  | 0, _ => fail
  | n + 1, line => do
    if ← accept (op ")") then return .tuple line []
    else
      let first ← item n
      if ← atToken (op ",") then
        let items ← moreItems n first
        expect (op ")")
        return .tuple line items
      else
        match first with
        | .plain e =>
          expect (op ")")
          return e
        | _ => fail

/-- What follows an opening square bracket. -/
def listDisplay : Nat → Nat → Parser Expr
  | 0, _ => fail
  | n + 1, line => do
    if ← accept (op "]") then return .list line []
    else
      let first ← item n
      match first, ← atToken (word "for") with
      | .plain e, true =>
        let clauses ← clauses n
        expect (op "]")
        return .comprehension line e clauses
      | _, _ =>
        let items ← moreItems n first
        expect (op "]")
        return .list line items

/-- The items of a display behind the first one, each behind a comma. -/
def moreItems : Nat → Item → Parser (List Item)
  | 0, _ => fail
  | n + 1, first => do
    if ← accept (op ",") then
      if ← startsItem then return first :: (← moreItems n (← item n))
      else return [first]
    else return [first]

/-- An item of a display. -/
def item : Nat → Parser Item
  | 0 => fail
  | n + 1 => do
    if ← accept (op "*") then return .spread (← sum n) else return .plain (← expression n)

/-- The entries of a dictionary, up to the closing brace. -/
def entries : Nat → Parser (List Entry)
  | 0 => fail
  | n + 1 => do
    if ← accept (op "\x7d") then return []
    else
      let key ← expression n
      expect (op ":")
      let value ← expression n
      if ← accept (op ",") then return .mk key value :: (← entries n)
      else
        expect (op "\x7d")
        return [.mk key value]

/-- The clauses of a comprehension. -/
def clauses : Nat → Parser (List Clause)
  | 0 => fail
  | n + 1 => do
    let line ← here
    if ← accept (word "for") then
      let t ← loopTarget n
      expect (word "in")
      let source ← disjunction n
      return .each line t source :: (← clauses n)
    else if ← accept (word "if") then
      let c ← disjunction n
      return .test c :: (← clauses n)
    else return []

/-- The target of a loop. -/
def loopTarget : Nat → Parser Target
  | 0 => fail
  | n + 1 => do
    let line ← here
    let first ← primary n
    if ← atToken (op ",") then
      let es ← moreTargets n
      target (.tuple line (.plain first :: es))
    else target first

/-- The targets of a loop behind the first one, each behind a comma. -/
def moreTargets : Nat → Parser (List Item)
  | 0 => fail
  | n + 1 => do
    if ← accept (op ",") then
      if ← atToken (word "in") then return []
      else
        let e ← primary n
        return .plain e :: (← moreTargets n)
    else return []

end

/-- Expressions with commas between them, which make a tuple, or one expression. -/
def expressions (n : Nat) : Parser Expr := do
  let line ← here
  let first ← item n
  if ← atToken (op ",") then return .tuple line (← moreItems n first)
  else
    match first with
    | .plain e => return e
    | .spread e => return .starred line e
    | .keyword .. => fail

/-! ### Statements -/

/-- The targets of an assignment and its value, behind the first expression. -/
def assignment (first : Expr) : Nat → Parser (List Target × Expr)
  | 0 => fail
  | n + 1 => do
    let t ← target first
    let e ← expressions n
    if ← accept (op "=") then
      let (ts, v) ← assignment e n
      return (t :: ts, v)
    else return ([t], e)

/-- A single target, for an augmented assignment. -/
def singleTarget (e : Expr) : Parser Target := do
  match ← target e with
  | .items .. => fail
  | t => return t

/-- Does the next token end a simple statement? -/
def atEnd : Parser Bool := do return (← atToken .newline) || (← atToken (op ";"))

/-- A statement that is an expression or an assignment. -/
def expressionStatement (n : Nat) : Parser Statement := do
  let line ← here
  let e ← expressions n
  if ← accept (op "=") then
    let (ts, v) ← assignment e n
    return .assign ts v
  else
    match (← peek).bind augmentOp? with
    | some o =>
      let t ← singleTarget e
      skip
      return .augment line t o (← expressions n)
    | none => return .expression e

/-- A simple statement. -/
def simple (n : Nat) : Parser Statement := do
  let line ← here
  if ← accept (word "pass") then return .pass
  else if ← accept (word "break") then return .leaveLoop line
  else if ← accept (word "continue") then return .nextRound line
  else if ← accept (word "return") then
    if ← atEnd then return .giveBack line (.constant .none)
    else return .giveBack line (← expressions n)
  else if ← accept (word "raise") then
    if ← atEnd then return .throwAgain line else return .throwing line (← expression n)
  else expressionStatement n

/-- Simple statements on one line. -/
def simpleLine : Nat → Parser (List Statement)
  | 0 => fail
  | n + 1 => do
    let s ← simple n
    if ← accept (op ";") then
      if ← accept .newline then return [s] else return s :: (← simpleLine n)
    else
      expect .newline
      return [s]

/-- Passes over the colon of a header. -/
def colon : Parser Unit := expect (op ":")

/-- The parameters of a function, up to the closing parenthesis; `optional` says whether one with a
value has occurred. -/
def parameters : Nat → Bool → Parser (List Parameter)
  | 0, _ => fail
  | n + 1, optional => do
    if ← accept (op ")") then return []
    else
      let line ← here
      let id ← name
      let p : Parameter ← if ← accept (op "=") then
          pure { line, id, fallback := some (← expression n) }
        else if optional then fail
        else pure { line, id }
      if ← accept (op ",") then return p :: (← parameters n p.fallback.isSome)
      else
        expect (op ")")
        return [p]

mutual

/-- Statements, as long as neither a block nor the script ends. -/
def statements : Nat → Parser (List Statement)
  | 0 => fail
  | n + 1 => do
    if (← atToken .dedent) || (← atToken .finish) then return []
    else
      let s ← statement n
      return s ++ (← statements n)

/-- A compound statement, or the simple statements of a line. -/
def statement : Nat → Parser (List Statement)
  | 0 => fail
  | n + 1 => do
    let line ← here
    if ← accept (word "if") then return [← branch n]
    else if ← accept (word "while") then
      let c ← expression n
      colon
      let body ← block n
      return [.repeatWhile line c body (← elseBlock n)]
    else if ← accept (word "for") then
      let t ← loopTarget n
      expect (word "in")
      let source ← expressions n
      colon
      let body ← block n
      return [.forEach line t source body (← elseBlock n)]
    else if ← accept (word "def") then
      let id ← name
      expect (op "(")
      let ps ← parameters n false
      colon
      return [.define line id ps (← block n)]
    else if ← accept (word "try") then
      colon
      let body ← block n
      if ← atToken (word "except") then
        let hs ← handlers n
        let otherwise ← elseBlock n
        return [.attempt line body hs otherwise (← finalBlock n)]
      else
        expect (word "finally")
        colon
        return [.attempt line body [] [] (← block n)]
    else simpleLine n

/-- What follows `if` or `elif`. -/
def branch : Nat → Parser Statement
  | 0 => fail
  | n + 1 => do
    let c ← expression n
    colon
    let yes ← block n
    if ← accept (word "elif") then return .branch c yes [← branch n]
    else return .branch c yes (← elseBlock n)

/-- The block behind `else`, if there is one. -/
def elseBlock : Nat → Parser (List Statement)
  | 0 => fail
  | n + 1 => do
    if ← accept (word "else") then
      colon
      block n
    else return []

/-- The block behind `finally`, if there is one. -/
def finalBlock : Nat → Parser (List Statement)
  | 0 => fail
  | n + 1 => do
    if ← accept (word "finally") then
      colon
      block n
    else return []

/-- The handlers of a `try` statement. -/
def handlers : Nat → Parser (List Handler)
  | 0 => fail
  | n + 1 => do
    let line ← here
    if ← accept (word "except") then
      let h ← if ← accept (op ":") then pure (.all line (← block n))
        else
          let kinds ← expression n
          if ← accept (word "as") then
            let id ← name
            colon
            pure (.bound line kinds id (← block n))
          else
            colon
            pure (.only line kinds (← block n))
      return h :: (← handlers n)
    else return []

/-- A block: simple statements on the line of its header, or indented statements below it. -/
def block : Nat → Parser (List Statement)
  | 0 => fail
  | n + 1 => do
    if ← accept .newline then
      expect .indent
      let s ← statement n
      let rest ← statements n
      expect .dedent
      return s ++ rest
    else simpleLine n

end

/-- A whole script. -/
def script (n : Nat) : Parser Program := do
  let ss ← statements n
  expect .finish
  return ss

/-- A bound on the recursion for a script of some length. -/
def depthFor (length : Nat) : Nat := 20 * length + 60

end Parser

/-- Parses a script. -/
def parse? (t : Text) : Option Program :=
  let ts := lex 1 t
  if ts.ending = .complete then
    ((Parser.script (Parser.depthFor t.length)).run ts.list).map (·.1)
  else none

end ViewEngine.Script
