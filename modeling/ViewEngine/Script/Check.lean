/-
# Scripts that are refused although they parse

First no function may have two parameters of one name.  Then the script is gone through in the order
in which it would be turned into instructions: `return` has to stand inside a function, `break` and
`continue` inside a loop, a handler for all failures has to be the last one, a call gives no name
twice, a value is only spread where several can stand, and blocks are not nested too deeply.

A statement that leaves a `try` statement runs the final statements of that first, and these are gone
through in its place, too.
-/
import ViewEngine.Script.Syntax

namespace ViewEngine.Script

/-- The outcome of a check: the line to blame if it fails. -/
abbrev Verdict := Except Nat Unit

/-- Passes if the condition holds; else the line is to blame. -/
def demand (condition : Bool) (line : Nat) : Verdict := if condition then .ok () else .error line

/-! ### Parameters -/

/-- Refuses a parameter whose name one before it has. -/
def distinctParameters (seen : List Text) : List Parameter → Verdict
  | [] => .ok ()
  | p :: ps => do
    demand (!seen.contains p.id) p.line
    distinctParameters (p.id :: seen) ps

mutual

/-- Refuses functions with two parameters of one name. -/
def Statement.distinct : Statement → Verdict
  | .define _ _ ps body => do
    distinctParameters [] ps
    allDistinct body
  | .branch _ yes no => do
    allDistinct yes
    allDistinct no
  | .repeatWhile _ _ body otherwise => do
    allDistinct body
    allDistinct otherwise
  | .forEach _ _ _ body otherwise => do
    allDistinct body
    allDistinct otherwise
  | .attempt _ body handlers otherwise final => do
    allDistinct body
    allDistinct otherwise
    handlersDistinct handlers
    allDistinct final
  | .expression _ | .assign .. | .augment .. | .pass | .leaveLoop _ | .nextRound _ | .giveBack ..
  | .throwing .. | .throwAgain _ => .ok ()

/-- Refuses functions with two parameters of one name among statements. -/
def allDistinct : List Statement → Verdict
  | [] => .ok ()
  | s :: ss => do
    s.distinct
    allDistinct ss

/-- Refuses functions with two parameters of one name among handlers. -/
def handlersDistinct : List Handler → Verdict
  | [] => .ok ()
  | .all _ body :: hs => do
    allDistinct body
    handlersDistinct hs
  | .only _ _ body :: hs => do
    allDistinct body
    handlersDistinct hs
  | .bound _ _ _ body :: hs => do
    allDistinct body
    handlersDistinct hs

end

/-! ### Expressions -/

/-- The arguments that a call passes by name, with their lines. -/
def namedArguments : List Item → List (Text × Nat)
  | [] => []
  | .keyword line id _ :: is => (id, line) :: namedArguments is
  | _ :: is => namedArguments is

/-- Refuses names that occur again; the line of the second occurrence is to blame. -/
def distinctNames : List (Text × Nat) → Verdict
  | [] => .ok ()
  | n :: ns => do
    match ns.find? fun m => m.1 = n.1 with
    | some m => .error m.2
    | none => distinctNames ns

mutual

/-- Checks an expression. -/
def Expr.check : Expr → Verdict
  | .constant _ | .name .. => .ok ()
  | .starred line _ => .error line
  | .formatted ps => checkParts ps
  | .unary _ _ a | .negation a | .field _ a _ => a.check
  | .binary _ _ a b | .conjunction a b | .disjunction a b | .subscript _ a b => do
    a.check
    b.check
  | .compare _ a links => do
    a.check
    checkLinks links
  | .choice k a b => do
    k.check
    a.check
    b.check
  | .tuple _ items | .list _ items => checkItems items
  | .dict _ entries => checkEntries entries
  | .comprehension _ body clauses => do
    match clauses with
    | .each _ t source :: rest =>
      t.check
      checkClauses rest
      body.check
      source.check
    | _ => .ok ()
  | .slice _ a b c d => do
    a.check
    b.check
    c.check
    d.check
  | .call _ f items => do
    distinctNames (namedArguments items)
    f.check
    checkItems items
    checkNamed items

/-- Checks the parts of a formatted string. -/
def checkParts : List FormatPart → Verdict
  | [] => .ok ()
  | .text _ :: ps => checkParts ps
  | .value _ e _ _ :: ps => do
    e.check
    checkParts ps

/-- Checks the links of a chain of comparisons. -/
def checkLinks : List Link → Verdict
  | [] => .ok ()
  | .mk _ e :: ls => do
    e.check
    checkLinks ls

/-- Checks items without a name. -/
def checkItems : List Item → Verdict
  | [] => .ok ()
  | .plain e :: is => do
    e.check
    checkItems is
  | .spread e :: is => do
    e.check
    checkItems is
  | .keyword .. :: is => checkItems is

/-- Checks items with a name. -/
def checkNamed : List Item → Verdict
  | [] => .ok ()
  | .keyword _ _ e :: is => do
    e.check
    checkNamed is
  | .plain _ :: is => checkNamed is
  | .spread _ :: is => checkNamed is

/-- Checks entries. -/
def checkEntries : List Entry → Verdict
  | [] => .ok ()
  | .mk k v :: es => do
    k.check
    v.check
    checkEntries es

/-- Checks clauses. -/
def checkClauses : List Clause → Verdict
  | [] => .ok ()
  | .each _ t e :: cs => do
    e.check
    t.check
    checkClauses cs
  | .test e :: cs => do
    e.check
    checkClauses cs

/-- Checks a target. -/
def Target.check : Target → Verdict
  | .name _ => .ok ()
  | .items _ ts => checkTargets ts
  | .subscript _ a b => do
    a.check
    b.check
  | .slice _ a b c d => do
    a.check
    b.check
    c.check
    d.check
  | .field _ a _ => a.check

/-- Checks targets. -/
def checkTargets : List Target → Verdict
  | [] => .ok ()
  | t :: ts => do
    t.check
    checkTargets ts

end

/-! ### Statements -/

/-- A block around a statement. -/
inductive Block where
  /-- The body of a loop. -/
  | loop
  /-- The body of a `try` statement with final statements. -/
  | final (statements : List Statement)
  /-- A block that is left without more ado. -/
  | plain

/-- The greatest number of blocks inside each other. -/
def blockLimit : Nat := 20

/-- Where a statement stands. -/
structure Surroundings where
  /-- Inside a function? -/
  inFunction : Bool := false
  /-- The blocks around it, innermost first. -/
  blocks : List Block := []

/-- Inside one more block, which begins on a line. -/
def Surroundings.inside (s : Surroundings) (line : Nat) (b : Block) : Except Nat Surroundings :=
  if s.blocks.length < blockLimit then .ok { s with blocks := b :: s.blocks } else .error line

/-- Is the value one that a script itself says? -/
def Expr.isConstant : Expr → Bool
  | .constant _ => true
  | _ => false

mutual

/-- Checks the statements of a block.  Like all checks of statements it takes a bound on the depth of
the recursion. -/
def checkAll : Nat → Surroundings → List Statement → Verdict
  | 0, _, _ => .ok ()
  | _, _, [] => .ok ()
  | n + 1, s, t :: ts => do
    checkOne n s t
    checkAll n s ts

/-- Checks a statement. -/
def checkOne : Nat → Surroundings → Statement → Verdict
  | 0, _, _ => .ok ()
  | n + 1, s, t =>
    match t with
    | .expression e | .throwing _ e => e.check
    | .assign ts e => do
      e.check
      checkTargets ts
    | .augment _ t _ e => do
      t.check
      e.check
    | .pass | .throwAgain _ => .ok ()
    | .leaveLoop line | .nextRound line => do
      demand (← unwind n s true false s.blocks) line
    | .giveBack line e => do
      demand s.inFunction line
      e.check
      let _ ← unwind n s false (!e.isConstant) s.blocks
    | .branch k yes no => do
      k.check
      checkAll n s yes
      checkAll n s no
    | .repeatWhile line k body otherwise => do
      let inner ← s.inside line .loop
      k.check
      checkAll n inner body
      checkAll n s otherwise
    | .forEach line t e body otherwise => do
      let inner ← s.inside line .loop
      e.check
      t.check
      checkAll n inner body
      checkAll n s otherwise
    | .define _ _ ps body => do
      ps.forM fun p => match p.fallback with
        | some e => e.check
        | none => .ok ()
      checkAll n { inFunction := true } body
    | .attempt line body handlers otherwise final =>
      if final.isEmpty then checkAttempt n s line body handlers otherwise
      else do
        let inner ← s.inside line (.final final)
        if handlers.isEmpty then checkAll n inner body
        else checkAttempt n inner line body handlers otherwise
        checkAll n s final
        checkAll n (← s.inside line .plain) final

/-- Checks a `try` statement apart from its final statements. -/
def checkAttempt : Nat → Surroundings → Nat → List Statement → List Handler → List Statement →
    Verdict
  | 0, _, _, _, _, _ => .ok ()
  | n + 1, s, line, body, handlers, otherwise => do
    checkAll n (← s.inside line .plain) body
    checkAll n s otherwise
    checkHandlers n (← s.inside line .plain) handlers

/-- Checks the handlers of a `try` statement. -/
def checkHandlers : Nat → Surroundings → List Handler → Verdict
  | 0, _, _ => .ok ()
  | _, _, [] => .ok ()
  | n + 1, s, h :: hs => do
    match h with
    | .all line body =>
      demand hs.isEmpty line
      checkAll n (← s.inside line .plain) body
    | .only line e body =>
      e.check
      checkAll n (← s.inside line .plain) body
    | .bound line e _ body =>
      e.check
      checkAll n (← s.inside line .plain) body
    checkHandlers n s hs

/-- Goes through the final statements that run when blocks are left, up to the innermost loop if
`toLoop` holds; is there such a loop?  A value that is given back meanwhile takes a block of its
own. -/
def unwind : Nat → Surroundings → Bool → Bool → List Block → Except Nat Bool
  | 0, _, _, _, _ => .ok true
  | _, _, _, _, [] => .ok false
  | n + 1, s, toLoop, holds, b :: rest => do
    match b with
    | .loop => if toLoop then return true else unwind n s toLoop holds rest
    | .plain => unwind n s toLoop holds rest
    | .final body =>
      checkAll n { s with blocks := if holds then .plain :: rest else rest } body
      unwind n s toLoop holds rest

end

/-- Checks a script of some length; the line to blame if it is refused. -/
def check (length : Nat) (s : Program) : Verdict := do
  allDistinct s
  checkAll (4 * length + 8) {} s

end ViewEngine.Script
