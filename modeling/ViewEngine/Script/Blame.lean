/-
# The line to blame

A script that is no script is read by the grammar twice.  The first time only scripts are looked
for; the second time also what wrong scripts look like.  What is recognised names the line to blame.
If nothing is recognised, the token to blame is the last one that the first reading looked at.

A rule that binds tightly is tried at one position over and over, so what it has read there is
remembered.  This is more than a matter of speed: what was read while wrong forms were not tried is
taken as it is later.

Once a line is named, the rest of the script is still cut into tokens: a fault of the cutting goes
before a fault of the grammar, and so does a bracket that is never closed.
-/
import Std.Data.HashMap
import ViewEngine.Script.Grammar.Expression
import ViewEngine.Script.Grammar.Parameter
import ViewEngine.Script.Grammar.Pattern
import ViewEngine.Script.Grammar.Statement
import ViewEngine.Script.Grammar.Target
import ViewEngine.Script.Literal
import ViewEngine.Script.Token

namespace ViewEngine.Script

namespace Grammar

/-- The forms of a rule. -/
def Rule.forms : Rule → List Form
  | .statement r => r.forms
  | .pattern r => r.forms
  | .expression r => r.forms
  | .target r => r.forms
  | .parameter p r => r.forms p

/-- How a rule is tried at a position. -/
inductive Habit where
  /-- Anew every time. -/
  | forgetful
  /-- Once. -/
  | remembered
  /-- With longer and longer beginnings, since the rule may begin with itself. -/
  | growing
deriving DecidableEq, Repr

/-- How the rule is tried. -/
def Rule.habit : Rule → Habit
  | .statement .simpleStatement | .statement .block => .remembered
  | .statement .dottedName | .pattern .dotted => .growing
  | .pattern .closedPattern | .pattern .starPattern => .remembered
  | .expression r =>
    match r with
    | .expression | .starExpression | .disjunction | .conjunction | .inversion | .factor | .awaited
    | .strings | .arguments | .wrongNamed => .remembered
    | .bitwiseOr | .bitwiseXor | .bitwiseAnd | .shift | .sum | .term | .primary => .growing
    | _ => .forgetful
  | .target r =>
    match r with
    | .starTarget | .starAtomTarget | .delTarget => .remembered
    | .partAhead => .growing
    | _ => .forgetful
  | _ => .forgetful

/-- The line on which what was read begins. -/
def Node.line : Node → Nat
  | .absent => 0
  | .other l | .name l _ | .place l | .items l _ | .starred l _ | .membership l _ | .comparison l
  | .many l _ => l

/-- What the node adds to a list of nodes. -/
def Node.members : Node → List Node
  | .absent => []
  | .many _ ns => ns
  | n => [n]

/-- Is the node the name of a statement that became a function? -/
def Node.isLegacy : Node → Bool
  | .name _ id => id = "print".toList || id = "exec".toList
  | _ => false

mutual

/-- What cannot be a target in a node: the node itself or the first of its members. -/
def Node.misfit? (use : Use) : Node → Option Node
  | .items _ ns => misfitAmong? use ns
  | .starred l n => if use = .delete then some (.starred l n) else n.misfit? use
  | .membership l n => if use = .loop then n.misfit? use else some (.membership l n)
  | .comparison l => if use = .loop then none else some (.comparison l)
  | .name _ _ | .place _ => none
  | n => some n

/-- The first misfit among nodes. -/
def misfitAmong? (use : Use) : List Node → Option Node
  | [] => none
  | n :: ns => (n.misfit? use).or (misfitAmong? use ns)

end

/-- Why a script is wrong. -/
structure Fault where
  /-- The line to blame. -/
  line : Nat
  /-- The line of the last token looked at; `none` if the cutting into tokens went wrong there. -/
  reached : Option Nat
deriving Repr

/-- What is wrong with the string literals next to each other. -/
inductive StringFault where
  /-- The expression on a line is. -/
  | inside (line : Nat)
  /-- The literals are. -/
  | literal
deriving Repr

/-- What a reading starts from. -/
structure Source where
  /-- The tokens. -/
  tokens : Array Token
  /-- How their cutting ended. -/
  ending : Ending
  /-- Are forms of wrong scripts tried? -/
  wary : Bool
  /-- What is wrong with string literals. -/
  stringFault? : List Token → Option StringFault

/-- What a rule has read: a node and the position behind it, or nothing. -/
abbrev Outcome := Option (Node × Nat)

/-- The state of a reading. -/
structure Reader where
  /-- The position of the next token. -/
  position : Nat := 0
  /-- How many tokens have been looked at. -/
  reached : Nat := 0
  /-- What rules have read, by position. -/
  memory : Std.HashMap Nat (List (Rule × Outcome)) := {}

/-- A reading. -/
abbrev Reading := ReaderT Source (StateT Reader (Except Fault))

namespace Reading

/-- The next token. -/
def token : Reading Token := do
  let src ← read
  let s ← get
  match src.tokens[s.position]? with
  | some t =>
    set { s with reached := max s.reached (s.position + 1) }
    return t
  | none =>
    match src.ending with
    | .complete => return ⟨.finish, 0, 0⟩
    | .fault l | .stuck l _ => throw ⟨l, none⟩

/-- The line of the last token looked at. -/
def lastLine : Reading Nat := do
  return (((← read).tokens[(← get).reached - 1]?).map (·.line)).getD 0

/-- A fault of the grammar. -/
def blame {α : Type} (line : Nat) : Reading α := do throw ⟨line, some (← lastLine)⟩

/-- Goes to a position. -/
def seek (position : Nat) : Reading Unit := modify fun s => { s with position }

/-- Passes over the next token. -/
def skip : Reading Unit := modify fun s => { s with position := s.position + 1 }

/-- The node of the next token if it is as wanted; it is passed over. -/
def tokenIf (wanted : TokenKind → Bool) : Reading (Option Node) := do
  let t ← token
  if wanted t.kind then
    skip
    return some (match t.kind with
      | .name id => .name t.line id
      | _ => .other t.line)
  else return none

/-- What the rule has read at the next token, if it has been tried there. -/
def known? (r : Rule) : Reading (Option Outcome) := do
  let s ← get
  return (s.memory.getD s.position []).lookup r

/-- Remembers what the rule has read at a position. -/
def remember (position : Nat) (r : Rule) (o : Outcome) : Reading Unit :=
  modify fun s => { s with
    memory := s.memory.insert position ((r, o) :: s.memory.getD position []) }

/-- Goes behind what has been read. -/
def retrace (o : Outcome) : Reading (Option Node) := do
  match o with
  | some (n, position) =>
    seek position
    return some n
  | none => return none

/-- The position of the next token. -/
def position : Reading Nat := do return (← get).position

/-- The line of the token at a position; the token does not count as looked at. -/
def lineAt (position : Nat) : Reading Nat := do
  return (((← read).tokens[position]?).map (·.line)).getD 0

/-- The number that comes next; it must not have too many digits. -/
def number : Reading (Option Node) := do
  let t ← token
  match t.kind with
  | .int _ count =>
    if digitLimit < count then blame t.line
    else
      skip
      return some (.other t.line)
  | .float .. =>
    skip
    return some (.other t.line)
  | _ => return none

/-- Blames the line of a node. -/
def blameNode (n : Node) : Reading (Option Node) := blame n.line

/-- What becomes of a form that has been read from a position on. -/
def conclude (action : Action) (start : Nat) (nodes : List Node) : Reading (Option Node) := do
  let line ← lineAt start
  let node (k : Nat) : Node := nodes[k]?.getD .absent
  let members (ks : List Nat) : List Node := ks.flatMap fun k => (node k).members
  match action with
  | .keep =>
    match nodes with
    | [n] => return some n
    | _ => return some (.other line)
  | .pick k => return some (node k)
  | .place => return some (.place line)
  | .items ks => return some (.items line (members ks))
  | .join ks => return some (.many line (members ks))
  | .star k => return some (.starred line (node k))
  | .membership => return some (.membership line .absent)
  | .chain =>
    match (node 1).members with
    | .membership _ _ :: _ => return some (.membership line (node 0))
    | _ => return some (.comparison line)
  | .forget => return some .absent
  | .strings =>
    let src ← read
    match src.stringFault? (src.tokens.extract start (← position)).toList with
    | none => return some (.other line)
    | some (.inside l) => blame l
    | some .literal => blame (← lastLine)
  | .blame k => blameNode (node k)
  | .blameLast => blame (← lastLine)
  | .blameTarget use k =>
    match (node k).misfit? use with
    | some n => blameNode n
    | none => return none
  | .blameGap =>
    let before := (← read).tokens[(← position) - 1]?
    if (node 0).isLegacy || (before.map (·.level)) = some 0 then return none
    else blameNode (node 0)
  | .blameLegacy => if (node 0).isLegacy then blameNode (node 0) else return none
  | .blameArgument =>
    match (node 0).members with
    | _ :: n :: ns => blameNode ((n :: ns).getLastD n)
    | _ => return none

/-- The last of several nodes. -/
def lastNode (nodes : List Node) : Node := nodes.getLast?.getD .absent

/-- Does the token consist of the sign? -/
def isSign (sign : String) : TokenKind → Bool
  | .keyword w | .op w => w = sign.toList
  | _ => false

/-- Is the token the identifier? -/
def isWord (word : String) : TokenKind → Bool
  | .name id => id = word.toList
  | _ => false

/-- The words that mean something in front of a pattern. -/
def softWords : List String := ["_", "case", "match"]

/-- Is the token an identifier with which such a word begins? -/
def beginsSoftWord : TokenKind → Bool
  | .name id => softWords.any fun w => Text.startsWith id w.toList
  | _ => false

/-- Is the token an identifier? -/
def isName : TokenKind → Bool
  | .name _ => true
  | _ => false

/-- Is the token a string literal? -/
def isString : TokenKind → Bool
  | .string .. => true
  | _ => false

/-- Is nothing tried behind the item but the rest of its form? -/
def isCut : Item → Bool
  | .cut => true
  | _ => false

mutual

/-- Reads what a rule reads. -/
def readRule : Nat → Rule → Reading (Option Node)
  | 0, _ => return none
  | n + 1, r => do
    match r.habit with
    | .forgetful =>
      if r = .expression .trustedExpression then
        withReader (fun src => { src with wary := false }) (readForms n r.forms)
      else readForms n r.forms
    | .remembered =>
      match ← known? r with
      | some o => retrace o
      | none =>
        let start ← position
        let found ← readForms n r.forms
        let after ← position
        remember start r (found.map fun x => (x, after))
        return found
    | .growing =>
      match ← known? r with
      | some o => retrace o
      | none => growRule n r (← position) none

/-- Reads what a rule reads from a position on, which is more than was read so far. -/
def growRule : Nat → Rule → Nat → Outcome → Reading (Option Node)
  | 0, _, _, _ => return none
  | n + 1, r, start, best => do
    remember start r best
    seek start
    let found ← readForms n r.forms
    let after ← position
    let reach := (best.map (·.2)).getD start
    match found.filter fun _ => reach < after with
    | some x => growRule n r start (some (x, after))
    | none =>
      seek reach
      return best.map (·.1)

/-- Reads the first form that fits. -/
def readForms : Nat → List Form → Reading (Option Node)
  | 0, _ => return none
  | _ + 1, [] => return none
  | n + 1, f :: fs => do
    if f.wary && !(← read).wary then readForms n fs
    else
      let start ← position
      let (found, settled) ← readItems n f.items
      match found with
      | some nodes => conclude f.action start nodes
      | none =>
        seek start
        if settled then return none else readForms n fs

/-- Reads items one after the other; also says whether what was read settles the form. -/
def readItems : Nat → List Item → Reading (Option (List Node) × Bool)
  | 0, _ => return (none, false)
  | _ + 1, [] => return (some [], false)
  | n + 1, i :: is => do
    match ← readItem n i with
    | none => return (none, false)
    | some nodes =>
      let (rest, settled) ← readItems n is
      return (rest.map (nodes ++ ·), settled || isCut i)

/-- Reads the first choice that fits. -/
def readChoices : Nat → List (List Item) → Reading (Option Node)
  | 0, _ => return none
  | _ + 1, [] => return none
  | n + 1, c :: cs => do
    let start ← position
    match (← readItems n c).1 with
    | some nodes => return some (lastNode nodes)
    | none =>
      seek start
      readChoices n cs

/-- Reads the items as often as they fit. -/
def readMany : Nat → List Item → Reading (List Node)
  | 0, _ => return []
  | n + 1, is => do
    let start ← position
    match (← readItems n is).1 with
    | some nodes => return lastNode nodes :: (← readMany n is)
    | none =>
      seek start
      return []

/-- Reads an item: its node, if it has one. -/
def readItem : Nat → Item → Reading (Option (List Node))
  | 0, _ => return none
  | n + 1, i => do
    let start ← position
    let one (n : Option Node) : Option (List Node) := n.map fun x => [x]
    match i with
    | .sign s => return one (← tokenIf (isSign s))
    | .name => return one (← tokenIf isName)
    | .number => return one (← number)
    | .string => return one (← tokenIf isString)
    | .newline => return one (← tokenIf (· = .newline))
    | .indent => return one (← tokenIf (· = .indent))
    | .dedent => return one (← tokenIf (· = .dedent))
    | .finish => return one (← tokenIf (· = .finish))
    | .soft w => return one (← tokenIf (isWord w))
    | .softStart => return one (← tokenIf beginsSoftWord)
    | .rule r => return one (← readRule n r)
    | .forced s =>
      let t ← token
      if isSign s t.kind then return one (← tokenIf (isSign s)) else return one (← blame t.line)
    | .cut => return some []
    | .opt is =>
      match (← readItems n is).1 with
      | some nodes => return some [lastNode nodes]
      | none =>
        seek start
        return some [.absent]
    | .either cs => return one (← readChoices n cs)
    | .many is => return some [.many (← lineAt start) (← readMany n is)]
    | .some is =>
      let nodes ← readMany n is
      let line ← lineAt start
      return if nodes.isEmpty then none else some [.many line nodes]
    | .separated s is =>
      match (← readItems n is).1 with
      | some nodes =>
        let rest ← readMany n (.sign s :: is)
        return some [.many (← lineAt start) (lastNode nodes :: rest)]
      | none => return none
    | .ahead cs =>
      let found ← readChoices n cs
      seek start
      return if found.isSome then some [] else none
    | .notAhead cs =>
      let found ← readChoices n cs
      seek start
      return if found.isSome then none else some []

end

end Reading

/-- Enough for the depth of the grammar at one token. -/
def depthPerToken : Nat := 10000

/-- The line of a fault once the rest of the script has been cut into tokens. -/
def Fault.settled (f : Fault) (ending : Ending) : Nat :=
  match f.reached, ending with
  | some _, .fault l => l
  | some r, .stuck _ (some b) => if b < r then b else f.line
  | _, _ => f.line

/-- The line to blame if the tokens are not what a rule reads. -/
def wrongLine? (stringFault? : List Token → Option StringFault) (r : Rule) (ts : Tokens) :
    Option Nat :=
  let src : Source := { tokens := ts.list.toArray, ending := ts.ending, wary := false, stringFault? }
  let reading := Reading.readRule (depthPerToken * (src.tokens.size + 2)) r
  let last (s : Reader) : Token := (src.tokens[s.reached - 1]?).getD ⟨.finish, 0, 0⟩
  match (reading.run src).run {} with
  | .error f => some (f.settled ts.ending)
  | .ok (some _, _) => none
  | .ok (none, s) =>
    match (reading.run { src with wary := true }).run { reached := s.reached } with
    | .error f => some (f.settled ts.ending)
    | .ok (_, s') =>
      if (last s).kind = .indent ∨ (last s).kind = .dedent then some (last s').line
      else some (Fault.settled ⟨(last s).line, some (last s').line⟩ ts.ending)

/-- The first fault of string literals next to each other, whose bodies are nested at most so
deep. -/
def stringFault? : Nat → List Token → Option StringFault
  | 0, _ => none
  | n + 1, ts => ts.findSome? fun t =>
    match t.kind with
    | .string raw formatted body =>
      let textFault (t : Text) : Option StringFault :=
        if (unescape? raw t).isNone then some .literal else none
      if formatted then
        let cut := Cut.ofBody raw body
        (cut.pieces.findSome? fun p =>
          match p with
          | .text written => textFault written
          | .hole breaks written _ _ =>
            (wrongLine? (stringFault? n) (.expression .starExpressions)
              (lex (t.line + breaks) ('(' :: written ++ [')']))).map .inside).or
          (if cut.complete then none else some .literal)
      else textFault body
    | _ => none

end Grammar

/-- The line to blame if a script is not one. -/
def wrongLine? (code : Text) : Option Nat :=
  Grammar.wrongLine? (Grammar.stringFault? (code.length + 1)) (.statement .file) (lex 1 code)

end ViewEngine.Script
