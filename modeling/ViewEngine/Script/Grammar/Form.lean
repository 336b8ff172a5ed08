/-
# Grammars as data

A rule of the grammar of scripts is a list of forms that are tried in order, and a form is a list of
items that are read one after the other.  What a form has read becomes a node, of which only so much
is kept as is needed to tell which line a wrong script is to be blamed for.

Besides the forms that scripts have, a rule may have forms that wrong scripts have.  These say which
line is to blame.  Some of them are tried only when it is already known that the script is wrong.
-/
import ViewEngine.Text.Basic

namespace ViewEngine.Script.Grammar

/-- The rules for statements. -/
inductive StatementRule where
  | file | statements | statement | simpleStatements | simpleStatement | compoundStatement
  | assignment | assigned | augment | returnStatement | raiseStatement | globalStatement
  | nonlocalStatement | delStatement | assertStatement | importStatement | importName | importFrom
  | importTargets | importAsNames | importAsName | dottedAsNames | dottedAsName | dottedName
  | block | decorators | classDefinition | classBody | functionDefinition | functionBody
  | ifStatement | elifStatement | elseBlock | whileStatement | forStatement | withStatement
  | withItem | tryStatement | exceptBlock | exceptStarBlock | finallyBlock
  | wrongAssignment | wrongAnnotated | wrongDel | wrongBlock | wrongImportTargets | wrongClass
  | wrongFunction | wrongIf | wrongElif | wrongElse | wrongWhile | wrongFor | wrongForTarget
  | wrongWithBlock | wrongWith | wrongWithItem | wrongTry | wrongExceptBlock | wrongExceptStarBlock
  | wrongExcept | wrongFinally
deriving DecidableEq, Repr

/-- The rules for choosing between patterns. -/
inductive PatternRule where
  | matchStatement | subject | caseBlock | guard | patterns | pattern | asPattern | orPattern
  | closedPattern | literalPattern | literal | complexNumber | signedNumber | imaginaryNumber
  | captureTarget | wildcard | valuePattern | dotted | nameOrDotted | groupPattern
  | sequencePattern | openSequence | someSequence | starablePattern | starPattern | mappingPattern
  | itemPatterns | itemPattern | doubleStarPattern | classPattern | positionalPatterns
  | keywordPatterns | keywordPattern
  | wrongMatch | wrongCase | wrongAsPattern | wrongClassPattern | wrongClassArguments
deriving DecidableEq, Repr

/-- The rules for expressions. -/
inductive ExpressionRule where
  | expressions | expression | trustedExpression | yieldExpression | starExpressions
  | starExpression | starNamedExpressions | starNamedExpression | assignmentExpression
  | namedExpression | disjunction | conjunction | inversion | comparison | comparisonLink
  | bitwiseOr | bitwiseXor | bitwiseAnd | shift | sum | term | factor | power | awaited | primary
  | slices | slice | atom | group | lambda | strings | list | tuple | set | dict | pairs | pair
  | keyAndValue | forIfClauses | forIfClause | listComprehension | setComprehension | generator
  | dictComprehension | arguments | positional | keywords | starred | keywordOrStarred
  | keywordOrDoubleStarred
  | wrongExpression | wrongLegacy | wrongNamed | wrongComprehension | wrongDictComprehension
  | wrongGroup | wrongPairs | wrongPair | wrongArguments | wrongKeyword
deriving DecidableEq, Repr

/-- The rules for what can be assigned to or deleted. -/
inductive TargetRule where
  | starTargets | starTargetList | starTargetTuple | starTarget | starAtomTarget | starAtom
  | singleTarget | part | partAhead | delTargets | delTarget | delAtom
deriving DecidableEq, Repr

/-- Where parameters stand. -/
inductive Place where
  /-- In the brackets of a definition. -/
  | definition
  /-- In front of the colon of an expression that is a function. -/
  | lambda
deriving DecidableEq, Repr

/-- The rules for parameters. -/
inductive ParameterRule where
  | parameters | allParameters | slashPlain | slashDefault | starRest | doubleStar | plain
  | plainStar | withDefault | maybeDefault | parameter | starParameter | annotation
  | starAnnotation | fallback
  | wrongParameters | someDefaults | wrongFallback | wrongStarRest | wrongDoubleStar
deriving DecidableEq, Repr

/-- A rule. -/
inductive Rule where
  | statement (r : StatementRule)
  | pattern (r : PatternRule)
  | expression (r : ExpressionRule)
  | target (r : TargetRule)
  | parameter (p : Place) (r : ParameterRule)
deriving DecidableEq, Repr

/-- What a form reads. -/
inductive Item where
  /-- A reserved word, an operator or a bracket. -/
  | sign (text : String)
  /-- An identifier. -/
  | name
  /-- A number. -/
  | number
  /-- A string literal. -/
  | string
  /-- The end of a logical line. -/
  | newline
  /-- The beginning of a block. -/
  | indent
  /-- The end of a block. -/
  | dedent
  /-- The end of the script. -/
  | finish
  /-- A certain identifier. -/
  | soft (word : String)
  /-- An identifier with which a word begins that means something in front of a pattern. -/
  | softStart
  /-- What a rule reads. -/
  | rule (r : Rule)
  /-- A sign without which the script is wrong. -/
  | forced (sign : String)
  /-- Nothing; but if the form fails from here on, no other form of the rule is tried. -/
  | cut
  /-- The items, or nothing. -/
  | opt (items : List Item)
  /-- The first choice that fits. -/
  | either (choices : List (List Item))
  /-- The items, as often as they fit. -/
  | many (items : List Item)
  /-- The items, as often as they fit, and at least once. -/
  | some (items : List Item)
  /-- The items at least once, with a sign in between. -/
  | separated (sign : String) (items : List Item)
  /-- Nothing, where one of the choices fits. -/
  | ahead (choices : List (List Item))
  /-- Nothing, where none of the choices fits. -/
  | notAhead (choices : List (List Item))

instance : Coe String Item := ⟨.sign⟩
instance : Coe StatementRule Item := ⟨fun r => .rule (.statement r)⟩
instance : Coe PatternRule Item := ⟨fun r => .rule (.pattern r)⟩
instance : Coe ExpressionRule Item := ⟨fun r => .rule (.expression r)⟩
instance : Coe TargetRule Item := ⟨fun r => .rule (.target r)⟩

/-- What is kept of what was read. -/
inductive Node where
  /-- Nothing. -/
  | absent
  /-- Anything that can neither be assigned to nor is looked at otherwise. -/
  | other (line : Nat)
  /-- An identifier. -/
  | name (line : Nat) (id : Text)
  /-- An attribute or a part of a container. -/
  | place (line : Nat)
  /-- A list or a tuple. -/
  | items (line : Nat) (members : List Node)
  /-- A value with a star. -/
  | starred (line : Nat) (value : Node)
  /-- A chain of comparisons that begins with a test for membership. -/
  | membership (line : Nat) (left : Node)
  /-- Another chain of comparisons. -/
  | comparison (line : Nat)
  /-- Several nodes. -/
  | many (line : Nat) (nodes : List Node)
deriving Repr

/-- What a target is for. -/
inductive Use where
  /-- It is assigned to. -/
  | assign
  /-- It is assigned to in every round of a loop. -/
  | loop
  /-- It is deleted. -/
  | delete
deriving DecidableEq, Repr

/-- What becomes of a form that has been read.  Numbers count its nodes; items that read nothing
have none. -/
inductive Action where
  /-- Its only node, or one that is not looked at. -/
  | keep
  /-- One of its nodes. -/
  | pick (index : Nat)
  /-- An attribute or a part of a container. -/
  | place
  /-- A list or a tuple with the members of some of its nodes. -/
  | items (indices : List Nat)
  /-- The members of some of its nodes. -/
  | join (indices : List Nat)
  /-- A value with a star, which is one of its nodes. -/
  | star (index : Nat)
  /-- A test for membership, of something that is not known yet. -/
  | membership
  /-- A chain of comparisons: its left side and its links. -/
  | chain
  /-- Nothing. -/
  | forget
  /-- String literals, which have to mean something. -/
  | strings
  /-- The line of a node is to blame. -/
  | blame (index : Nat)
  /-- The line of the last token looked at is to blame. -/
  | blameLast
  /-- The line of what cannot be a target in a node is to blame; if all can, the rule fails. -/
  | blameTarget (use : Use) (index : Nat)
  /-- The line of the first node is to blame if a bracket is open behind the form and the node is
  not the name of an old statement; else the rule fails. -/
  | blameGap
  /-- The line of the first node is to blame if it is the name of an old statement; else the rule
  fails. -/
  | blameLegacy
  /-- The line of the last of several members of the first node is to blame; if there are less than
  two, the rule fails. -/
  | blameArgument
deriving Repr

/-- A form. -/
structure Form where
  /-- What is read. -/
  items : List Item
  /-- What becomes of it. -/
  action : Action := .keep
  /-- Is the form tried only when the script is known to be wrong? -/
  wary : Bool := false

/-- The form of the given items. -/
def form (items : List Item) (action : Action := .keep) : Form := ⟨items, action, false⟩

/-- What a rule reads that says what is wrong. -/
def wrong (r : Item) : Form := ⟨[r], .keep, true⟩

/-- A rule at a place where one of the signs stands. -/
def upon (signs : List String) (r : Item) : Form := form [.ahead (signs.map fun s => [Item.sign s]), r]

/-- One of the signs. -/
def oneOf (signs : List String) : Item := .either (signs.map fun s => [Item.sign s])

/-- The forms of the head of a block that lacks its colon at the end of the line. -/
def headWithoutColon (head : List Item) : Form := form (head ++ [.newline]) .blameLast

/-- The forms of the head of a block behind which no block stands. -/
def headWithoutBlock (head : List Item) : Form :=
  form (head ++ [.sign ":", .newline, .notAhead [[.indent]]]) .blameLast

end ViewEngine.Script.Grammar
