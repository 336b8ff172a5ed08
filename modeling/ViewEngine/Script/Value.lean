/-
# Values of scripts

Plain values (nothing, truth values, numbers, texts, tuples) stand for themselves.  Lists,
dictionaries, objects, functions, failures and iterators live in cells of a memory, so that a change
made through one name shows through the others; a value of these kinds is the address of its cell.

Scripts can ask whether two values are one and the same.  A value without a cell therefore carries
an identity: either it is the common one of its look, as all literals and small numbers are, or it
was made at some moment and bears the mark of that moment.
-/
import ViewEngine.Diagnostic.ViewError
import ViewEngine.Names
import ViewEngine.Script.Scoping

namespace ViewEngine.Script

/-- The kinds of failures that scripts can raise and handle. -/
inductive FaultKind where
  | anything | arithmetic | lookup
  | value | key | index | type | name | unboundLocal | zeroDivision | overflow | noAttribute
  | runtime | recursion | memory | unicode | system
  /-- An error of the view engine itself, raised by a helper. -/
  | engine (error : ViewError)
deriving DecidableEq, Repr

namespace FaultKind

/-- The kind of which the kind is a special case. -/
def parent? : FaultKind → Option FaultKind
  | anything => none
  | arithmetic | lookup | value | type | name | noAttribute | runtime | memory | system =>
    some anything
  | key | index => some lookup
  | unboundLocal => some name
  | zeroDivision | overflow => some arithmetic
  | recursion => some runtime
  | unicode => some value
  | engine _ => some anything

/-- The word for the kind of an error of the engine. -/
def engineName : ViewError → Text
  | .general _ => "TemplateError"
  | .notFound _ => "TemplateNotFoundError"
  | .malformed .. => "TemplateSyntaxError"
  | .unmatchedTag .. => "UnmatchedTagError"
  | .uncompilable .. => "TemplateCompileError"
  | .runtime _ => "TemplateRuntimeError"

/-- The word for the kind. -/
def text : FaultKind → Text
  | anything => "Exception"
  | arithmetic => "ArithmeticError"
  | lookup => "LookupError"
  | value => "ValueError"
  | key => "KeyError"
  | index => "IndexError"
  | type => "TypeError"
  | name => "NameError"
  | unboundLocal => "UnboundLocalError"
  | zeroDivision => "ZeroDivisionError"
  | overflow => "OverflowError"
  | noAttribute => "AttributeError"
  | runtime => "RuntimeError"
  | recursion => "RecursionError"
  | memory => "MemoryError"
  | unicode => "UnicodeError"
  | system => "SystemError"
  | engine e => engineName e

/-- The kinds that a script can name. -/
def nameable : List FaultKind :=
  [anything, arithmetic, lookup, value, key, index, type, name, unboundLocal, zeroDivision,
   overflow, noAttribute, runtime, recursion, memory, unicode, system]

/-- Is the first kind the second or a special case of it?  The bound is the height of the tree of
kinds. -/
def isUnder : Nat → FaultKind → FaultKind → Bool
  | 0, k, top => k = top
  | n + 1, k, top => k = top || match k.parent? with
    | some p => isUnder n p top
    | none => false

/-- Is the kind `top` or a special case of it? -/
def isA (k top : FaultKind) : Bool := isUnder 3 k top

end FaultKind

/-- The functions, classes and other things that every script can name. -/
inductive Native where
  | len | str | int | bool | list | range | enumerate | zip | sorted | sum | min | max | any | all
  | abs | repr | dir
  /-- One of which only the word for its type and its text are known. -/
  | sealed (id kind shown : Text)
deriving DecidableEq, Repr

/-- The methods of values. -/
inductive Method where
  | upper | lower | strip | split | join | replace | startswith
  | append
  | items | keys | values | get
deriving DecidableEq, Repr

/-- What a view of a dictionary shows. -/
inductive DictPart where
  | items | keys | values
deriving DecidableEq, Repr

/-- The place of a cell. -/
abbrev Address := Nat

/-- What tells a value from others of the same look. -/
inductive Identity where
  /-- The value that all literals share. -/
  | common
  /-- The value that is common to all places but literals. -/
  | drawn
  /-- The value that was made with a mark. -/
  | own (mark : Nat)
deriving DecidableEq, Repr

/-- A value. -/
inductive Value where
  | none
  | bool (value : Bool)
  | int (identity : Identity) (value : Int)
  | float (identity : Identity) (value : Float)
  | text (identity : Identity) (value : Text)
  | tuple (identity : Identity) (items : List Value)
  | range (identity : Identity) (start stop step : Int)
  | list (cell : Address)
  | dict (cell : Address)
  | object (cell : Address)
  | function (cell : Address)
  | iterator (cell : Address)
  /-- A failure. -/
  | fault (cell : Address)
  | dictView (identity : Identity) (part : DictPart) (cell : Address)
  | native (function : Native)
  /-- A kind of failure. -/
  | kind (kind : FaultKind)
  /-- A helper of the host, by its name. -/
  | helper (id : Text)
  /-- The function that adds to the output. -/
  | output
  | method (identity : Identity) (method : Method) (owner : Value)

/-- What a scope extends over. -/
inductive Extent where
  /-- The body of a function. -/
  | body (statements : List Statement)
  /-- A comprehension behind its first source. -/
  | comprehension (value : Expr) (target : Target) (clauses : List Clause)

namespace Constant

mutual

/-- The value that a script says. -/
def toValue : Constant → Value
  | .none => .none
  | .bool b => .bool b
  | .int n => .int .common n
  | .float x => .float .common x
  | .text t => .text .common t
  | .tuple ks => .tuple .common (valuesOf ks)

/-- The values of the items of a tuple. -/
def valuesOf : List Constant → List Value
  | [] => []
  | k :: ks => k.toValue :: valuesOf ks

end

end Constant

/-- The names that an extent mentions. -/
def Extent.mentions : Extent → List Text
  | body ss => statementMentions ss
  | comprehension e t cs => e.mentions ++ t.mentions ++ clauseMentions cs

/-- A set of names with their values. -/
structure Scope where
  /-- The cell of the values. -/
  frame : Address
  /-- The names that belong to the scope. -/
  names : List Text
  /-- What the scope extends over. -/
  extent : Extent

/-- A function of a script. -/
structure Function where
  /-- Its name. -/
  id : Text
  /-- Its parameters with their values if a call gives none. -/
  parameters : List (Text × Option Value)
  /-- Its statements. -/
  body : List Statement
  /-- The names that belong to it. -/
  names : List Text
  /-- The scopes around it, innermost first. -/
  scopes : List Scope
  /-- What its standard names are looked up in, if not among those of the language. -/
  builtins : Option Value := none

/-- A thing of the host. -/
structure Thing where
  /-- The word for its class. -/
  kind : Text
  /-- Its attributes. -/
  attributes : Names Value
  /-- Its text, or the message of the failure to give one. -/
  shown : Except Text Text

/-- How far an iteration is. -/
inductive Iteration where
  /-- Over a list, from an index on. -/
  | list (cell : Address) (next : Nat)
  /-- Over values that do not change. -/
  | values (rest : List Value)
  /-- Over the numbers of a range. -/
  | numbers (next stop step : Int)
  /-- Over a dictionary that had so many entries. -/
  | dict (part : DictPart) (cell : Address) (next size : Nat)
  /-- Pairs of a number and a value of another iteration. -/
  | numbered (inner : Address) (next : Int)
  /-- Tuples of values of several iterations; are these to end together? -/
  | together (strict : Bool) (inner : List Address)

/-- A failure with its arguments, and the line where it was raised first, if it was. -/
structure Fault where
  /-- Its kind. -/
  kind : FaultKind
  /-- Its arguments. -/
  arguments : List Value
  /-- The line where it was raised first. -/
  line : Option Nat := none
  /-- The cell that it lives in, once a script can hold it. -/
  cell : Option Address := none

/-- What a cell holds. -/
inductive Cell where
  | list (items : List Value)
  | dict (entries : List (Value × Value))
  | object (thing : Thing)
  | function (function : Function)
  | iterator (state : Iteration)
  /-- A failure, and the identity of the tuple of its arguments. -/
  | fault (fault : Fault) (tuple : Identity)
  | frame (values : Names Value)

/-- The memory of a run. -/
structure Memory where
  /-- The cells. -/
  cells : Array Cell := #[]
  /-- The output so far, the last text first. -/
  output : List Text := []
  /-- How many marks have been given. -/
  marks : Nat := 0
  /-- Are errors of the engine shown in colours? -/
  coloured : Bool := false

/-- Why a run stops. -/
inductive Stop where
  /-- A failure that was raised. -/
  | fault (fault : Fault)
  /-- The run took more steps than allowed. -/
  | endless

/-- A run that may stop; the memory is kept either way. -/
abbrev Run := ExceptT Stop (StateM Memory)

namespace Run

variable {α : Type}

/-- An identity that no value has yet. -/
def mark : Run Identity := do
  let m ← get
  set { m with marks := m.marks + 1 }
  return .own m.marks

/-- A whole number; small ones are common. -/
def newInt (n : Int) : Run Value := do
  if -5 ≤ n ∧ n ≤ 256 then return .int .common n else return .int (← mark) n

/-- A number with a fraction. -/
def newFloat (x : Float) : Run Value := return .float (← mark) x

/-- A text; the empty one is common. -/
def newText (t : Text) : Run Value := do
  if t.isEmpty then return .text .common t else return .text (← mark) t

/-- The characters whose literals are values of their own, because the language itself uses them as
names. -/
def namingChars : Text := "BCLST_abcdefhijklmnopqrstvwxy"

/-- A text cut out of another; single characters of the first two hundred and fifty-six are shared,
too. -/
def pieceOf (t : Text) : Run Value :=
  match t with
  | [c] =>
    if namingChars.contains c then return .text .drawn t
    else if c.toNat < 256 then return .text .common t
    else newText t
  | _ => newText t

/-- A tuple; the empty one is common. -/
def newTuple (vs : List Value) : Run Value := do
  if vs.isEmpty then return .tuple .common vs else return .tuple (← mark) vs

/-- A range. -/
def newRange (start stop step : Int) : Run Value := return .range (← mark) start stop step

/-- Raises a failure. -/
def raise (kind : FaultKind) (arguments : List Value) : Run α :=
  throw (.fault { kind, arguments })

/-- Raises a failure with a message. -/
def fail (kind : FaultKind) (message : Text) : Run α := do raise kind [← newText message]

/-- Attributes a failure to a line, unless it has one already. -/
def located (line : Nat) (x : Run α) : Run α :=
  tryCatch x fun
    | .fault f => throw (.fault { f with line := some (f.line.getD line) })
    | s => throw s

/-- What a run gives that begins with an empty memory. -/
def alone (x : Run α) : Except Stop α := (x.run.run {}).1

/-- The cell of an address. -/
def cell? (a : Address) : Run (Option Cell) := do return (← get).cells[a]?

/-- A new cell. -/
def alloc (c : Cell) : Run Address := do
  let m ← get
  set { m with cells := m.cells.push c }
  return m.cells.size

/-- Changes a cell. -/
def store (a : Address) (c : Cell) : Run Unit :=
  modify fun m => { m with cells := m.cells.setIfInBounds a c }

/-- Adds a text to the output. -/
def write (t : Text) : Run Unit := modify fun m => { m with output := t :: m.output }

/-- A new list. -/
def newList (items : List Value) : Run Value := return .list (← alloc (.list items))

/-- A new dictionary. -/
def newDict (entries : List (Value × Value)) : Run Value := return .dict (← alloc (.dict entries))

/-- The items of the list in a cell. -/
def listAt (a : Address) : Run (List Value) := do
  match ← cell? a with
  | some (.list vs) => return vs
  | _ => return []

/-- The entries of the dictionary in a cell. -/
def dictAt (a : Address) : Run (List (Value × Value)) := do
  match ← cell? a with
  | some (.dict es) => return es
  | _ => return []

/-- The names and values in a cell. -/
def frameAt (a : Address) : Run (Names Value) := do
  match ← cell? a with
  | some (.frame vs) => return vs
  | _ => return []

/-- The failure in a cell. -/
def faultAt (a : Address) : Run Fault := do
  match ← cell? a with
  | some (.fault f _) => return f
  | _ => return { kind := .anything, arguments := [] }

/-- The iteration in a cell. -/
def iterationAt (a : Address) : Run Iteration := do
  match ← cell? a with
  | some (.iterator i) => return i
  | _ => return .values []

/-- The thing in a cell. -/
def thingAt (a : Address) : Run Thing := do
  match ← cell? a with
  | some (.object t) => return t
  | _ => return { kind := "object", attributes := [], shown := .ok [] }

end Run

/-- Are the two values one and the same? -/
def Value.isSame : Value → Value → Bool
  | none, none => true
  | bool a, bool b => a = b
  | int i a, int j b => i = j && a = b
  | float i x, float j y => i = j && x.toBits = y.toBits
  | text i s, text j t => i = j && s = t
  | tuple i [], tuple j [] => i = j
  | tuple i (a :: as), tuple j (b :: bs) =>
    i = j && (i ≠ .common || isSame a b && isSame (tuple i as) (tuple j bs))
  | range i .., range j .. => i = j
  | list a, list b => a = b
  | dict a, dict b => a = b
  | object a, object b => a = b
  | function a, function b => a = b
  | iterator a, iterator b => a = b
  | fault a, fault b => a = b
  | dictView i .., dictView j .. => i = j
  | native f, native g => f = g
  | kind j, kind k => j = k
  | helper s, helper t => s = t
  | output, output => true
  | method i .., method j .. => i = j
  | _, _ => false

/-- Text of the whole output. -/
def Memory.outputText (m : Memory) : Text := m.output.reverse.flatten

/-- The word for the type of a value. -/
def Value.typeName (v : Value) : Run Text :=
  match v with
  | none => return "NoneType"
  | bool _ => return "bool"
  | int .. => return "int"
  | float .. => return "float"
  | text .. => return "str"
  | tuple .. => return "tuple"
  | range .. => return "range"
  | list _ => return "list"
  | dict _ => return "dict"
  | object a => return (← Run.thingAt a).kind
  | function _ | helper _ | output => return "function"
  | iterator a => do
    match ← Run.iterationAt a with
    | .numbered .. => return "enumerate"
    | .together .. => return "zip"
    | .list .. => return "list_iterator"
    | .values _ => return "tuple_iterator"
    | .numbers .. => return "range_iterator"
    | .dict .. => return "dict_keyiterator"
  | dictView _ .items _ => return "dict_items"
  | dictView _ .keys _ => return "dict_keys"
  | dictView _ .values _ => return "dict_values"
  | native f =>
    match f with
    | .str | .int | .bool | .list | .range | .enumerate | .zip => return "type"
    | .sealed _ word _ => return word
    | _ => return "builtin_function_or_method"
  | kind _ => return "type"
  | fault a => return (← Run.faultAt a).kind.text
  | method .. => return "builtin_function_or_method"

end ViewEngine.Script
