/-
# Functions that every script can name

Lengths, conversions, ranges, iterations, sums, extremes and sorting.
-/
import ViewEngine.Script.Method
import ViewEngine.Script.Sort
import ViewEngine.Text.Digit

namespace ViewEngine.Script

/-- Calls a value with some values. -/
abbrev Caller := Value → List Value → Run Value

/-! ### Numbers -/

/-- The value of a digit in some base: a decimal digit or a letter. -/
def baseDigit? (base : Nat) (c : Char) : Option Nat :=
  let d := match Text.digit? c with
    | some d => some d
    | none =>
      let l := c.toLower
      if 'a' ≤ l ∧ l ≤ 'z' then some (l.toNat - 87) else none
  d.filter (· < base)

/-- The number written in digits with single underscores between them; `after` says whether a digit
stands in front.  The second number counts the digits. -/
def readDigits (base : Nat) (after : Bool) (value count : Nat) : Text → Option (Nat × Nat)
  | [] => if after then some (value, count) else none
  | c :: cs =>
    if c = '_' then if after then readDigits base false value count cs else none
    else (baseDigit? base c).bind fun d => readDigits base true (value * base + d) (count + 1) cs

/-- The base that a letter behind a zero marks. -/
def markedBase? (c : Char) : Option Nat :=
  let l := c.toLower
  if l = 'x' then some 16 else if l = 'o' then some 8 else if l = 'b' then some 2 else none

/-- The digits without a mark of their base in front, and the base; base 0 stands for the one that
is marked, or else for 10. -/
def withoutMark (base : Nat) (t : Text) : Text × Nat :=
  let plain := (t, if base = 0 then 10 else base)
  match t with
  | '0' :: c :: rest =>
    match markedBase? c with
    | some b =>
      if base = b ∨ base = 0 then ((Text.after? ['_'] rest).getD rest, b) else plain
    | none => plain
  | _ => plain

/-- May the character stand around a number? -/
def isMargin (c : Char) : Bool := Text.isBlank c && !(28 ≤ c.toNat && c.toNat < 32)

/-- A text without what may stand around a number. -/
def withoutMargins (t : Text) : Text := ((t.dropWhile isMargin).reverse.dropWhile isMargin).reverse

/-- The whole number that a text says.  Where no base is given, a number but zero does not begin
with a zero. -/
def readInt (base : Nat) (t : Text) : Run Value := do
  let (negative, ds) := match withoutMargins t with
    | '-' :: r => (true, r)
    | '+' :: r => (false, r)
    | r => (false, r)
  let (digits, radix) := withoutMark base ds
  let number := (readDigits radix false 0 0 digits).filter fun n =>
    !(base = 0 && radix = 10 && n.1 ≠ 0 && ds.head? = some '0')
  match number with
  | some (n, count) =>
    if 4300 < count && radix &&& (radix - 1) ≠ 0 then
      Run.fail .value (Number.limitMessage ++ ": value has " ++ Text.ofNat count ++
        " digits; use sys.set_int_max_str_digits() to increase the limit")
    else Run.newInt (if negative then -n else n)
  | none =>
    Run.fail .value ("invalid literal for int() with base " ++ Text.ofNat base ++ ": " ++
      (Text.quoted t).take 200)

/-- The whole number that a value stands for. -/
def toInt (v : Value) : Run Value :=
  match v with
  | .text _ t => readInt 10 t
  | .float _ x =>
    match Decimal.read x with
    | .finite b => Run.newInt b.truncate
    | .infinite _ => Run.fail .overflow "cannot convert float infinity to integer"
    | .undefined => Run.fail .value "cannot convert float NaN to integer"
  | _ =>
    match v.whole? with
    | some n => v.exact n
    | none => do
      Run.fail .type ("int() argument must be a string, a bytes-like object or a real number, not '"
        ++ (← v.typeName) ++ "'")

/-- What `int` takes. -/
def intForm : Form := { function := "int", nameless := 1, names := ["base"], places := 2 }

/-- `int` -/
def callInt (a : Arguments) : Run Value := do
  if a.named.isEmpty then demandBetween "int" 0 2 a.plain
  match ← intForm.arrange a with
  | [none, none] => Run.newInt 0
  | [none, some _] => Run.fail .type "int() missing string argument"
  | [some v, none] => toInt v
  | [some v, some w] =>
    let base ← countArgument w
    if base = 0 ∨ 2 ≤ base ∧ base ≤ 36 then
      match v with
      | .text _ t => readInt base.toNat t
      | _ => Run.fail .type "int() can't convert non-string with explicit base"
    else Run.fail .value "int() base must be >= 2 and <= 36, or 0"
  | _ => return .none

/-- `abs` -/
def callAbs (a : Arguments) : Run Value := do
  let v ← onlyArgument "abs" a
  match v.number? with
  | some (.int n) => if 0 ≤ n then v.exact n else Run.newInt (-n)
  | some (.float x) => Run.newFloat x.abs
  | none => Run.fail .type ("bad operand type for abs(): '" ++ (← v.typeName) ++ "'")

/-! ### Texts and truth values -/

/-- What `str` takes. -/
def strForm : Form := { function := "str", names := ["object", "encoding", "errors"], places := 3 }

/-- `str` -/
def callStr (a : Arguments) : Run Value := do
  let vs ← strForm.arrange a
  let encoding := (vs[1]?).join
  let errors := (vs[2]?).join
  if let some w := encoding then
    let _ ← textArgument "str" "'encoding'" w
  if let some w := errors then
    let _ ← textArgument "str" "'errors'" w
  match (vs[0]?).join with
  | none => Run.newText []
  | some v =>
    if encoding.isNone && errors.isNone then v.asText
    else
      match v with
      | .text .. => Run.fail .type "decoding str is not supported"
      | _ => do
        Run.fail .type ("decoding to str: need a bytes-like object, " ++ (← v.typeName) ++ " found")

/-- `bool` -/
def callBool (a : Arguments) : Run Value := do
  demandNoNames "bool" a
  demandBetween "bool" 0 1 a.plain
  match a.plain with
  | v :: _ => return .bool (← isTrue v)
  | [] => return .bool false

/-- `len` -/
def callLen (a : Arguments) : Run Value := do
  let v ← onlyArgument "len" a
  match ← length? v with
  | some n => if placeLimit ≤ n then sizeOverflow else Run.newInt n
  | none => Run.fail .type ("object of type '" ++ (← v.typeName) ++ "' has no len()")

/-! ### Sequences and iterations -/

/-- `list` -/
def callList (a : Arguments) : Run Value := do
  demandNoNames "list" a
  demandBetween "list" 0 1 a.plain
  match a.plain with
  | v :: _ => Run.newList (← elements v)
  | [] => Run.newList []

/-- `range` -/
def callRange (a : Arguments) : Run Value := do
  demandNoNames "range" a
  demandBetween "range" 1 3 a.plain
  let ns ← a.plain.mapM countArgument
  match ns with
  | [stop] => Run.newRange 0 stop 1
  | [start, stop] => Run.newRange start stop 1
  | start :: stop :: step :: _ =>
    if step = 0 then Run.fail .value "range() arg 3 must not be zero"
    else Run.newRange start stop step
  | [] => Run.newRange 0 0 1

/-- The two arguments of `enumerate`, the second of which may be absent. -/
def enumerateArguments (a : Arguments) : Run (Value × Option Value) := do
  let refuse {α : Type} (id : Text) : Run α :=
    Run.fail .type ("'" ++ id ++ "' is an invalid keyword argument for enumerate()")
  let iterable : Text := "iterable"
  let start : Text := "start"
  match a.plain, a.named with
  | [v], [] => return (v, none)
  | [v, w], [] => return (v, some w)
  | [], [(x, v)] => if x = iterable then return (v, none) else refuse x
  | [v], [(x, w)] => if x = start then return (v, some w) else refuse x
  | [], [(x, v), (y, w)] =>
    if x = start then if y = iterable then return (w, some v) else refuse y
    else if x ≠ iterable then refuse x
    else if y ≠ start then refuse y
    else return (v, some w)
  | vs, ns =>
    if vs.isEmpty then Run.fail .type "enumerate() missing required argument 'iterable'"
    else Run.fail .type ("enumerate() takes at most 2 arguments (" ++
      Text.ofNat (vs.length + ns.length) ++ " given)")

/-- `enumerate` -/
def callEnumerate (a : Arguments) : Run Value := do
  let (v, w) ← enumerateArguments a
  let start ← match w with
    | some w => countArgument w
    | none => pure 0
  return .iterator (← Run.alloc (.iterator (.numbered (← iterate v) start)))

/-- What `zip` takes besides the values. -/
def zipForm : Form := { function := "zip", names := ["strict"], places := 0 }

/-- `zip` -/
def callZip (a : Arguments) : Run Value := do
  let strict ← match ← zipForm.arrange { a with plain := [] } with
    | [some v] => isTrue v
    | _ => pure false
  return .iterator (← Run.alloc (.iterator (.together strict (← a.plain.mapM iterate))))

/-- Goes through the elements that remain of an iteration as long as `step` gives a new state. -/
def through {α : Type} (a : Address) (step : α → Value → Run (α × Bool)) : Nat → α → Run α
  | 0, _ => throw .endless
  | n + 1, x => do
    match ← next a with
    | none => return x
    | some v =>
      let (y, more) ← step x v
      if more then through a step n y else return y

/-- What `sum` takes. -/
def sumForm : Form :=
  { function := "sum", nameless := 1, names := ["start"], places := 2, required := 1 }

/-- The value with which a sum begins; numbers are made anew. -/
def sumStart (v : Value) : Run Value :=
  match v with
  | .text .. => Run.fail .type "sum() can't sum strings [use ''.join(seq) instead]"
  | .int _ n => if -placeLimit ≤ n ∧ n < placeLimit then Run.newInt n else return v
  | .float _ x => Run.newFloat x
  | _ => return v

/-- `sum` -/
def callSum (a : Arguments) : Run Value := do
  let vs ← sumForm.arrange a
  let source ← iterate ((vs.head?.join).getD .none)
  let start ← sumStart ((vs[1]?.join).getD (.int .common 0))
  through source (fun total v => do return (← operate .add false total v, true)) stepLimit start

/-- `any` and `all`: is there an element whose truth is `sought`? -/
def callSeek (function : Text) (sought : Bool) (a : Arguments) : Run Bool := do
  let source ← iterate (← onlyArgument function a)
  through source (fun _ v => do
    let found := (← isTrue v) = sought
    return (found, !found)) stepLimit false

/-! ### Keys -/

/-- What values are compared by: themselves, or what a function says of them. -/
def keyOf (call : Caller) (key : Option Value) (v : Value) : Run Value :=
  match key with
  | none | some .none => return v
  | some f => call f [v]

/-- A number that fits the small numbers of the machine. -/
def smallArgument (v : Value) : Run Int := do
  let n ← countArgument v
  if -Int.pow 2 31 ≤ n ∧ n < Int.pow 2 31 then return n
  else Run.fail .overflow "Python int too large to convert to C int"

/-- What `sorted` takes besides the values. -/
def sortForm : Form := { function := "sort", names := ["key", "reverse"], places := 0 }

/-- `sorted`: a sort in reverse is one of the reversed values, and is reversed in its turn. -/
def callSorted (call : Caller) (a : Arguments) : Run Value := do
  demandBetween "sorted" 1 1 a.plain
  let vs ← elements (a.plain.headD .none)
  let options ← sortForm.arrange { a with plain := [] }
  let reverse ← match (options[1]?).join with
    | some v => do pure ((← smallArgument v) != 0)
    | none => pure false
  let pairs ← vs.mapM fun v => do return (← keyOf call (options.head?).join v, v)
  let less (p q : Value × Value) : Run Bool := ordered .lt p.1 q.1
  let sorted ← Sort.sort less (if reverse then pairs.reverse else pairs)
  Run.newList ((if reverse then sorted.reverse else sorted).map (·.2))

/-- What `min` and `max` take besides the values. -/
def extremeForm (function : Text) : Form :=
  { function, names := ["key", "default"], places := 0 }

/-- `min` and `max`: the value whose key comes first in an order; an earlier one among equals. -/
def callExtreme (function : Text) (c : Comparison) (call : Caller) (a : Arguments) :
    Run Value := do
  let several := 1 < a.plain.length
  let v ← match a.plain with
    | [] => Run.fail .type (function ++ " expected at least 1 argument, got 0")
    | [v] => pure v
    | vs => Run.newTuple vs
  let options ← (extremeForm function).arrange { a with plain := [] }
  let fallback := (options[1]?).join
  if several && fallback.isSome then
    Run.fail .type ("Cannot specify a default for " ++ function ++
      "() with multiple positional arguments")
  else
    let source ← iterate v
    let step (best : Option (Value × Value)) (v : Value) :
        Run (Option (Value × Value) × Bool) := do
      let k ← keyOf call (options.head?).join v
      match best with
      | none => return (some (k, v), true)
      | some b => return (some (if ← ordered c k b.1 then (k, v) else b), true)
    match ← through source step stepLimit none, fallback with
    | some b, _ => return b.2
    | none, some v => return v
    | none, none => Run.fail .value (function ++ "() arg is an empty sequence")

/-! ### Failures -/

/-- The arguments by name that the making of a failure takes. -/
def FaultKind.form? (k : FaultKind) : Option Form :=
  match k with
  | .name | .unboundLocal => some { function := "NameError", names := ["name"], places := 0 }
  | .noAttribute => some { function := "AttributeError", names := ["name", "obj"], places := 0 }
  | _ => none

/-- Makes a failure. -/
def newFault (k : FaultKind) (a : Arguments) : Run Value := do
  match k.form? with
  | some f => let _ ← f.arrange { a with plain := [] }
  | none => demandNoNames k.text a
  let tuple ← if a.plain.isEmpty then pure .common else Run.mark
  let cell ← Run.alloc (.fault { kind := k, arguments := a.plain } tuple)
  return .fault cell

/-! ### Calling -/

/-- The types of things that every script can name and that are no functions. -/
def uncallable : List String := ["ellipsis", "NotImplementedType", "ModuleSpec", "dict"]

/-- A list of names in order. -/
def nameList (names : List Text) : Run Value :=
  Run.newList ((Text.sort names).map (.text .common))

/-- Calls a function that every script can name; `names` are those that can be seen from the place
of the call. -/
def callNative (call : Caller) (names : Run (List Text)) (f : Native) (a : Arguments) : Run Value :=
  match f with
  | .len => callLen a
  | .str => callStr a
  | .int => callInt a
  | .bool => callBool a
  | .list => callList a
  | .range => callRange a
  | .enumerate => callEnumerate a
  | .zip => callZip a
  | .sorted => callSorted call a
  | .sum => callSum a
  | .min => callExtreme "min" .lt call a
  | .max => callExtreme "max" .gt call a
  | .any => do return .bool (← callSeek "any" true a)
  | .all => do return .bool !(← callSeek "all" false a)
  | .abs => callAbs a
  | .repr => do (← onlyArgument "repr" a).asQuoted
  | .dir => do
    demandNoNames "dir" a
    demandBetween "dir" 0 1 a.plain
    match a.plain with
    | .object c :: _ => do nameList ((← Run.thingAt c).attributes.map (·.1))
    | v :: _ => nameList ((methodsOf v).map Method.text)
    | [] => do nameList (← names)
  | .sealed id kind _ =>
    if uncallable.contains (String.ofList kind) then
      Run.fail .type ("'" ++ kind ++ "' object is not callable")
    else Run.fail .type ("'" ++ id ++ "' cannot be called here")

/-! ### Names -/

/-- The names of functions that are known by their text only. -/
def sealedFunctions : List String :=
  ["__build_class__", "__import__", "aiter", "anext", "ascii", "bin", "breakpoint", "callable",
   "chr", "compile", "delattr", "divmod", "eval", "exec", "format", "getattr", "globals", "hasattr",
   "hash", "hex", "id", "input", "isinstance", "issubclass", "iter", "locals", "next", "oct",
   "open", "ord", "pow", "print", "round", "setattr", "vars"]

/-- The names of kinds of failures that are known by their text only. -/
def sealedFaults : List String :=
  ["AssertionError", "BaseException", "BaseExceptionGroup", "BlockingIOError",
   "BrokenPipeError", "BufferError", "BytesWarning", "ChildProcessError", "ConnectionAbortedError",
   "ConnectionError", "ConnectionRefusedError", "ConnectionResetError", "DeprecationWarning",
   "EOFError", "EncodingWarning", "ExceptionGroup", "FileExistsError", "FileNotFoundError",
   "FloatingPointError", "FutureWarning", "GeneratorExit", "ImportError", "ImportWarning",
   "IndentationError", "InterruptedError", "IsADirectoryError", "KeyboardInterrupt",
   "ModuleNotFoundError", "NotADirectoryError", "NotImplementedError", "OSError",
   "PendingDeprecationWarning", "PermissionError", "ProcessLookupError", "ReferenceError",
   "ResourceWarning", "RuntimeWarning", "StopAsyncIteration", "StopIteration", "SyntaxError",
   "SyntaxWarning", "SystemExit", "TabError", "TimeoutError", "UnicodeDecodeError",
   "UnicodeEncodeError", "UnicodeTranslateError", "UnicodeWarning", "UserWarning", "Warning"]

/-- The names of classes that are known by their text only. -/
def sealedClasses : List String :=
  ["bytearray", "bytes", "classmethod", "complex", "dict", "filter", "float", "frozenset", "map",
   "memoryview", "object", "property", "reversed", "set", "slice", "staticmethod", "super", "tuple",
   "type"] ++ sealedFaults

/-- Names that stand for something with another name. -/
def secondNames : List (String × String) := [("EnvironmentError", "OSError"), ("IOError", "OSError")]

/-- The name of the names that every script can name. -/
def builtinsId : Text := "__builtins__"

/-- What is said of the names that every script can name. -/
def builtinsDoc : Text :=
  "Built-in functions, types, exceptions, and other objects.\n\n" ++
  "This module provides direct access to all 'built-in'\n" ++
  "identifiers of Python; for example, builtins.len is\n" ++
  "the full name for the built-in function len().\n\n" ++
  "This module is not normally accessed explicitly by most\n" ++
  "applications, but can be useful in modules that provide\n" ++
  "objects with the same name as a built-in value, but in\n" ++
  "which the built-in of that name is also needed."

/-- The class that loads what every script can name. -/
def loaderText : Text := "<class '_frozen_importlib.BuiltinImporter'>"

/-- How something is shown that ends an interactive session. -/
def quitterText (id : Text) : Text := "Use " ++ id ++ "() or Ctrl-D (i.e. EOF) to exit"

/-- How a notice is shown that does not fit a screen.  What the notices say, and so which of them
fit, depends on how the language is installed. -/
def noticeText (id : Text) : Text := "Type " ++ id ++ "() to see the full " ++ id ++ " text"

/-- Names that stand for other values. -/
def standardValues : List (String × Value) :=
  [("__name__", .text .common "builtins"), ("__package__", .text .common []),
   ("__debug__", .bool true), ("__doc__", .text .common builtinsDoc),
   ("__loader__", .native (.sealed "BuiltinImporter" "type" loaderText)),
   ("__spec__", .native (.sealed "__spec__" "ModuleSpec"
     ("ModuleSpec(name='builtins', loader=" ++ loaderText ++ ", origin='built-in')"))),
   ("Ellipsis", .native (.sealed "Ellipsis" "ellipsis" "Ellipsis")),
   ("NotImplemented", .native (.sealed "NotImplemented" "NotImplementedType" "NotImplemented")),
   ("exit", .native (.sealed "exit" "Quitter" (quitterText "exit"))),
   ("quit", .native (.sealed "quit" "Quitter" (quitterText "quit"))),
   ("help", .native (.sealed "help" "_Helper"
     "Type help() for interactive help, or help(object) for help about object.")),
   ("copyright", .native (.sealed "copyright" "_Printer" (noticeText "copyright"))),
   ("credits", .native (.sealed "credits" "_Printer" (noticeText "credits"))),
   ("license", .native (.sealed "license" "_Printer" (noticeText "license"))),
   -- the names themselves, of which only the text's front is known
   (String.ofList builtinsId, .native (.sealed builtinsId "dict"
     "\x7b'__name__': 'builtins', ...\x7d"))]

/-- The values of names that no scope binds. -/
def standardName? (id : Text) : Option Value :=
  let id := match secondNames.lookup (String.ofList id) with
    | some s => s.toList
    | none => id
  match Native.working.find? fun f => f.text = id with
  | some f => some (.native f)
  | none =>
    match FaultKind.nameable.find? fun k => k.text = id with
    | some k => some (.kind k)
    | none =>
      if sealedFunctions.contains (String.ofList id) then
        some (.native (.sealed id "builtin_function_or_method" ("<built-in function " ++ id ++ ">")))
      else if sealedClasses.contains (String.ofList id) then
        some (.native (.sealed id "type" ("<class '" ++ id ++ "'>")))
      else standardValues.lookup (String.ofList id)

end ViewEngine.Script
