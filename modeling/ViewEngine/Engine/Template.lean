/-
# Compiled views

A view is compiled once; its code then runs against data.  Each run has a memory and an output of
its own.  A failure in the code is reported at the line of the view that the code comes from.
-/
import ViewEngine.Code.Generator
import ViewEngine.Engine.Registry
import ViewEngine.Helper.Stock
import ViewEngine.Script.Program

namespace ViewEngine

open Script (Datum Run Value)

/-- A compiled view. -/
structure Template where
  /-- The code with its lines. -/
  generated : Generated
  /-- The compiled code. -/
  script : Script.Program
  /-- The helpers that were registered when the view was compiled. -/
  helpers : Names Datum := []
  /-- The problems found when the view was resolved. -/
  warnings : List ViewWarning := []

/-- What code runs on. -/
structure Host where
  /-- The helpers that it provides. -/
  helpers : List Script.Helper
  /-- Does it show errors in colours? -/
  coloured : Bool := false

namespace Template

/-- What stands for the text of a complaint of the compiler. -/
def complaintText : Text := "<host>"

/-- The error about code that does not compile; `line` is the line of the code to blame. -/
def compileError (g : Generated) (line : Option Nat) : ViewError :=
  .uncompilable ("Generated code failed to compile: " ++ complaintText)
    { line := g.templateLine (line.getD 0), name := g.name, source := g.source }
    (some g.code) .compileError

/-- Can code have the name?  What compiles code takes a name of it as well, which must not have the
character zero. -/
def isNameOfCode (name : Option Text) : Bool := !(name.getD []).contains '\x00'

/-- Compiles generated code. -/
def compile (g : Generated) (helpers : Names Datum) (warnings : List ViewWarning) :
    Except Failure Template :=
  if isNameOfCode g.name then
    match Script.compile g.code with
    | .ok script => .ok { generated := g, script, helpers, warnings }
    | .error line => .error (.view (compileError g line))
  else .error (.view (compileError g none))

/-- The name of the view. -/
def name (t : Template) : Option Text := t.generated.name

/-- How the template is shown. -/
def text (t : Template) : Text :=
  "<Template " ++ (nonempty? t.name).getD "(inline)" ++ ">"

/-! ### Running -/

/-- The value of a binding. -/
def loadBinding : Binding → Run Value
  | .output => return .output
  | .helper id => return .helper id
  | .datum d => d.load

/-- The values of bindings. -/
def loadBindings : Names Binding → Run (Names Value)
  | [] => return []
  | b :: bs => do
    let v ← loadBinding b.2
    return (b.1, v) :: (← loadBindings bs)

/-- Does the text of a failure of this kind say enough without the word for its kind? -/
def speaksForItself (k : Script.FaultKind) : Bool :=
  k.isA .name || k.isA .noAttribute || k.isA .key

/-- The message of a failure of some kind with some text. -/
def faultMessage (k : Script.FaultKind) (t : Text) : Text :=
  let t := Text.strip t
  let said := if t.isEmpty then k.text ++ " (no details available)" else t
  if speaksForItself k then said else k.text ++ ": " ++ said

/-- The report of a failure in the code, `line` being its line in the code. -/
def runtimeError (g : Generated) (k : Script.FaultKind) (t : Text) (line : Option Nat) :
    ViewError :=
  let line := g.templateLine (line.getD 0)
  .runtime
    { message := faultMessage k t
      name := g.name
      line
      snippet := Place.snippet? { line, source := g.source }
      cause := some k.text }

/-- The report of a failure in the code. -/
def report (g : Generated) (m : Script.Memory) (f : Script.Fault) : Failure :=
  match f.kind with
  | .engine e => .view e
  | k =>
    match Failure.faultText m f with
    | .ok t => .view (runtimeError g k t f.line)
    | .error f => f

/-- Runs the code with the given data on a host. -/
def run (host : Host) (t : Template) (data : Names Datum) : Except Failure Text :=
  let r : Run Unit := do
    let names ← loadBindings (bindings t.helpers data)
    Script.runScript host.helpers t.script names
  match r.run.run { coloured := host.coloured } with
  | (.ok _, m) => .ok m.outputText
  | (.error (.fault f), m) => .error (report t.generated m f)
  | (.error .endless, _) => .error .endless

/-- Runs the code with the data that a mapping holds. -/
def runWith (host : Host) (t : Template) (data : Datum) : Except Failure Text := do
  run host t (← Mapping.context data)

/-- The data of a call: one mapping at most by place, and data by name over it.  One name is taken
by the template itself. -/
def callData (plain : List Datum) (named : Names Datum) : Except Failure (Names Datum) :=
  match if (named.find? "self").isSome then none else some plain with
  | none => .error (.complaint .type "Template.render() got multiple values for argument 'self'")
  | some [] => .ok named
  | some [.dict es] => do .ok ((← Mapping.context (.dict es)).putAll named)
  | some _ => .error (.complaint .type
      ("render() takes at most 1 positional argument (a dict), got " ++ Text.ofNat plain.length))

/-- Runs the code with the data of a call. -/
def render (host : Host) (t : Template) (plain : List Datum) (named : Names Datum) :
    Except Failure Text := do
  run host t (← callData plain named)

end Template

/-- The text of a value, escaped for markup. -/
def escapeDatum (d : Datum) : Except Failure Text :=
  Failure.attempt do (← Helper.escapeValue (← d.load)).plain

/-- Compiles code and runs it once. -/
def compileAndRun (host : Host) (g : Generated) (data : Datum)
    (helpers : Names Datum) : Except Failure Text := do
  let t ← Template.compile g helpers []
  t.runWith host data

end ViewEngine
