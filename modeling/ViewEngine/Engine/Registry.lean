/-
# The registry of helpers

Helpers are registered under names by which views call them.  Every operation checks what it is
given before it changes anything, so that one that fails leaves the registry as it was.
-/
import ViewEngine.Engine.Mapping
import ViewEngine.Text.Word

namespace ViewEngine

open Script (Datum)

/-- The name under which views add to their output. -/
def outputId : Text := "_append"

/-- Helpers under names, in the order in which the names were registered. -/
structure Registry where
  /-- The names, each with the name of its helper. -/
  helpers : Names Text := []
deriving DecidableEq, Repr

namespace Registry

/-- The name of a view's choice, if it is an identifier and not the name of the output. -/
def checkName (name : Datum) : Except Failure Text :=
  match name with
  | .text id =>
    if !Text.isIdentifier id then badName
    else if id = outputId then
      .error (.complaint .value ("'" ++ outputId ++ "' is reserved for render output"))
    else .ok id
  | _ => badName
where
  /-- What is said of a name that is no identifier. -/
  badName : Except Failure Text :=
    .error (.complaint .value ("Helper name must be a Python identifier, got " ++ name.quoted))

/-- A helper and the name for it, if both will do. -/
def check (name helper : Datum) : Except Failure (Text × Text) := do
  let id ← checkName name
  match helper with
  | .helper h => .ok (id, h)
  | _ => .error (.complaint .type ("Helper '" ++ id ++ "' must be callable, got " ++
      helper.typeName))

/-- Several helpers and their names, if all will do. -/
def checkAll : Entries → Except Failure (Names Text)
  | [] => .ok []
  | e :: es => do
    let first ← check e.1 e.2
    let rest ← checkAll es
    .ok (first :: rest)

/-- The helper of a name, if it is registered; what cannot be a key is refused. -/
def find? (r : Registry) (name : Datum) : Except Failure (Option Text) := do
  Mapping.demandKey name
  match name with
  | .text id => .ok (r.helpers.find? id)
  | _ => .ok none

/-- The helper of a name, which has to be registered. -/
def get (r : Registry) (name : Datum) : Except Failure Text := do
  match ← r.find? name with
  | some h => .ok h
  | none => .error (.complaint .key name.quoted)

/-- Registers a helper. -/
def set (r : Registry) (name helper : Datum) : Except Failure Registry := do
  let e ← check name helper
  .ok ⟨r.helpers.put e.1 e.2⟩

/-- Takes a name out of the registry and gives its helper back. -/
def pop (r : Registry) (name : Datum) : Except Failure (Text × Registry) := do
  let h ← r.get name
  match name with
  | .text id => .ok (h, ⟨r.helpers.erase id⟩)
  | _ => .ok (h, r)

/-- Takes a name out of the registry. -/
def erase (r : Registry) (name : Datum) : Except Failure Registry := do
  .ok (← r.pop name).2

/-- Registers the helpers of a mapping, and over them those given by name. -/
def update (r : Registry) (helpers : Datum) (named : Names Datum) : Except Failure Registry := do
  let es ← Mapping.entries helpers
  let incoming ← checkAll (Entries.putAll es (Entries.ofNames named))
  .ok ⟨r.helpers.putAll incoming⟩

/-- Takes the first name out of the registry and gives it back with its helper. -/
def popFirst (r : Registry) : Except Failure ((Text × Text) × Registry) :=
  match r.helpers with
  | [] => .error (.complaint .key [])
  | e :: es => .ok (e, ⟨es⟩)

/-- The helper of a name; if there is none, the given one is registered. -/
def setDefault (r : Registry) (name helper : Datum) : Except Failure (Text × Registry) := do
  match ← r.find? name with
  | some h => .ok (h, r)
  | none =>
    let e ← check name helper
    .ok (e.2, ⟨r.helpers.put e.1 e.2⟩)

/-- Takes all names out of the registry. -/
def clear (_ : Registry) : Registry := {}

/-- The registered helpers as data. -/
def data (r : Registry) : Names Datum := r.helpers.map fun h => (h.1, .helper h.2)

/-- How the registry is shown. -/
def text (r : Registry) : Text :=
  "<HelperRegistry [" ++ Text.joinWith ", " ((Text.sort r.helpers.ids).map Text.quoted) ++ "]>"

end Registry

/-! ### What a view can see -/

/-- What a name of a view stands for. -/
inductive Binding where
  /-- The function that adds to the output. -/
  | output
  /-- A helper. -/
  | helper (id : Text)
  /-- Data. -/
  | datum (value : Datum)

/-- The helper that every view has. -/
def standardHelpers : Names Datum := [("escape", .helper "escape")]

/-- What the names of a view stand for: data come before registered helpers, and these before the
standard one; the output belongs to the run itself. -/
def bindings (helpers data : Names Datum) : Names Binding :=
  (((bind standardHelpers).putAll (bind helpers)).putAll (bind data)).put outputId .output
where
  /-- Data as bindings. -/
  bind (ds : Names Datum) : Names Binding :=
    ds.map fun d => (d.1, match d.2 with
      | .helper id => .helper id
      | v => .datum v)

end ViewEngine
