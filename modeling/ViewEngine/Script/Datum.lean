/-
# Data of the host

What a host passes to a script: a tree of plain values, lists, tuples, dictionaries, objects and
helpers.  A run begins with its data loaded into its memory, so that no run can see what another one
did to the same data.
-/
import ViewEngine.Script.Operation

namespace ViewEngine.Script

mutual

/-- A value of the host. -/
inductive Datum where
  | none
  | bool (value : Bool)
  | int (value : Int)
  | float (value : Float)
  | text (value : Text)
  | list (items : List Datum)
  | tuple (items : List Datum)
  | dict (entries : List DatumEntry)
  /-- A thing of a class, with attributes, and its text or the message of the failure to give
  one. -/
  | object (kind : Text) (attributes : List DatumField) (shown : Except Text Text)
  /-- A helper, by its name. -/
  | helper (id : Text)

/-- A key with its value. -/
inductive DatumEntry where
  | mk (key value : Datum)

/-- An attribute with its value. -/
inductive DatumField where
  | mk (id : Text) (value : Datum)

end

namespace Datum

mutual

/-- Loads a value into the memory. -/
def load : Datum → Run Value
  | none => return .none
  | bool b => return .bool b
  | int n => Run.newInt n
  | float x => Run.newFloat x
  | text t => Run.pieceOf t
  | list ds => do Run.newList (← loadAll ds)
  | tuple ds => do Run.newTuple (← loadAll ds)
  | dict es => do Run.newDict (← loadEntries [] es)
  | object kind fs shown => do
    let attributes ← loadFields fs
    return .object (← Run.alloc (.object { kind, attributes, shown }))
  | helper id => return .helper id

/-- Loads several values. -/
def loadAll : List Datum → Run (List Value)
  | [] => return []
  | d :: ds => do
    let v ← load d
    return v :: (← loadAll ds)

/-- Loads the entries of a dictionary behind those that are there. -/
def loadEntries (es : List (Value × Value)) : List DatumEntry → Run (List (Value × Value))
  | [] => return es
  | .mk k d :: rest => do
    let key ← load k
    let v ← load d
    let es ← insertEntry key v es
    loadEntries es rest

/-- Loads the attributes of a thing. -/
def loadFields : List DatumField → Run (Names Value)
  | [] => return []
  | .mk id d :: rest => do
    let v ← load d
    return (id, v) :: (← loadFields rest)

end

/-- The quoted text of a value. -/
def quoted (d : Datum) : Text :=
  match Run.alone (do (← d.load).quoted) with
  | .ok t => t
  | .error _ => []

/-- The word for the type of a value. -/
def typeName (d : Datum) : Text :=
  match Run.alone (do (← d.load).typeName) with
  | .ok t => t
  | .error _ => []

/-- Does the value count as true? -/
def isTrue (d : Datum) : Bool :=
  match Run.alone (do Script.isTrue (← d.load)) with
  | .ok b => b
  | .error _ => true

end Datum
end ViewEngine.Script
