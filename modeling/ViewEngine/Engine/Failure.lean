/-
# Failures of the engine

An operation of the engine fails with an error about a view, with a fault of the store, or with a
complaint about what it was given.
-/
import ViewEngine.Layout.Resolve
import ViewEngine.Script.Datum

namespace ViewEngine

/-- Why an operation fails. -/
inductive Failure where
  /-- An error about a view. -/
  | view (error : ViewError)
  /-- The store cannot be read. -/
  | store (fault : Layout.StoreFault)
  /-- A complaint of some kind. -/
  | complaint (kind : Script.FaultKind) (message : Text)
  /-- A view that does not end. -/
  | endless
deriving DecidableEq, Repr

namespace Failure

open Script (Fault Memory Run Stop Value)

/-- The text of a fault; a fault that has none fails in its turn. -/
def faultText (m : Memory) (f : Fault) : Except Failure Text :=
  match ((f.text Value.plain).run.run m).1 with
  | .ok t => .ok t
  | .error .endless => .error .endless
  | .error (.fault g) =>
    match ((g.text Value.plain).run.run m).1 with
    | .ok t => .error (.complaint g.kind t)
    | .error _ => .error (.complaint g.kind [])

/-- The failure of an operation whose script stopped. -/
def ofStop (m : Memory) : Stop → Failure
  | .endless => .endless
  | .fault f =>
    match faultText m f with
    | .ok t => .complaint f.kind t
    | .error f => f

/-- Does something in a memory of its own. -/
def attempt {α : Type} (x : Run α) : Except Failure α :=
  match x.run.run {} with
  | (.ok a, _) => .ok a
  | (.error s, m) => .error (ofStop m s)

end Failure

/-- The failure of an operation that could not resolve a view. -/
def Layout.ResolveFault.toFailure (f : Layout.ResolveFault) : Failure :=
  match f.toError with
  | .ok e => .view e
  | .error s => .store s

end ViewEngine
