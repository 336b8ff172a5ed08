/-
# Helpers

A helper is a function that the host of a script provides.  It has a name and does something with
the arguments of a call.
-/
import ViewEngine.Script.Arguments

namespace ViewEngine.Script

/-- A function of the host. -/
structure Helper where
  /-- Its name. -/
  id : Text
  /-- What it does with the arguments of a call. -/
  call : Arguments → Run Value

namespace Helper

/-- A helper with a fixed list of parameters; `known` is its name in complaints. -/
def ofSignature (id known : Text) (s : Signature) (body : List Value → Run Value) : Helper where
  id
  call a := do
    let vs ← s.bind known a
    body (vs.map (·.2))

/-- A helper that takes any number of values. -/
def variadic (id : Text) (body : List Value → Run Value) : Helper where
  id
  call a :=
    match a.named with
    | [] => body a.plain
    | n :: _ => Run.fail .type (id ++ "() got an unexpected keyword argument '" ++ n.1 ++ "'")

/-- A helper that fails whatever the arguments are; a message, if there is one, is the argument of the
failure. -/
def failing (id : Text) (kind : FaultKind) (message : Option Text) : Helper where
  id
  call _ :=
    match message with
    | some m => Run.fail kind m
    | none => Run.raise kind []

end Helper

/-- The helper of a name. -/
def findHelper (hs : List Helper) (id : Text) : Option Helper := hs.find? fun h => h.id = id

end ViewEngine.Script
