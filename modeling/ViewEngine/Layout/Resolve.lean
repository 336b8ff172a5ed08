/-
# Resolving views

A view is flattened before it is cut into tags.  Its particles are replaced by the texts of the
views they name, and those views' particles likewise.  A view with a parent is poured into the
resolved parent: each `@yield` of the parent receives the section of that name.  A parent keeps the
`@yield` marks that it cannot fill, so that the next child down may; the view that is rendered drops
what is still unfilled.

Both recursions are bounded: `room` counts how many more views may be entered, and entering one of
the views on the stack again is an error.
-/
import ViewEngine.Layout.Directive
import ViewEngine.Layout.Trace

namespace ViewEngine.Layout

/-- What a store answers to a name. -/
abbrev Ask := Text → Except StoreFault Text

/-- What stands for the name of a view that has none. -/
def inlineName : Text := "<string>"

/-- The number of views that may be entered if no limit is given. -/
def defaultLimit : Int := 50

/-- A text with the warnings that arose while it was put together. -/
structure Expansion where
  /-- The text. -/
  text : Text
  /-- The warnings, in order. -/
  warnings : List ViewWarning := []
deriving DecidableEq, Repr

namespace Expansion

/-- One expansion after the other. -/
def append (a b : Expansion) : Expansion := ⟨a.text ++ b.text, a.warnings ++ b.warnings⟩

instance : Append Expansion := ⟨append⟩

end Expansion

/-- A resolved view. -/
structure Resolved where
  /-- The name of the view, if it has one. -/
  name : Option Text
  /-- The flattened text. -/
  content : Text
  /-- The parent of the view. -/
  parent : Option Text := none
  /-- The problems found on the way. -/
  warnings : List ViewWarning := []
deriving DecidableEq, Repr

/-- Asks the store for a view. -/
def load (ask : Ask) (name : Text) : Traced Text := do
  Traced.note (.asked name)
  match ask name with
  | .ok t => pure t
  | .error f => Traced.fail (.store f)

/-- Asks the store for a view that may be missing. -/
def load? (ask : Ask) (name : Text) : Traced (Option Text) := do
  Traced.note (.asked name)
  match ask name with
  | .ok t => pure (some t)
  | .error (.missing _) => pure none
  | .error f => Traced.fail (.store f)

/-- The cut text with `f` of each match in its place. -/
def fillPieces (f : Text → Text → Traced Expansion) : List (Text.Piece Text) → Traced Expansion
  | [] => pure ⟨[], []⟩
  | .plain t :: ps => do
    let rest ← fillPieces f ps
    pure (⟨t, []⟩ ++ rest)
  | .found name t :: ps => do
    let first ← f name t
    let rest ← fillPieces f ps
    pure (first ++ rest)

/-- How many more views may be entered. -/
def roomFor (limit : Int) (stack : List Text) : Nat := (limit - stack.length).toNat

/-- Replaces the particles of a text that was reached through the particles on `stack`. -/
def expandWithin (ask : Ask) (limit : Int) (room : Nat) (origin : Option Text)
    (stack : List Text) (t : Text) : Traced Expansion :=
  fillPieces (fun name _ => do
    match ← load? ask name with
    | none => pure ⟨[], [.missingParticle name ((nonempty? origin).getD inlineName)]⟩
    | some source =>
      if name ∈ stack then Traced.fail (.circular stack name)
      else match room with
        | 0 => Traced.fail (.tooDeep limit stack name)
        | r + 1 => expandWithin ask limit r (some name) (stack ++ [name]) source)
    (Text.pieces particle? t)
termination_by structural room

/-- Replaces the particles of a text. -/
def expandParticles (ask : Ask) (t : Text) (origin : Option Text) (stack : List Text)
    (limit : Int) : Traced Expansion :=
  expandWithin ask limit (roomFor limit stack) origin stack t

/-- Replaces the particles of a part of the view `label`. -/
def expandPart (ask : Ask) (limit : Int) (label t : Text) : Traced Expansion :=
  expandParticles ask t (some label) [label] limit

/-- Drops the places that no section filled. -/
def dropYields (t : Text) : Text := Text.replaceAll yield? (fun _ _ => []) t

/-- What a child puts into one place of its parent. -/
def fillYield (ask : Ask) (limit : Int) (label parent : Text) (d : Dependencies) (asParent : Bool)
    (name mark : Text) : Traced Expansion :=
  match d.find? name with
  | some body => expandPart ask limit label body
  | none =>
    if asParent then pure ⟨mark, []⟩
    else pure ⟨[], [.missingSection name label parent]⟩

/-- Resolves a view that was reached through the children on `stack`. -/
def resolveWithin (ask : Ask) (limit : Int) (room : Nat) (name source : Option Text)
    (asParent : Bool) (stack : List Text) : Traced Resolved := do
  let label := (nonempty? name).getD inlineName
  if label ∈ stack then Traced.fail (.circular stack label)
  else match room with
    | 0 => Traced.fail (.tooDeep limit stack label)
    | r + 1 => do
      let source ← match source with
        | some s => pure s
        | none => load ask label
      Traced.note (.resolving label asParent)
      let d := dependencies source
      let e ← match d.parent with
        | some p => do
          let parent ← resolveWithin ask limit r (some p) none true (stack ++ [label])
          let filled ← fillPieces (fillYield ask limit label p d asParent)
            (Text.pieces yield? parent.content)
          pure (⟨[], parent.warnings⟩ ++ filled : Expansion)
        | none => expandPart ask limit label d.body
      pure
        { name
          content := if asParent then e.text else dropYields e.text
          parent := d.parent
          warnings := e.warnings }
termination_by structural room

/-- Resolves a view: from its source if one is given, else from the store. -/
def resolve (ask : Ask) (name source : Option Text) (asParent : Bool) (limit : Int)
    (stack : List Text) : Traced Resolved :=
  resolveWithin ask limit (roomFor limit stack) name source asParent stack

/-- The fault as an error of the engine, or as the store's own fault. -/
def ResolveFault.toError : ResolveFault → Except StoreFault ViewError
  | store (.missing m) => .ok (.notFound m)
  | store f => .error f
  | circular stack name => .ok (.runtime
      { message := "Circular view reference: " ++ Text.joinWith " → " (stack ++ [name])
        name := some (stack.getLast?.getD name)
        stack
        suggestion := some
          "Remove the @extends or @particle that points back up the chain".toList
        code := .circularView })
  | tooDeep limit stack name => .ok (.runtime
      { message := "Maximum view depth exceeded (" ++ Text.ofInt limit ++ ") when resolving '"
          ++ name ++ "'"
        name := some (stack.getLast?.getD name)
        stack
        code := .renderDepth })

end ViewEngine.Layout
