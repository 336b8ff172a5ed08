/-
# What happens while a view is resolved

Resolution asks a store for views.  The names it asks for, and the views it begins to resolve, are
observable whether or not it succeeds, so a computation carries them beside its result.
-/
import ViewEngine.Diagnostic.ViewError

namespace ViewEngine.Layout

/-- Why a store gives no text. -/
inductive StoreFault where
  /-- The store has no view of that name; the text says so to the author. -/
  | missing (message : Text)
  /-- The file of the view is no text in the encoding of the store. -/
  | undecodable
  /-- The encoding of the store has a complaint of its own about the file. -/
  | unreadable (message : Text)
  /-- The store is set to an encoding that does not exist. -/
  | unknownEncoding (name : Text)
  /-- The store is set to a code that does not give texts. -/
  | notText (name : Text)
  /-- The store cannot do what it is asked with the names it has. -/
  | refused (message : Text)
deriving DecidableEq, Repr

/-- Why a view cannot be resolved. -/
inductive ResolveFault where
  /-- The store gives no text. -/
  | store (fault : StoreFault)
  /-- A view leads back to itself. -/
  | circular (stack : List Text) (name : Text)
  /-- More views lie inside each other than allowed. -/
  | tooDeep (limit : Int) (stack : List Text) (name : Text)
deriving DecidableEq, Repr

/-- Something that a caller can observe of a resolution. -/
inductive Event where
  /-- The store is asked for a view. -/
  | asked (name : Text)
  /-- A view begins to be resolved, perhaps as the parent of another. -/
  | resolving (label : Text) (asParent : Bool)
deriving DecidableEq, Repr

/-- A result with what happened before it. -/
structure Traced (α : Type) where
  /-- What happened, in order. -/
  events : List Event
  /-- How it ended. -/
  result : Except ResolveFault α

namespace Traced

variable {α β : Type}

/-- Goes on after a result. -/
def andThen (x : Traced α) (f : α → Traced β) : Traced β :=
  match x.result with
  | .ok a =>
    let y := f a
    ⟨x.events ++ y.events, y.result⟩
  | .error e => ⟨x.events, .error e⟩

instance : Monad Traced where
  pure a := ⟨[], .ok a⟩
  bind := andThen

/-- Something happens. -/
def note (e : Event) : Traced Unit := ⟨[e], .ok ()⟩

/-- Resolution fails. -/
def fail (f : ResolveFault) : Traced α := ⟨[], .error f⟩

/-- The names that the store was asked for. -/
def asked (x : Traced α) : List Text :=
  x.events.filterMap fun
    | .asked n => some n
    | .resolving .. => none

end Traced
end ViewEngine.Layout
