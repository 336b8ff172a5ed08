/-
# Environments

An environment says where views come from, how deep they may lie inside each other and which helpers
they can call.  To render a view it is loaded, flattened, cut into tags, turned into code, compiled
and run; nothing is kept from one rendering to the next.
-/
import ViewEngine.Engine.Template
import ViewEngine.Store.ViewStore

namespace ViewEngine

open Script (Datum)

/-- Something that an observer is told while the engine works. -/
inductive Note where
  /-- Something happened while a view was resolved. -/
  | layout (event : Layout.Event)
  /-- A problem was found. -/
  | issued (warning : ViewWarning)
  /-- Code of so many lines was compiled. -/
  | compiled (name : Option Text) (lines : Nat)
deriving DecidableEq, Repr

/-- What is shown for a name that may be absent. -/
def shownName (name : Option Text) : Text :=
  match name with
  | some n => Text.quoted n
  | none => "None"

namespace Note

/-- The text of a note; being asked for a view has none. -/
def text? : Note → Option Text
  | layout (.asked _) => none
  | layout (.resolving label asParent) =>
    some ("resolving view " ++ Text.quoted label ++ " (parent pass: " ++
      (if asParent then "True" else "False") ++ ")")
  | issued w => some (w.kind ++ ": " ++ w.message)
  | compiled name lines =>
    some ("compiled view " ++ shownName name ++ " (" ++ Text.ofNat lines ++ " generated lines)")

end Note

/-- The result of an operation with what observers are told before it. -/
structure Outcome (α : Type) where
  /-- What observers are told, in order. -/
  notes : List Note
  /-- How the operation ended. -/
  result : Except Failure α

namespace Outcome

variable {α β : Type}

/-- Goes on after a result. -/
def andThen (x : Outcome α) (f : α → Outcome β) : Outcome β :=
  match x.result with
  | .ok a =>
    let y := f a
    ⟨x.notes ++ y.notes, y.result⟩
  | .error e => ⟨x.notes, .error e⟩

instance : Monad Outcome where
  pure a := ⟨[], .ok a⟩
  bind := andThen

/-- An operation that nobody is told about. -/
def silent (r : Except Failure α) : Outcome α := ⟨[], r⟩

/-- Tells observers. -/
def tell (notes : List Note) : Outcome Unit := ⟨notes, .ok ()⟩

end Outcome

/-- How views are rendered. -/
structure Environment where
  /-- Where views come from. -/
  store : Option ViewStore := none
  /-- How many views may lie inside each other. -/
  limit : Int := Layout.defaultLimit
  /-- The helpers that views can call. -/
  registry : Registry := {}

namespace Environment

/-- An environment; views come from a store or from folders, but not from both. -/
def make (store : Option ViewStore) (folders : Option FolderStore) (limit : Int)
    (helpers : Option Datum) : Except Failure Environment := do
  let store ← match store, folders with
    | some _, some _ =>
      .error (.complaint .value "Pass either loader or views_dir, not both")
    | s, none => .ok s
    | none, some f => .ok (some (.folders f))
  if limit < 1 then
    .error (.complaint .value ("max_depth must be at least 1, got " ++ Text.ofInt limit))
  else
    let es ← Mapping.entriesOrNone helpers
    let registered ← Registry.checkAll es
    .ok { store, limit, registry := ⟨Names.putAll [] registered⟩ }

variable (e : Environment) (disk : Disk) (host : Host)

/-- Resolves a view. -/
def resolve (name source : Option Text) (asParent : Bool) : Outcome Layout.Resolved :=
  let r := Layout.resolve (ViewStore.ask e.store disk) name source asParent e.limit []
  ⟨r.events.map .layout, r.result.mapError Layout.ResolveFault.toFailure⟩

/-- Tells observers about the problems of a resolved view. -/
def issue (r : Layout.Resolved) : Outcome Unit := .tell (r.warnings.map .issued)

/-- Compiles a resolved view with the helpers registered now. -/
def compile (r : Layout.Resolved) : Outcome Template := do
  issue r
  let g ← Outcome.silent ((generate r.content r.name).mapError .view)
  let t ← Outcome.silent (Template.compile g e.registry.data r.warnings)
  Outcome.tell [.compiled g.name g.lineMap.length]
  return t

/-- Loads, resolves and compiles a view. -/
def getTemplate (name : Option Text) : Outcome Template := do
  e.compile (← e.resolve disk name none false)

/-- Compiles a view from its text; it may have a name. -/
def fromString (source : Text) (name : Option Text) : Outcome Template := do
  e.compile (← e.resolve disk name (some source) false)

/-- Data by place, which may be absent, and data by name over them. -/
def contextOf (data : Option Datum) (named : Names Datum) : Except Failure (Names Datum) := do
  let es ← Mapping.entriesOrNone data
  .ok ((Entries.names es).putAll named)

/-- The flattened text of a view as a parent has it, with the places that a child may fill. -/
def renderParent (name : Option Text) : Outcome Text := do
  let r ← e.resolve disk name none true
  issue r
  return r.content

/-- The name under which a caller asks for the text that a parent has. -/
def parentFlag : Text := "is_parent_pass"

/-- Does the caller ask for the text that a parent has?  That is said once at most, outright or among
the data under names. -/
def wantsParent (asParent : Option Bool) (named : Names Datum) : Except Failure Bool :=
  match asParent, named.find? parentFlag with
  | some _, some _ => .error (.complaint .type ("viewforge.environment.core.Environment.render()" ++
      " got multiple values for keyword argument '" ++ parentFlag ++ ['\'']))
  | some b, none => .ok b
  | none, some d => .ok d.isTrue
  | none, none => .ok false

/-- Renders a view; the text that a parent has of it is only put together. -/
def render (name : Option Text) (asParent : Option Bool) (data : Option Datum)
    (named : Names Datum) : Outcome Text := do
  if ← Outcome.silent (wantsParent asParent named) then e.renderParent disk name
  else
    let context ← Outcome.silent (contextOf data (named.erase parentFlag))
    let t ← e.getTemplate disk name
    Outcome.silent (t.run host context)

/-- Renders a view from its text. -/
def renderString (source : Text) (data : Option Datum) (named : Names Datum) : Outcome Text := do
  let context ← Outcome.silent (contextOf data named)
  let t ← e.fromString disk source none
  Outcome.silent (t.run host context)

end Environment
end ViewEngine
