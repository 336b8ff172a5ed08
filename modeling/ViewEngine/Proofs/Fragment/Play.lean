/-
# Playing a page

What a page does with some data, told directly: its tags act one after the other, from left to right,
and loops go over their bodies as often as there are elements.  No code occurs in it, only the
operations of the language on values: the value of a name, the next element, the text of a value.
The first failure ends the play, and it remembers the tag at which it happened by the text in front of
that tag.

* `Page.play`: what the tags of a page do;
* `Page.outcome`: how a page ends with the data of a host.
-/
import Mathlib.Tactic.Common
import Mathlib.Tactic.Lemma
import ViewEngine.Engine.Template
import ViewEngine.Proofs.Fragment.Page

namespace ViewEngine.Fragment

open Script (Context Fault Memory Run Stop Value findHelper recursionLimit)

/-! ## Plays -/

/-- Why a play ends before the page does. -/
inductive Break where
  /-- A tag fails that has the text `front` in front of it. -/
  | fault (front : Text) (fault : Fault)
  /-- What happens is not told here: something other than a helper is called, or a loop goes on for
  longer than any practical one. -/
  | beyond

/-- What stops the action of a tag, with the text in front of the tag. -/
def Break.of (front : Text) : Stop → Break
  | .fault f => .fault front f
  | .endless => .beyond

/-- A play on the memory of a run. -/
abbrev Play := ExceptT Break (StateM Memory)

namespace Play

/-- The action of a tag that has the text `front` in front of it. -/
def act {α : Type} (front : Text) (x : Run α) : Play α := ExceptT.adapt (Break.of front) x

/-- Plays one of two blocks, depending on whether a value counts as true. -/
def choose (front : Text) (v : Value) (yes no : Play Unit) : Play Unit := do
  if ← act front (Script.isTrue v) then yes else no

/-- Plays the body of a loop for each element, so many times at most. -/
def rounds (next : Play (Option Value)) (body : Value → Play Unit) : Nat → Play Unit
  | 0 => throw .beyond
  | n + 1 => do
    match ← next with
    | some v =>
      body v
      rounds next body n
    | none => return ()

end Play

/-! ## Values -/

/-- What comes of calling a value with one argument: what a helper does, or that there is nothing to
call.  Functions of the language itself are not told of. -/
def applied (c : Context) (callee v : Value) : Option (Run Value) :=
  match callee with
  | .helper id => (findHelper c.helpers id).map fun h => h.call { plain := [v] }
  | .function _ | .native _ | .kind _ | .output | .method .. => none
  | _ => some do Run.fail .type ("'" ++ (← callee.typeName) ++ "' object is not callable")

/-- The value that a tag shows. -/
def Operand.value (c : Context) (front : Text) : Operand → Play Value
  | name x => .act front (c.valueOf x.id)
  | call f x => do
    let callee ← Play.act front (c.valueOf f.id)
    let v ← Play.act front (c.valueOf x.id)
    match applied c callee v with
    | some run => .act front run
    | none => throw .beyond

/-- What a tag shows: the value as it is, or the text of it, escaped. -/
def Operand.shown (c : Context) (front : Text) (escaped : Bool) (e : Operand) : Play Value :=
  if escaped then do .act front (Helper.escapeValue (← e.value c front)) else e.value c front

/-- Shows a text, if there is any. -/
def showText (t : Text) : Run Unit := if t.isEmpty then return () else Run.write t

/-! ## Pages -/

namespace Page

/-- What the page does behind a text; `trim` says whether a line break at its front is trimmed. -/
def play (c : Context) (front : Text) (trim : Bool) : Page → Play Unit
  | done => return ()
  | text t rest => do
    Play.act front (showText (trimmed trim t.text))
    rest.play c (front ++ t.text) false
  | shown b e z rest => do
    let v ← e.shown c front b
    Play.act front (Script.writeValue v)
    rest.play c (front ++ shownTag b e z) z.trims
  | comment k rest => rest.play c (front ++ k.tag) k.closer.trims
  | each x xs z body z' rest => do
    let inside := front ++ codeTag (eachHeader x xs) z
    let v ← Play.act front (c.valueOf xs.id)
    let a ← Play.act front (Script.iterate v)
    let count ← Play.act front (Script.roundsOver v)
    Play.rounds (.act front (Script.next a)) (fun w => do
      Play.act front (c.bindName x.id w)
      body.play c inside z.trims) count
    rest.play c (inside ++ (body.source ++ codeTag endWord z')) z'.trims
  | branch k z yes z' rest => do
    let inside := front ++ codeTag (branchHeader k) z
    let v ← Play.act front (c.valueOf k.id)
    Play.choose front v (yes.play c inside z.trims) (return ())
    rest.play c (inside ++ (yes.source ++ codeTag endWord z')) z'.trims
  | choice k z yes z' no z'' rest => do
    let inside := front ++ codeTag (branchHeader k) z
    let inside' := inside ++ yes.source ++ codeTag elseHeader z'
    let v ← Play.act front (c.valueOf k.id)
    Play.choose front v (yes.play c inside z.trims) (no.play c inside' z'.trims)
    rest.play c (inside' ++ (no.source ++ codeTag endWord z'')) z''.trims

/-- What a page sees with these names, which lie in a cell. -/
def context (host : Host) (names : Names Value) (globals : Script.Address) : Context where
  helpers := host.helpers
  globals
  builtins := names.find? Script.builtinsId
  run := Script.runBody host.helpers globals recursionLimit

/-- How the page ends with registered helpers and the data of a host, and the memory that it
leaves. -/
def outcome (host : Host) (helpers data : Names Script.Datum) (p : Page) :
    Except Break Unit × Memory :=
  match (Template.loadBindings (bindings helpers data)).run.run { coloured := host.coloured } with
  | (.ok names, m) =>
    (p.play (context host names m.cells.size) [] false).run.run
      { m with cells := m.cells.push (.frame names) }
  | (.error _, m) => (.error .beyond, m)

end Page

end ViewEngine.Fragment
