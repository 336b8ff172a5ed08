/-
# Texts of values

A value has two texts.  Its *quoted* text is the one it has inside a list: texts are quoted there.
Its *plain* text is the one it is shown by itself.  A list that contains itself shows as `[...]` at
the inner place, and likewise for tuples and dictionaries.
-/
import ViewEngine.Script.Number
import ViewEngine.Text.Quoted

namespace ViewEngine.Script

/-- The deepest nesting of values and of calls. -/
def recursionLimit : Nat := 1000

/-- What happens when values or calls lie too deep inside each other. -/
def tooDeep {α : Type} (activity : Text) : Run α :=
  Run.fail .recursion ("maximum recursion depth exceeded" ++ activity)

/-- The word for a function that every script can name. -/
def Native.text : Native → Text
  | len => "len"
  | str => "str"
  | int => "int"
  | bool => "bool"
  | list => "list"
  | range => "range"
  | enumerate => "enumerate"
  | zip => "zip"
  | sorted => "sorted"
  | sum => "sum"
  | min => "min"
  | max => "max"
  | any => "any"
  | all => "all"
  | abs => "abs"
  | repr => "repr"
  | dir => "dir"
  | sealed id .. => id

/-- The functions and classes that are more than their text. -/
def Native.working : List Native :=
  [.len, .str, .int, .bool, .list, .range, .enumerate, .zip, .sorted, .sum, .min, .max, .any, .all,
   .abs, .repr, .dir]

/-- How a function that every script can name is shown. -/
def Native.shown : Native → Text
  | sealed _ _ shown => shown
  | str => "<class 'str'>"
  | int => "<class 'int'>"
  | bool => "<class 'bool'>"
  | list => "<class 'list'>"
  | range => "<class 'range'>"
  | enumerate => "<class 'enumerate'>"
  | zip => "<class 'zip'>"
  | f => "<built-in function " ++ f.text ++ ">"

/-- The word for a method. -/
def Method.text : Method → Text
  | upper => "upper"
  | lower => "lower"
  | strip => "strip"
  | split => "split"
  | join => "join"
  | replace => "replace"
  | startswith => "startswith"
  | append => "append"
  | items => "items"
  | keys => "keys"
  | values => "values"
  | get => "get"

/-- The word for a part of a dictionary. -/
def DictPart.text : DictPart → Text
  | items => "dict_items"
  | keys => "dict_keys"
  | values => "dict_values"

/-- What a part of a dictionary shows of an entry. -/
def DictPart.of : DictPart → Value × Value → Run Value
  | items, e => Run.newTuple [e.1, e.2]
  | keys, e => return e.1
  | values, e => return e.2

/-- Texts between brackets, with commas. -/
def bracketed (opening closing : Text) (ts : List Text) : Text :=
  opening ++ Text.joinWith ", " ts ++ closing

/-- A tuple of texts; a comma follows a single one. -/
def tupleText (ts : List Text) : Text :=
  match ts with
  | [t] => '(' :: t ++ [',', ')']
  | _ => bracketed ['('] [')'] ts

/-- The text of a truth value. -/
def boolText (b : Bool) : Text := if b then "True" else "False"

/-- The text of a range. -/
def rangeText (start stop step : Int) : Run Text := do
  let first ← Number.intText start
  let second ← Number.intText stop
  let part : Text ← if step = 1 then pure [] else do return ", " ++ (← Number.intText step)
  return "range(" ++ first ++ ", " ++ second ++ part ++ ")"

/-- The text of a thing. -/
def Thing.text (t : Thing) : Run Text :=
  match t.shown with
  | .ok s => return s
  | .error m => Run.fail .value m

/-- The text of an error of the engine. -/
def errorText (e : ViewError) : Run Text := do return e.message (← get).coloured

/-- What stands for a value that lies inside itself. -/
def innerText : Value → Text
  | .list _ => "[...]"
  | .dict _ => "\x7b...\x7d"
  | .tuple .. => "(...)"
  | _ => "..."

/-- The quoted text of a value; `room` bounds the nesting, and the values of `active` lie around the
value. -/
def quotedWithin (room : Nat) (active : List Value) (v : Value) : Run Text :=
  match room with
  | 0 => tooDeep " while getting the repr of an object"
  | n + 1 =>
    let inside (w : Value) : Run Text := quotedWithin n (v :: active) w
    let once (x : Run Text) : Run Text :=
      if active.any v.isSame then return innerText v else x
    match v with
    | .none => return "None"
    | .bool b => return boolText b
    | .int _ i => Number.intText i
    | .float _ x => return Decimal.text x
    | .text _ t => return Text.quoted t
    | .tuple _ vs => once do return tupleText (← vs.mapM inside)
    | .range _ a b s => rangeText a b s
    | .list a => once do return bracketed ['['] [']'] (← (← Run.listAt a).mapM inside)
    | .dict a => once do
      let ts ← (← Run.dictAt a).mapM fun e => do
        let k ← inside e.1
        let v ← inside e.2
        return k ++ ": " ++ v
      return bracketed ['{'] ['}'] ts
    | .object a => do
      match (← Run.thingAt a).shown with
      | .ok t => return t
      | .error _ => return "<" ++ (← Run.thingAt a).kind ++ ">"
    | .function a => do
      match ← Run.cell? a with
      | some (.function f) => return "<function " ++ f.id ++ ">"
      | _ => return []
    | .iterator _ => do return "<" ++ (← v.typeName) ++ " object>"
    | .dictView _ p a => once do
      let ts ← (← Run.dictAt a).mapM fun e => do inside (← p.of e)
      return p.text ++ bracketed "([" "])" ts
    | .native f => return f.shown
    | .kind k => return "<class '" ++ k.text ++ "'>"
    | .fault a => do
      let f ← Run.faultAt a
      match f.kind with
      | .engine e => return f.kind.text ++ "(" ++ Text.quoted (← errorText e) ++ ")"
      | _ =>
        let ts ← f.arguments.mapM inside
        return f.kind.text ++ bracketed ['('] [')'] ts
    | .helper id => return "<function " ++ id ++ ">"
    | .output => return "<function Template.run.<locals>._append>"
    | .method _ m _ => return "<built-in method " ++ m.text ++ ">"

/-- The quoted text of a value. -/
def Value.quoted (v : Value) : Run Text := quotedWithin recursionLimit [] v

/-- The text of a failure; `plain` gives the text of a single argument. -/
def Fault.text (f : Fault) (plain : Value → Run Text) : Run Text :=
  match f.kind, f.arguments with
  | .engine e, _ => errorText e
  | .key, [k] => k.quoted
  | _, [] => return []
  | _, [v] => plain v
  | _, vs => return tupleText (← vs.mapM Value.quoted)

/-- The plain text of a value; `room` bounds the nesting of failures in failures. -/
def plainWithin (room : Nat) (v : Value) : Run Text :=
  match room with
  | 0 => tooDeep []
  | n + 1 =>
    match v with
    | .text _ t => return t
    | .object a => do (← Run.thingAt a).text
    | .fault a => do (← Run.faultAt a).text (plainWithin n)
    | _ => v.quoted

/-- The plain text of a value. -/
def Value.plain (v : Value) : Run Text := plainWithin recursionLimit v

/-- The plain text of a value as a value; a text is its own, and those of truth values are shared. -/
def Value.asText (v : Value) : Run Value :=
  match v with
  | .text .. => return v
  | .bool b => return .text .drawn (boolText b)
  | _ => do Run.newText (← v.plain)

/-- The quoted text of a value as a value; those of truth values are shared. -/
def Value.asQuoted (v : Value) : Run Value :=
  match v with
  | .bool _ => v.asText
  | _ => do Run.newText (← v.quoted)

end ViewEngine.Script
