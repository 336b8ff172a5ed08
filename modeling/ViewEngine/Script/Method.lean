/-
# Methods

The methods of texts, lists and dictionaries.
-/
import ViewEngine.Script.Arguments
import ViewEngine.Script.Operation
import ViewEngine.Text.Blank
import ViewEngine.Text.Letters

namespace ViewEngine.Script

/-! ### Cutting and replacing -/

/-- The words of a text, at most `limit` cuts being made; blanks separate them.  What follows the
last cut keeps its blanks at the end. -/
def words : Nat → Option Nat → Text → List Text
  | 0, _, _ => []
  | n + 1, limit, t =>
    let t := Text.stripLeft t
    if t.isEmpty then []
    else
      match limit with
      | some 0 => [t]
      | _ =>
        let w := t.takeWhile fun c => !Text.isBlank c
        w :: words n (limit.map (· - 1)) (t.drop w.length)

/-- The text before and behind the first occurrence of `sep`. -/
def cutAt (sep : Text) : Text → Option (Text × Text)
  | [] => none
  | c :: cs =>
    match Text.after? sep (c :: cs) with
    | some r => some ([], r)
    | none => (cutAt sep cs).map fun p => (c :: p.1, p.2)

/-- The pieces of a text between occurrences of `sep`, at most `limit` cuts being made. -/
def pieces (sep : Text) : Nat → Option Nat → Text → List Text
  | 0, _, t => [t]
  | n + 1, limit, t =>
    match limit with
    | some 0 => [t]
    | _ =>
      match cutAt sep t with
      | some (a, r) => a :: pieces sep n (limit.map (· - 1)) r
      | none => [t]

/-- The text with `new` in front of each character and at the end, at most `limit` times. -/
def interleave (new : Text) : Option Nat → Text → Text
  | some 0, t => t
  | _, [] => new
  | limit, c :: cs => new ++ c :: interleave new (limit.map (· - 1)) cs

/-- The text with occurrences of `old` replaced, at most `limit` of them. -/
def replaceText (old new : Text) (limit : Option Nat) (t : Text) : Text :=
  if old.isEmpty then interleave new limit t
  else Text.joinWith new (pieces old (t.length + 1) limit t)

/-- The text without the characters of `set` at its ends. -/
def stripSet (set t : Text) : Text :=
  ((t.dropWhile set.contains).reverse.dropWhile set.contains).reverse

/-! ### Arguments -/

/-- A number of cuts or replacements; a negative one means any number. -/
def limitOf (v : Value) : Run (Option Nat) := do
  let n ← sizeArgument v
  return if n < 0 then none else some n.toNat

/-- The texts of a list of values that is to be joined. -/
def textsFrom (i : Nat) : List Value → Run (List Text)
  | [] => return []
  | .text _ t :: vs => do return t :: (← textsFrom (i + 1) vs)
  | v :: _ => do
    Run.fail .type ("sequence item " ++ Text.ofNat i ++ ": expected str instance, " ++
      (← v.typeName) ++ " found")

/-- Part of a text between two places. -/
structure Window where
  /-- The text. -/
  text : Text
  /-- The place where the part begins. -/
  low : Int
  /-- The place where it ends. -/
  high : Int

namespace Window

/-- Part of a text between two bounds that may be absent. -/
def make (t : Text) (low high : Value) : Run Window := do
  let low := (← sliceBound low).getD 0
  let high := (← sliceBound high).getD t.length
  let fromEnd (i : Int) : Int := if i < 0 then max 0 (i + t.length) else i
  return { text := t, low := fromEnd low, high := min t.length (fromEnd high) }

/-- Does the part begin with a text?  A part that ends before it begins does not, whatever the
text. -/
def startsWith (w : Window) (p : Text) : Bool :=
  w.low + p.length ≤ w.high && Text.startsWith p (w.text.drop w.low.toNat)

/-- Does the part begin with one of some values? -/
def startsWithAny (w : Window) : List Value → Run Bool
  | [] => return false
  | .text _ p :: vs => if w.startsWith p then return true else startsWithAny w vs
  | v :: _ => do
    Run.fail .type ("tuple for startswith must only contain str, not " ++ (← v.typeName))

end Window

/-! ### Methods of texts -/

/-- What `split` takes. -/
def splitForm : Form := { function := "split", names := ["sep", "maxsplit"], places := 2 }

/-- The pieces of a cut text as values; a text that is not cut stays itself. -/
def piecesOf (owner : Value) (t : Text) (limit : Option Nat) (ps : List Text) : Run Value := do
  match ps with
  | [p] => Run.newList [← if p = t ∧ limit ≠ some 0 then pure owner else Run.pieceOf p]
  | _ => Run.newList (← ps.mapM Run.pieceOf)

/-- `split` -/
def splitText (owner : Value) (t : Text) (a : Arguments) : Run Value := do
  let vs ← splitForm.arrange a
  let limit ← match vs with
    | [_, some v] => limitOf v
    | _ => pure none
  match (vs.head?.join).getD .none with
  | .none => piecesOf owner t limit (words (t.length + 1) limit t)
  | .text _ sep =>
    if sep.isEmpty then Run.fail .value "empty separator"
    else piecesOf owner t none (pieces sep (t.length + 1) limit t)
  | v => do Run.fail .type ("must be str or None, not " ++ (← v.typeName))

/-- `join` -/
def joinText (sep : Text) (a : Arguments) : Run Value := do
  let v ← onlyArgument "str.join" a
  match ← elements? v with
  | some [.text i t] => return .text i t
  | some vs => do Run.newText (Text.joinWith sep (← textsFrom 0 vs))
  | none => Run.fail .type "can only join an iterable"

/-- `replace` -/
def replaceIn (owner : Value) (t : Text) (a : Arguments) : Run Value := do
  demandNoNames "str.replace" a
  demandBetween "replace" 2 3 a.plain
  match a.plain with
  | v :: w :: rest =>
    let old ← textArgument "replace" "1" v
    let new ← textArgument "replace" "2" w
    let limit ← match rest with
      | v :: _ => limitOf v
      | [] => pure none
    if limit = some 0 || v.isSame w || !Text.occurs old t then return owner
    else Run.newText (replaceText old new limit t)
  | _ => return owner

/-- `startswith` -/
def beginsWith (t : Text) (a : Arguments) : Run Value := do
  demandNoNames "str.startswith" a
  if a.plain.isEmpty then
    Run.fail .type "startswith() takes at least 1 argument (0 given)"
  else if 3 < a.plain.length then
    Run.fail .type ("startswith() takes at most 3 arguments (" ++ Text.ofNat a.plain.length ++
      " given)")
  else
    let w ← Window.make t (a.plain[1]?.getD .none) (a.plain[2]?.getD .none)
    match a.plain.head? with
    | some (.text _ p) => return .bool (w.startsWith p)
    | some (.tuple _ vs) => return .bool (← w.startsWithAny vs)
    | some v => do
      Run.fail .type ("startswith first arg must be str or a tuple of str, not " ++ (← v.typeName))
    | none => return .bool false

/-- `strip` -/
def stripText (owner : Value) (t : Text) (a : Arguments) : Run Value := do
  demandNoNames "str.strip" a
  demandBetween "strip" 0 1 a.plain
  let stripped ← match a.plain.head? with
    | none | some .none => pure (Text.strip t)
    | some (.text _ set) => pure (stripSet set t)
    | some _ => Run.fail .type "strip arg must be None or str"
  if stripped = t then return owner else Run.pieceOf stripped

/-- A method of a text. -/
def textMethod (m : Method) (owner : Value) (t : Text) (a : Arguments) : Run Value :=
  match m with
  | .upper => do
    demandNone "str.upper" a
    Run.newText (Text.upper t)
  | .lower => do
    demandNone "str.lower" a
    Run.newText (Text.lower t)
  | .strip => stripText owner t a
  | .split => splitText owner t a
  | .join => joinText t a
  | .replace => replaceIn owner t a
  | _ => beginsWith t a

/-! ### Methods of lists and dictionaries -/

/-- `append` -/
def appendTo (cell : Address) (a : Arguments) : Run Value := do
  let v ← onlyArgument "list.append" a
  Run.store cell (.list ((← Run.listAt cell) ++ [v]))
  return .none

/-- `get` -/
def getFrom (cell : Address) (a : Arguments) : Run Value := do
  demandNoNames "dict.get" a
  demandBetween "get" 1 2 a.plain
  match a.plain with
  | key :: rest => return ((← lookUp key (← Run.dictAt cell)).getD (rest.headD .none))
  | [] => return .none

/-- A method of a dictionary. -/
def dictMethod (m : Method) (cell : Address) (a : Arguments) : Run Value :=
  match m with
  | .items => do
    demandNone "dict.items" a
    return .dictView (← Run.mark) .items cell
  | .keys => do
    demandNone "dict.keys" a
    return .dictView (← Run.mark) .keys cell
  | .values => do
    demandNone "dict.values" a
    return .dictView (← Run.mark) .values cell
  | _ => getFrom cell a

/-- Calls a method of a value. -/
def callMethod (m : Method) (owner : Value) (a : Arguments) : Run Value :=
  match owner with
  | .text _ t => textMethod m owner t a
  | .list c => appendTo c a
  | .dict c => dictMethod m c a
  | _ => return .none

/-- The methods that a value has. -/
def methodsOf : Value → List Method
  | .text .. => [.upper, .lower, .strip, .split, .join, .replace, .startswith]
  | .list _ => [.append]
  | .dict _ => [.items, .keys, .values, .get]
  | _ => []

/-! ### Attributes -/

/-- What is said of a value without an attribute. -/
def missingAttribute {α : Type} (v : Value) (id : Text) : Run α := do
  let owner ← match v with
    | .kind k => pure ("type object '" ++ k.text ++ "'" : Text)
    | .native f =>
      let kind ← v.typeName
      if kind = "type".toList then pure ("type object '" ++ f.text ++ "'" : Text)
      else pure ("'" ++ kind ++ "' object" : Text)
    | _ => do pure ("'" ++ (← v.typeName) ++ "' object" : Text)
  Run.fail .noAttribute (owner ++ " has no attribute '" ++ id ++ "'")

/-- The value of an attribute. -/
def attributeOf (v : Value) (id : Text) : Run Value := do
  match v with
  | .object a =>
    match (← Run.thingAt a).attributes.find? id with
    | some w => return w
    | none => missingAttribute v id
  | .fault a =>
    if id = "args".toList then
      match ← Run.cell? a with
      | some (.fault f i) => return .tuple i f.arguments
      | _ => return .tuple .common []
    else missingAttribute v id
  | _ =>
    match (methodsOf v).find? fun m => m.text = id with
    | some m => return .method (← Run.mark) m v
    | none => missingAttribute v id

/-- Sets an attribute. -/
def setAttribute (owner : Value) (id : Text) (v : Value) : Run Unit := do
  match owner with
  | .object a =>
    let t ← Run.thingAt a
    Run.store a (.object { t with attributes := t.attributes.put id v })
  | _ => missingAttribute owner id

end ViewEngine.Script
