/-
# Arguments of calls

A call passes values by place and by name.  `bind` gives each parameter of a function its value, or
says what is wrong with the call: a name that no parameter has, a parameter with two values, too
many values, or a parameter without any — in this order.
-/
import ViewEngine.Script.Sequence

namespace ViewEngine.Script

/-- The arguments of a call. -/
structure Arguments where
  /-- Those passed by place. -/
  plain : List Value := []
  /-- Those passed by name. -/
  named : Names Value := []

/-- What a function is declared to take: the name of each parameter, and its value if a call gives
none. -/
abbrev Signature := List (Text × Option Value)

namespace Signature

/-- The values of the parameters so far. -/
abbrev Filled := List (Text × Option Value)

/-- Gives the parameters the values passed by place. -/
def place : Signature → List Value → Filled
  | [], _ => []
  | p :: ps, v :: vs => (p.1, some v) :: place ps vs
  | p :: ps, [] => (p.1, none) :: place ps []

/-- What is wrong about a name. -/
inductive NameFault where
  /-- No parameter has the name. -/
  | unknown
  /-- The parameter has a value already. -/
  | twice

/-- Gives the parameter of a name its value. -/
def assign (id : Text) (v : Value) : Filled → Except NameFault Filled
  | [] => .error .unknown
  | p :: ps =>
    if p.1 = id then
      match p.2 with
      | none => .ok ((id, some v) :: ps)
      | some _ => .error .twice
    else (assign id v ps).map (p :: ·)

/-- Gives the parameters the values passed by name. -/
def assignAll (function : Text) : Names Value → Filled → Run Filled
  | [], f => return f
  | (id, v) :: rest, f =>
    match assign id v f with
    | .ok f => assignAll function rest f
    | .error .unknown =>
      Run.fail .type (function ++ "() got an unexpected keyword argument '" ++ id ++ "'")
    | .error .twice =>
      Run.fail .type (function ++ "() got multiple values for argument '" ++ id ++ "'")

/-- The parameters that need a value. -/
def required (s : Signature) : Nat := s.countP fun p => p.2.isNone

/-- What is said of a call with too many values. -/
def tooManyMessage (function : Text) (s : Signature) (given : Nat) : Text :=
  let most := s.length
  let least := s.required
  let range : Text :=
    if least = most then Text.ofNat most
    else "from " ++ Text.ofNat least ++ " to " ++ Text.ofNat most
  let noun : Text :=
    if least = most ∧ most = 1 then " positional argument but " else " positional arguments but "
  function ++ "() takes " ++ range ++ noun ++ Text.ofNat given ++
    (if given = 1 then " was given" else " were given")

/-- Names in quotes, in a row. -/
def enumerated (names : List Text) : Text :=
  let quoted := names.map fun n => '\'' :: n ++ ['\'']
  match quoted with
  | [] => []
  | [a] => a
  | [a, b] => a ++ " and " ++ b
  | _ => Text.joinWith ", " quoted.dropLast ++ ", and " ++ (quoted.getLast?.getD [])

/-- What is said of a call that gives some parameters no value. -/
def missingMessage (function : Text) (names : List Text) : Text :=
  function ++ "() missing " ++ Text.ofNat names.length ++ " required positional argument" ++
    (if names.length = 1 then ": " else "s: ") ++ enumerated names

/-- The parameters that have no value although they need one. -/
def missing : Signature → Filled → List Text
  | (id, none) :: ps, (_, none) :: fs => id :: missing ps fs
  | _ :: ps, _ :: fs => missing ps fs
  | _, _ => []

/-- The values of the parameters, with those that the function provides. -/
def complete : Signature → Filled → Names Value
  | (id, fallback) :: ps, (_, v) :: fs =>
    match v.orElse fun _ => fallback with
    | some v => (id, v) :: complete ps fs
    | none => complete ps fs
  | _, _ => []

/-- Gives each parameter its value. -/
def bind (function : Text) (s : Signature) (a : Arguments) : Run (Names Value) := do
  let filled ← assignAll function a.named (s.place a.plain)
  if s.length < a.plain.length then
    Run.fail .type (tooManyMessage function s a.plain.length)
  else
    let missing := missing s filled
    if missing.isEmpty then return complete s filled
    else Run.fail .type (missingMessage function missing)

end Signature

/-! ### Functions of the language -/

/-- Refuses arguments by name. -/
def demandNoNames (function : Text) (a : Arguments) : Run Unit :=
  if a.named.isEmpty then return ()
  else Run.fail .type (function ++ "() takes no keyword arguments")

/-- The single argument of a function that takes exactly one. -/
def onlyArgument (function : Text) (a : Arguments) : Run Value := do
  demandNoNames function a
  match a.plain with
  | [v] => return v
  | vs => Run.fail .type (function ++ "() takes exactly one argument (" ++ Text.ofNat vs.length ++
      " given)")

/-- Refuses all arguments. -/
def demandNone (function : Text) (a : Arguments) : Run Unit := do
  demandNoNames function a
  if a.plain.isEmpty then return ()
  else Run.fail .type (function ++ "() takes no arguments (" ++ Text.ofNat a.plain.length ++
    " given)")

/-- A number of arguments as it is said in a complaint. -/
def countText (n : Nat) : Text :=
  Text.ofNat n ++ (if n = 1 then " argument" else " arguments")

/-- Demands at least and at most so many arguments by place. -/
def demandBetween (function : Text) (least most : Nat) (vs : List Value) : Run Unit :=
  let bound : Text :=
    if least = most then [] else if vs.length < least then "at least " else "at most "
  let wanted := if vs.length < least then least else most
  if least ≤ vs.length ∧ vs.length ≤ most then return ()
  else Run.fail .type (function ++ " expected " ++ bound ++ countText wanted ++ ", got " ++
    Text.ofNat vs.length)

/-- What a function of the language takes if its parameters have names: some are passed by place
only, some either way, and some by name only. -/
structure Form where
  /-- Its name in complaints. -/
  function : Text
  /-- How many parameters are passed by place only. -/
  nameless : Nat := 0
  /-- The names of the others. -/
  names : List Text
  /-- How many parameters may be passed by place. -/
  places : Nat
  /-- How many parameters need an argument. -/
  required : Nat := 0

namespace Form

/-- What is said of a wrong number of arguments. -/
def countComplaint {α : Type} (f : Form) (bound : Text) (n : Nat) (noun : Text) (given : Nat) :
    Run α :=
  Run.fail .type (f.function ++ "() takes " ++ bound ++ Text.ofNat n ++ noun ++
    (if n = 1 then " (" else "s (") ++ Text.ofNat given ++ " given)")

/-- Refuses wrong numbers of arguments. -/
def demandCount (f : Form) (a : Arguments) : Run Unit :=
  let all := f.nameless + f.names.length
  let placed := a.plain.length
  let given := placed + a.named.length
  let least := min f.nameless f.required
  if all < given then
    f.countComplaint (if f.required < all then "at most " else "exactly ") all
      (if placed = 0 then " keyword argument" else " argument") given
  else if f.places < placed then
    if f.places = 0 then Run.fail .type (f.function ++ "() takes no positional arguments")
    else f.countComplaint (if f.required < f.places then "at most " else "exactly ") f.places
      " positional argument" placed
  else if placed < least then
    f.countComplaint (if least < f.places then "at least " else "exactly ") least
      " positional argument" placed
  else return ()

/-- The arguments of the parameters that come behind `place` others, taken by name. -/
def byName (f : Form) (a : Arguments) (place : Nat) : List Text → Run (List (Option Value))
  | [] => return []
  | id :: rest =>
    match a.named.find? id with
    | none =>
      if place < f.required then
        Run.fail .type (f.function ++ "() missing required argument '" ++ id ++ "' (pos " ++
          Text.ofNat (place + 1) ++ ")")
      else do return none :: (← byName f a (place + 1) rest)
    | v => do return v :: (← byName f a (place + 1) rest)

/-- Refuses names that are not those of parameters, or of parameters that have an argument by
place. -/
def demandNames (f : Form) (a : Arguments) : Run Unit :=
  let placed := f.names.take (a.plain.length - f.nameless)
  match placed.find? fun id => (a.named.find? id).isSome with
  | some id =>
    Run.fail .type ("argument for " ++ f.function ++ "() given by name ('" ++ id ++
      "') and position (" ++ Text.ofNat (f.nameless + placed.idxOf id + 1) ++ ")")
  | none =>
    match a.named.ids.find? fun id => !f.names.contains id with
    | some id =>
      Run.fail .type ("'" ++ id ++ "' is an invalid keyword argument for " ++ f.function ++ "()")
    | none => return ()

/-- Each parameter with its argument, if it has one. -/
def arrange (f : Form) (a : Arguments) : Run (List (Option Value)) := do
  f.demandCount a
  let n := a.plain.length
  let rest ← f.byName a (max n f.nameless) (f.names.drop (n - f.nameless))
  f.demandNames a
  return a.plain.map some ++ List.replicate (f.nameless - n) none ++ rest

end Form

/-- The name of the type of an argument of the wrong type. -/
def wrongType (v : Value) : Run Text :=
  match v with
  | .none => return "None"
  | _ => v.typeName

/-- An argument that has to be a text. -/
def textArgument (function which : Text) (v : Value) : Run Text :=
  match v with
  | .text _ t => return t
  | _ => do
    Run.fail .type (function ++ "() argument " ++ which ++ " must be str, not " ++ (← wrongType v))

/-- A value that counts something. -/
def countArgument (v : Value) : Run Int :=
  match v.whole? with
  | some n => return n
  | none => do
    Run.fail .type ("'" ++ (← v.typeName) ++ "' object cannot be interpreted as an integer")

/-- A number that fits the sizes of the machine. -/
def sizeArgument (v : Value) : Run Int := do
  let n ← countArgument v
  if -placeLimit ≤ n ∧ n < placeLimit then return n
  else sizeOverflow

end ViewEngine.Script
