/-
# Running scripts

The meaning of expressions and statements.  Evaluation follows the structure of the script; only two
things can go on for ever, and both are bounded from outside: the rounds of a loop by a number that
no practical run reaches, and the depth of calls by the recursion limit.  The body of a function is
not a part of the call that runs it, so the evaluator is given a way to run functions and `runBody`
ties the knot.
-/
import ViewEngine.Script.Helper
import ViewEngine.Script.Native

namespace ViewEngine.Script

/-- What an evaluation can see. -/
structure Context where
  /-- The functions of the host. -/
  helpers : List Helper
  /-- The cell of the names of the script itself. -/
  globals : Address
  /-- What names are looked up in that no scope binds, if not among those of the language. -/
  builtins : Option Value := none
  /-- The scopes of functions and comprehensions, innermost first. -/
  scopes : List Scope := []
  /-- What stands in front of the names of functions in complaints. -/
  path : Text := []
  /-- The failure that is being handled. -/
  handled : Option Stop := none
  /-- Runs a function with the values of its parameters. -/
  run : Function → Names Value → Run Value

/-- How a statement ends. -/
inductive Flow where
  /-- The next statement follows. -/
  | next
  /-- The loop is left. -/
  | leave
  /-- The next round of the loop follows. -/
  | round
  /-- The function gives back a value. -/
  | give (value : Value)

/-! ### Names -/

/-- What is said of a name of a scope that has no value yet. -/
def unboundName {α : Type} (here : Bool) (id : Text) : Run α :=
  if here then
    Run.fail .unboundLocal ("cannot access local variable '" ++ id ++
      "' where it is not associated with a value")
  else
    Run.fail .name ("cannot access free variable '" ++ id ++
      "' where it is not associated with a value in enclosing scope")

/-- The value of a name in the scopes, of which the first is the innermost one if `here` holds. -/
def nameInScopes (here : Bool) (id : Text) : List Scope → Run (Option Value)
  | [] => return none
  | s :: rest => do
    if s.names.contains id then
      match (← Run.frameAt s.frame).find? id with
      | some v => return some v
      | none => unboundName here id
    else nameInScopes false id rest

/-- What is said of a name that nothing binds. -/
def undefinedName {α : Type} (id : Text) : Run α :=
  Run.fail .name ("name '" ++ id ++ "' is not defined")

/-- The value of a name that no scope binds: that of the language, or else what another value has
under the name. -/
def standardValue (builtins : Option Value) (id : Text) : Run Value :=
  match builtins with
  | none =>
    match standardName? id with
    | some v => return v
    | none => undefinedName id
  | some (.dict a) => do
    match ← lookUp (.text .common id) (← Run.dictAt a) with
    | some v => return v
    | none => undefinedName id
  | some v => lookAt v (.text .common id)

/-- The value of a name. -/
def Context.valueOf (c : Context) (id : Text) : Run Value := do
  match ← nameInScopes true id c.scopes with
  | some v => return v
  | none =>
    match (← Run.frameAt c.globals).find? id with
    | some v => return v
    | none => standardValue c.builtins id

/-- What the names are looked up in that a function or a comprehension made here does not bind: what
the script has under the name for it, or else what is looked up in here. -/
def Context.builtinsNow (c : Context) : Run (Option Value) := do
  return ((← Run.frameAt c.globals).find? builtinsId).or c.builtins

/-- The cell in which names are bound. -/
def Context.frame (c : Context) : Address :=
  match c.scopes with
  | s :: _ => s.frame
  | [] => c.globals

/-- Binds a name. -/
def Context.bindName (c : Context) (id : Text) (v : Value) : Run Unit := do
  Run.store c.frame (.frame ((← Run.frameAt c.frame).put id v))

/-- Takes the binding of a name away. -/
def Context.unbindName (c : Context) (id : Text) : Run Unit := do
  Run.store c.frame (.frame ((← Run.frameAt c.frame).erase id))

/-- Has the name a value in the first of the scopes that it belongs to? -/
def isBoundIn (id : Text) : List Scope → Run Bool
  | [] => return false
  | s :: rest => do
    if s.names.contains id then return ((← Run.frameAt s.frame).find? id).isSome
    else isBoundIn id rest

/-- The names that are bound in the innermost scope, and those of the scopes around it that it
mentions. -/
def Context.boundNames (c : Context) : Run (List Text) := do
  match c.scopes with
  | [] =>
    let ids := (← Run.frameAt c.globals).ids
    return if ids.contains builtinsId then ids else builtinsId :: ids
  | s :: rest =>
    let mentioned := (outside s.names s.extent.mentions).eraseDups
    return (← Run.frameAt s.frame).ids ++ (← mentioned.filterM fun id => isBoundIn id rest)

/-! ### Calls -/

/-- What the function that adds to the output takes. -/
def outputSignature : Signature := [("value".toList, none)]

/-- The name in complaints of the function that adds to the output. -/
def outputName : Text := "Template.run.<locals>._append"

/-- Adds the text of a value to the output; nothing has no text. -/
def writeValue (v : Value) : Run Unit :=
  match v with
  | .none => return ()
  | _ => do Run.write (← v.plain)

/-- Calls a value. -/
def Context.call (c : Context) (callee : Value) (a : Arguments) : Run Value :=
  match callee with
  | .function cell => do
    match ← Run.cell? cell with
    | some (.function f) => c.run f (← Signature.bind f.id f.parameters a)
    | _ => return .none
  | .native f =>
    callNative (fun g vs => callPlain c.helpers c.run g { plain := vs }) c.boundNames f a
  | _ => callPlain c.helpers c.run callee a
where
  /-- Calls a value that is no function of the language's own. -/
  callPlain (helpers : List Helper) (run : Function → Names Value → Run Value)
      (callee : Value) (a : Arguments) : Run Value :=
    match callee with
    | .function cell => do
      match ← Run.cell? cell with
      | some (.function f) => run f (← Signature.bind f.id f.parameters a)
      | _ => return .none
    | .native f => callNative (fun _ _ => return .none) (return []) f a
    | .kind k => newFault k a
    | .helper id =>
      match findHelper helpers id with
      | some h => h.call a
      | none => return .none
    | .output => do
      let vs ← Signature.bind outputName outputSignature a
      writeValue ((vs.head?.map (·.2)).getD .none)
      return .none
    | .method _ m owner => callMethod m owner a
    | _ => do Run.fail .type ("'" ++ (← callee.typeName) ++ "' object is not callable")

/-- How a value is named when its arguments are no values to spread. -/
def calleeText (callee : Value) : Run Text :=
  match callee with
  | .function cell => do
    match ← Run.cell? cell with
    | some (.function f) => return f.id ++ "()"
    | _ => return []
  | .native f => return f.text ++ "()"
  | .kind k => return k.text ++ "()"
  | .helper id =>
    return if id = "escape".toList then "viewforge.utils.html.html_escape()" else id ++ "()"
  | .output => return "viewforge.template.core." ++ outputName ++ "()"
  | .method _ m owner => do return (← owner.typeName) ++ "." ++ m.text ++ "()"
  | v => v.plain

/-- The elements of a value that is spread into a display or into several arguments. -/
def spreadInside (v : Value) : Run (List Value) := do
  match ← elements? v with
  | some vs => return vs
  | none => Run.fail .type ("Value after * must be an iterable, not " ++ (← v.typeName))

/-- The elements of a value that alone makes up the arguments of a call. -/
def spreadAlone (callee v : Value) : Run (List Value) := do
  match ← elements? v with
  | some vs => return vs
  | none => Run.fail .type ((← calleeText callee) ++
      " argument after * must be an iterable, not " ++ (← v.typeName))

/-- Does one value to spread make up all arguments by place? -/
def isAlone (items : List Item) : Bool :=
  match items.filter fun
    | .keyword .. => false
    | _ => true with
  | [.spread _] => true
  | _ => false

/-! ### Loops -/

/-- The statement that follows a loop: the one behind the loop, unless a statement of its body leads
further out. -/
def whileLoop (condition : Run Bool) (body otherwise : Run Flow) : Nat → Run Flow
  | 0 => throw .endless
  | n + 1 => do
    if ← condition then
      match ← body with
      | .next | .round => whileLoop condition body otherwise n
      | .leave => return .next
      | f => return f
    else otherwise

/-- Runs `body` for each element of an iteration. -/
def forLoop (next : Run (Option Value)) (body : Value → Run Flow) (otherwise : Run Flow) :
    Nat → Run Flow
  | 0 => throw .endless
  | n + 1 => do
    match ← next with
    | some v =>
      match ← body v with
      | .next | .round => forLoop next body otherwise n
      | .leave => return .next
      | f => return f
    | none => otherwise

/-- Collects what `body` gives for each element of an iteration. -/
def collect (next : Run (Option Value)) (body : Value → Run (List Value)) : Nat → Run (List Value)
  | 0 => throw .endless
  | n + 1 => do
    match ← next with
    | some v =>
      let front ← body v
      return front ++ (← collect next body n)
    | none => return []

/-- A bound on the rounds of a loop over a value. -/
def roundsOver (v : Value) : Run Nat := do return stepLimit + ((← length? v).getD 0)

/-! ### Expressions -/

/-- The text of a value in a formatted string; one that fits stays itself. -/
def convert (c : Conversion) (fit : Fit) (v : Value) : Run Value := do
  let w ← match c with
    | .plain => v.asText
    | .quoted => v.asQuoted
    | .ascii => do Run.newText (Text.asciiOnly (← v.quoted))
  let t ← w.plain
  let fitted := fit.apply t
  if fitted = t then return w else Run.pieceOf fitted

/-- The texts of several values, one behind the other; a single one stays itself. -/
def chain (vs : List Value) : Run Value :=
  match vs with
  | [v] => return v
  | _ => do Run.newText (← vs.mapM Value.plain).flatten

/-- The name under which a comprehension keeps its first source. -/
def sourceName : Text := ".0"

/-- How many of the entries of a dictionary display are put in as soon as they have a value: those in
full groups of seventeen, and the others if they are sixteen. -/
def enteredSingly (count : Nat) : Nat := if count % 17 = 16 then count else count - count % 17

mutual

/-- The value of an expression. -/
def eval (c : Context) : Expr → Run Value
  | .constant k => return k.toValue
  | .name line id => Run.located line (c.valueOf id)
  | .formatted ps => do chain (← evalParts c ps)
  | .unary line op a => do
    let v ← eval c a
    Run.located line (operateOn op v)
  | .binary line op a b => do
    let v ← eval c a
    let w ← eval c b
    Run.located line (operate op false v w)
  | .compare line a links => do
    let v ← eval c a
    evalLinks c line v links
  | .negation a => do return .bool !(← isTrue (← eval c a))
  | .conjunction a b => do
    let v ← eval c a
    if ← isTrue v then eval c b else return v
  | .disjunction a b => do
    let v ← eval c a
    if ← isTrue v then return v else eval c b
  | .choice k a b => do
    if ← isTrue (← eval c k) then eval c a else eval c b
  | .tuple line items => do Run.newTuple (← evalItems c line items)
  | .list line items => do Run.newList (← evalItems c line items)
  | .dict line entries => do
    Run.newDict (← evalEntries c line [] [] (enteredSingly entries.length) entries)
  | .comprehension line body clauses => do
    match clauses with
    | .each l t source :: rest =>
      let builtins ← c.builtinsNow
      let v ← eval c source
      let a ← Run.located line (iterate v)
      let frame ← Run.alloc (.frame [(sourceName, .iterator a)])
      let scope : Scope :=
        { frame, names := t.names ++ clauseNames rest, extent := .comprehension body t rest }
      let inner := { c with scopes := scope :: c.scopes, builtins }
      let vs ← collect (Run.located l (next a)) (fun w => do
        assign inner t w
        evalClauses inner line (eval inner body) rest) (← roundsOver v)
      Run.newList vs
    | _ => Run.newList []
  | .field line owner id => do
    let v ← eval c owner
    Run.located line (attributeOf v id)
  | .subscript line owner index => do
    let v ← eval c owner
    let k ← eval c index
    Run.located line (lookAt v k)
  | .slice line owner low high step => do
    let v ← eval c owner
    let a ← eval c low
    let b ← eval c high
    let s ← eval c step
    Run.located line (slice v a b s)
  | .starred _ e => eval c e
  | .call line callee items => do
    let f ← eval c callee
    let alone := isAlone items
    let vs ← evalPlain c line alone items
    let named ← evalNamed c items
    Run.located line do
      let plain ← match alone, vs with
        | true, [v] => spreadAlone f v
        | _, _ => pure vs
      c.call f { plain, named }

/-- The value of a chain of comparisons that begins with a value. -/
def evalLinks (c : Context) (line : Nat) (v : Value) : List Link → Run Value
  | [] => return .bool true
  | .mk op b :: rest => do
    let w ← eval c b
    let r ← Run.located line (compareValues op v w)
    if r && !rest.isEmpty then evalLinks c line w rest else return .bool r

/-- The values of the items of a display. -/
def evalItems (c : Context) (line : Nat) : List Item → Run (List Value)
  | [] => return []
  | .plain e :: rest => do
    let v ← eval c e
    return v :: (← evalItems c line rest)
  | .spread e :: rest => do
    let vs ← Run.located line (spreadInside (← eval c e))
    return vs ++ (← evalItems c line rest)
  | .keyword _ _ e :: rest => do
    let v ← eval c e
    return v :: (← evalItems c line rest)

/-- The values of the parts of a formatted string. -/
def evalParts (c : Context) : List FormatPart → Run (List Value)
  | [] => return []
  | .text t :: ps => do return .text .common t :: (← evalParts c ps)
  | .value line e conversion fit :: ps => do
    let v ← eval c e
    let w ← Run.located line (convert conversion fit v)
    return w :: (← evalParts c ps)

/-- The arguments of a call by place; a value to spread that is alone is not spread yet. -/
def evalPlain (c : Context) (line : Nat) (alone : Bool) : List Item → Run (List Value)
  | [] => return []
  | .plain e :: rest => do
    let v ← eval c e
    return v :: (← evalPlain c line alone rest)
  | .spread e :: rest => do
    let v ← eval c e
    let vs ← if alone then pure [v] else Run.located line (spreadInside v)
    return vs ++ (← evalPlain c line alone rest)
  | .keyword .. :: rest => evalPlain c line alone rest

/-- The arguments of a call by name. -/
def evalNamed (c : Context) : List Item → Run (Names Value)
  | [] => return []
  | .keyword _ id e :: rest => do
    let v ← eval c e
    return (id, v) :: (← evalNamed c rest)
  | .plain _ :: rest => evalNamed c rest
  | .spread _ :: rest => evalNamed c rest

/-- The entries of a dictionary, behind those that are there.  So many of them are put in singly; the
others wait in `later`, last first, and are put in together. -/
def evalEntries (c : Context) (line : Nat) (es later : List (Value × Value)) :
    Nat → List Entry → Run (List (Value × Value))
  | _, [] => Run.located line (insertEntries es later.reverse)
  | 0, .mk key value :: rest => do
    let k ← eval c key
    let v ← eval c value
    evalEntries c line es ((k, v) :: later) 0 rest
  | n + 1, .mk key value :: rest => do
    let k ← eval c key
    let v ← eval c value
    let es ← Run.located line (insertEntry k v es)
    evalEntries c line es later n rest

/-- The values that a comprehension collects behind its first clause. -/
def evalClauses (c : Context) (line : Nat) (body : Run Value) : List Clause → Run (List Value)
  | [] => do return [← body]
  | .test k :: rest => do
    if ← isTrue (← eval c k) then evalClauses c line body rest else return []
  | .each l t source :: rest => do
    let v ← eval c source
    let a ← Run.located line (iterate v)
    collect (Run.located l (next a)) (fun w => do
      assign c t w
      evalClauses c line body rest) (← roundsOver v)

/-- Assigns a value. -/
def assign (c : Context) (t : Target) (v : Value) : Run Unit :=
  match t with
  | .name id => c.bindName id v
  | .items line ts => do
    let vs ← Run.located line (unpack ts.length v)
    assignAll c ts vs
  | .subscript line owner index => do
    let o ← eval c owner
    let k ← eval c index
    Run.located line (setAt o k v)
  | .slice line owner low high step => do
    let o ← eval c owner
    let a ← eval c low
    let b ← eval c high
    let s ← eval c step
    Run.located line (setSlice o a b s v)
  | .field line owner id => do
    let o ← eval c owner
    Run.located line (setAttribute o id v)

/-- Assigns values to targets, one each. -/
def assignAll (c : Context) : List Target → List Value → Run Unit
  | t :: ts, v :: vs => do
    assign c t v
    assignAll c ts vs
  | _, _ => return ()

end

/-- Assigns a value to several targets. -/
def assignEach (c : Context) (v : Value) : List Target → Run Unit
  | [] => return ()
  | t :: ts => do
    assign c t v
    assignEach c v ts

/-- Runs an augmented assignment. -/
def augment (c : Context) (line : Nat) (t : Target) (op : BinaryOp) (e : Expr) : Run Unit := do
  let apply (v : Value) : Run Value := do
    let w ← eval c e
    Run.located line (operate op true v w)
  match t with
  | .name id =>
    let v ← Run.located line (c.valueOf id)
    c.bindName id (← apply v)
  | .subscript l owner index =>
    let o ← eval c owner
    let k ← eval c index
    let v ← Run.located l (lookAt o k)
    let w ← apply v
    Run.located l (setAt o k w)
  | .slice l owner low high step =>
    let o ← eval c owner
    let a ← eval c low
    let b ← eval c high
    let s ← eval c step
    let v ← Run.located l (slice o a b s)
    let w ← apply v
    Run.located l (setSlice o a b s w)
  | .field l owner id =>
    let o ← eval c owner
    let v ← Run.located l (attributeOf o id)
    let w ← apply v
    Run.located l (setAttribute o id w)
  | .items .. => return ()

/-! ### Failures -/

/-- Runs to the end and keeps what stops the run. -/
def attempt {α : Type} (x : Run α) : Run (Except Stop α) :=
  tryCatch (do return .ok (← x)) fun s => return .error s

/-- Goes on with what a run ended with. -/
def resume {α : Type} : Except Stop α → Run α
  | .ok a => return a
  | .error s => throw s

/-- A failure that a script can hold: it lives in a cell, where the line of its first raising is
kept. -/
def keepFault (f : Fault) : Run Fault := do
  match f.cell with
  | some a =>
    match ← Run.cell? a with
    | some (.fault _ i) => Run.store a (.fault f i)
    | _ => pure ()
    return f
  | none =>
    let tuple ← if f.arguments.isEmpty then pure .common else Run.mark
    let a ← Run.alloc (.fault f tuple)
    let f := { f with cell := some a }
    Run.store a (.fault f tuple)
    return f

/-- Raises a value. -/
def raiseValue (line : Nat) (v : Value) : Run Flow :=
  match v with
  | .fault a => do
    let f ← Run.faultAt a
    throw (.fault (← keepFault { f with line := some (f.line.getD line), cell := some a }))
  | .kind k => Run.located line (Run.raise k [])
  | _ => Run.located line (Run.fail .type "exceptions must derive from BaseException")

/-- Raises that something is no kind of failure. -/
def notCatchable {α : Type} : Run α :=
  Run.fail .type "catching classes that do not inherit from BaseException is not allowed"

/-- Refuses what is no kind of failure. -/
def demandKind (v : Value) : Run Unit :=
  match v with
  | .kind _ => return ()
  | .native (.sealed id ..) => if sealedFaults.contains (String.ofList id) then return () else notCatchable
  | _ => notCatchable

/-- Does a value name a kind of failure under which `k` falls? -/
def coversKind (k : FaultKind) (v : Value) : Bool :=
  match v with
  | .kind top => k.isA top
  | .native (.sealed id ..) => id = "BaseException".toList
  | _ => false

/-- Does the value of a handler's expression cover a kind of failure? -/
def covers (k : FaultKind) (v : Value) : Run Bool := do
  let vs := match v with
    | .tuple _ vs => vs
    | _ => [v]
  vs.forM demandKind
  return vs.any (coversKind k)

/-! ### Statements -/

/-- The parameters of a function with the values given in its definition. -/
def evalParameters (c : Context) : List Parameter → Run Signature
  | [] => return []
  | p :: ps => do
    let v ← match p.fallback with
      | some e => do pure (some (← eval c e))
      | none => pure none
    return (p.id, v) :: (← evalParameters c ps)

/-- Defines a function. -/
def define (c : Context) (id : Text) (ps : List Parameter) (body : List Statement) : Run Unit := do
  let parameters ← evalParameters c ps
  let f : Function :=
    { id := c.path ++ id
      parameters
      body
      names := ps.map (·.id) ++ statementNames body
      scopes := c.scopes
      builtins := ← c.builtinsNow }
  c.bindName id (.function (← Run.alloc (.function f)))

mutual

/-- Runs a statement. -/
def exec (c : Context) : Statement → Run Flow
  | .expression e => do
    let _ ← eval c e
    return .next
  | .assign ts e => do
    assignEach c (← eval c e) ts
    return .next
  | .augment line t op e => do
    augment c line t op e
    return .next
  | .pass => return .next
  | .leaveLoop _ => return .leave
  | .nextRound _ => return .round
  | .giveBack _ e => do return .give (← eval c e)
  | .throwing line e => do raiseValue line (← eval c e)
  | .throwAgain line =>
    match c.handled with
    | some s => throw s
    | none => Run.located line (Run.fail .runtime "No active exception to reraise")
  | .branch k yes no => do
    if ← isTrue (← eval c k) then execAll c yes else execAll c no
  | .repeatWhile _ k body otherwise =>
    whileLoop (do isTrue (← eval c k)) (execAll c body) (execAll c otherwise) stepLimit
  | .forEach line t source body otherwise => do
    let v ← eval c source
    let a ← Run.located line (iterate v)
    forLoop (Run.located line (next a)) (fun w => do
      assign c t w
      execAll c body) (execAll c otherwise) (← roundsOver v)
  | .define _ id ps body => do
    define c id ps body
    return .next
  | .attempt _ body handlers otherwise final => do
    let first ← attempt (execAll c body)
    let second ← match first with
      | .ok .next => attempt (execAll c otherwise)
      | .error (.fault f) => attempt (handle c f handlers)
      | r => pure r
    match second with
    | .error .endless => throw .endless
    | r =>
      match ← execAll c final with
      | .next => resume r
      | f => return f

/-- Runs statements one after the other. -/
def execAll (c : Context) : List Statement → Run Flow
  | [] => return .next
  | s :: ss => do
    match ← exec c s with
    | .next => execAll c ss
    | f => return f

/-- Runs the first handler that covers a failure; if there is none, the failure goes on. -/
def handle (c : Context) (f : Fault) : List Handler → Run Flow
  | [] => throw (.fault f)
  | .all _ body :: _ => execAll { c with handled := some (.fault f) } body
  | .only line kinds body :: rest => do
    if ← Run.located line (covers f.kind (← eval c kinds)) then
      execAll { c with handled := some (.fault f) } body
    else handle c f rest
  | .bound line kinds id body :: rest => do
    if ← Run.located line (covers f.kind (← eval c kinds)) then
      let f ← keepFault f
      c.bindName id (match f.cell with
        | some a => .fault a
        | none => .none)
      let r ← attempt (execAll { c with handled := some (.fault f) } body)
      c.unbindName id
      resume r
    else handle c f rest

end

/-- Runs the body of a function, at most so many calls deep. -/
def runBody (helpers : List Helper) (globals : Address) :
    Nat → Function → Names Value → Run Value
  | 0, _, _ => tooDeep []
  | n + 1, f, values => do
    let frame ← Run.alloc (.frame values)
    let c : Context :=
      { helpers, globals
        builtins := f.builtins
        scopes := { frame, names := f.names, extent := .body f.body } :: f.scopes
        path := f.id ++ ".<locals>."
        run := runBody helpers globals n }
    match ← execAll c f.body with
    | .give v => return v
    | _ => return .none

/-- Runs a script with the given names bound. -/
def runScript (helpers : List Helper) (s : Program) (names : Names Value) : Run Unit := do
  let globals ← Run.alloc (.frame names)
  let c : Context :=
    { helpers, globals
      builtins := names.find? builtinsId
      run := runBody helpers globals recursionLimit }
  let _ ← execAll c s

end ViewEngine.Script
