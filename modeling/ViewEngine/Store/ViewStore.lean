/-
# Stores of views

A store turns the name of a view into its text.  Views may be held in memory, lie in folders on
disk, or come from a function; several stores can be tried one after the other, and a store can be
watched without being able to list its views.
-/
import ViewEngine.Layout.Resolve
import ViewEngine.Store.Disk
import ViewEngine.Store.Encoding
import ViewEngine.Store.Pattern
import ViewEngine.Text.Similar

namespace ViewEngine

/-- Folders in which views lie as files. -/
structure FolderStore where
  /-- The folders, searched in this order. -/
  roots : List Path
  /-- What the file name has behind the view's name. -/
  extension : Text := ".ejs".toList
  /-- The name of the encoding of the files. -/
  encoding : Text := "utf-8".toList
deriving DecidableEq, Repr

/-- A text with the file it comes from, if it comes from one. -/
structure Loaded where
  /-- The text. -/
  text : Text
  /-- The file. -/
  file : Option Text := none
deriving DecidableEq, Repr

/-- A store of views. -/
inductive ViewStore where
  /-- Views held in memory. -/
  | memory (views : List (Text × Text))
  /-- Views in folders. -/
  | folders (store : FolderStore)
  /-- The first of several stores that has the view. -/
  | choice (stores : List ViewStore)
  /-- A function from names, given by its values; a text it gives may have no file. -/
  | function (results : List (Text × Loaded))
  /-- Another store, which cannot be listed through this one. -/
  | watched (inner : ViewStore)

namespace FolderStore

/-- Where the view would lie below a root.  A name that is written from the top of the file system
takes the place of the root, and leads out of the tree. -/
def viewPath? (s : FolderStore) (root : Path) (name : Text) : Option Path :=
  if Path.isAbsolute (name ++ s.extension) then none
  else Path.normal? (root ++ Path.segments (name ++ s.extension))

/-- Reads a file of the store. -/
def readFile (s : FolderStore) (p : Path) (content : ByteArray) :
    Except Layout.StoreFault Loaded :=
  match Encoding.named s.encoding with
  | .unknown => .error (.unknownEncoding s.encoding)
  | .notText => .error (.notText s.encoding)
  | .impossible => .error (.refused "embedded null character")
  | .encoding e =>
    match e.decode content with
    | .ok t => .ok ⟨Text.unifyLineEnds t, some p.text⟩
    | .error .malformed => .error .undecodable
    | .error (.complaint m) => .error (.unreadable m)

/-- What the author is told of a view that no root has. -/
def missingMessage (s : FolderStore) (name : Text) : Text :=
  "View '" ++ name ++ "' not found in: " ++ Text.joinWith ", " (s.roots.map Path.text)

/-- May the text be part of the name of a file? -/
def nameable (t : Text) : Bool := !t.contains '\x00'

/-- Can the path of the view below a root be looked for?  The root does not matter if the name takes
its place. -/
def findable (s : FolderStore) (root : Path) (name : Text) : Bool :=
  nameable name && nameable s.extension &&
    (Path.isAbsolute (name ++ s.extension) || root.all nameable)

/-- The view in the first of the roots that has it. -/
def search (s : FolderStore) (d : Disk) (name : Text) : List Path → Except Layout.StoreFault Loaded
  | [] => .error (.missing (s.missingMessage name))
  | root :: rest =>
    if !s.findable root name then .error (.refused "embedded null byte")
    else match s.viewPath? root name with
      | none => search s d name rest
      | some p =>
        match d.read? p with
        | some content => s.readFile p content
        | none => search s d name rest

/-- The view of a name. -/
def get (s : FolderStore) (d : Disk) (name : Text) : Except Layout.StoreFault Loaded :=
  s.search d name s.roots

/-- The steps to the views below a root: any folders, and then a name with anything in front of the
extension. -/
def steps? (s : FolderStore) : Option (List PathStep) :=
  ((Path.segments ('*' :: s.extension)).mapM PathStep.parse?).map (.deep :: ·)

/-- The name of a view with this path below a root. -/
def nameAt (s : FolderStore) (p : Path) : Text :=
  let t := Path.text p
  t.take (t.length - s.extension.length)

/-- The names of all views below one root. -/
def listRoot (s : FolderStore) (d : Disk) (root : Path) : Except Layout.StoreFault (List Text) :=
  match (d.follow? root).filter d.isFolder, s.steps? with
  | none, _ => .ok []
  | _, none =>
    .error (.refused "Invalid pattern: '**' can only be an entire path component")
  | some _, some steps =>
    .ok ((d.select root (s.extension.getLast? = some '/') steps []).map s.nameAt)

/-- The names of all views, in order, each once. -/
def list (s : FolderStore) (d : Disk) : Except Layout.StoreFault (List Text) := do
  return Text.sortUnique (← s.roots.mapM (s.listRoot d)).flatten

end FolderStore

namespace ViewStore

/-- The names of views held in memory, in order. -/
def memoryNames (views : List (Text × Text)) : List Text := Text.sort (views.map (·.1))

/-- What the author is told of a name that is not in memory: the closest name if one is close, else
the first ten names. -/
def missingFromMemory (views : List (Text × Text)) (name : Text) : Text :=
  let names := memoryNames views
  let start := "View '" ++ name ++ "' not found"
  match Text.Similar.closest? name names with
  | some n => start ++ ". Did you mean '" ++ n ++ "'?"
  | none =>
    if names.isEmpty then start
    else start ++ ". Available: " ++ Text.joinWith ", " (names.take 10) ++
      (if 10 < names.length then " ... (" ++ Text.ofNat names.length ++ " total)" else [])

mutual

/-- The view of a name. -/
def get (d : Disk) (name : Text) : ViewStore → Except Layout.StoreFault Loaded
  | memory views =>
    match views.find? fun v => v.1 = name with
    | some v => .ok ⟨v.2, none⟩
    | none => .error (.missing (missingFromMemory views name))
  | folders s => s.get d name
  | choice stores =>
    match getFirst d name stores with
    | some r => r
    | none => .error (.missing
        ("View '" ++ name ++ "' not found in any of " ++ Text.ofNat stores.length ++ " loaders"))
  | function results =>
    match results.find? fun r => r.1 = name with
    | some r => .ok r.2
    | none => .error (.missing ("View '" ++ name ++ "' not found"))
  | watched inner => get d name inner

/-- The view of a name in the first store that has it. -/
def getFirst (d : Disk) (name : Text) : List ViewStore → Option (Except Layout.StoreFault Loaded)
  | [] => none
  | s :: rest =>
    match get d name s with
    | .error (.missing _) => getFirst d name rest
    | r => some r

end

mutual

/-- The names of all views, in order; a watched store cannot be listed. -/
def list? (d : Disk) : ViewStore → Except Layout.StoreFault (Option (List Text))
  | memory views => .ok (some (memoryNames views))
  | folders s => (s.list d).map some
  | choice stores => (listAll d stores).map fun ns => some (Text.sortUnique ns)
  | function _ => .ok (some [])
  | watched _ => .ok none

/-- The names of all views of those stores that can be listed. -/
def listAll (d : Disk) : List ViewStore → Except Layout.StoreFault (List Text)
  | [] => .ok []
  | s :: rest => do
    let ns ← list? d s
    return ns.getD [] ++ (← listAll d rest)

end

/-- What the store answers to a name when a view is resolved. -/
def ask (store : Option ViewStore) (d : Disk) : Layout.Ask := fun name =>
  match store with
  | some s => (s.get d name).map (·.text)
  | none => .error (.missing ("View '" ++ name ++ "' not found: no loader configured"))

/-- The word for the kind of store. -/
def kind : ViewStore → Text
  | memory _ => "DictLoader"
  | folders _ => "FileSystemLoader"
  | choice _ => "ChoiceLoader"
  | function _ => "FunctionLoader"
  | watched _ => "CountingLoader"

end ViewStore
end ViewEngine
