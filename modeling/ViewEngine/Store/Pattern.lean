/-
# Patterns of file names

In a pattern for a name a star stands for any text, a question mark for any character, and
characters in square brackets for one of them: `a-z` for a range, and all others if an exclamation
mark comes first.  A pattern for a path is a row of patterns for names.
-/
import ViewEngine.Store.Disk

namespace ViewEngine

/-- A part of a pattern for a name. -/
inductive NamePart where
  /-- Any text. -/
  | anything
  /-- One character out of some, or one that is none of them. -/
  | one (negated : Bool) (ranges : List (Char × Char))
deriving DecidableEq, Repr

namespace NamePart

/-- Is the character one that the part stands for? -/
def accepts (negated : Bool) (ranges : List (Char × Char)) (c : Char) : Bool :=
  (ranges.any fun r => r.1 ≤ c && c ≤ r.2) != negated

/-- Cuts what stands in brackets at the hyphens of its ranges.  A hyphen at the front or right behind
a range is none; `chunk` is what comes before, in reverse order, and `room` counts the characters
that have to come before the next hyphen. -/
def chunks : Nat → Text → Text → List Text
  | _, chunk, [] => [chunk.reverse]
  | 0, chunk, c :: cs =>
    if c = '-' then chunk.reverse :: chunks 2 [] cs else chunks 0 (c :: chunk) cs
  | room + 1, chunk, c :: cs => chunks room (c :: chunk) cs

/-- Joins neighbouring chunks: the last character of one and the first of the next are the ends of a
range, or nothing if they are in descending order. -/
def joinChunks : List Text → List (Char × Char) × Text
  | [] => ([], [])
  | [c] => ([], c)
  | c :: rest =>
    let (ranges, next) := joinChunks rest
    match c.getLast?, next with
    | some a, b :: more =>
      if b < a then (ranges, c.dropLast ++ more)
      else ((a, b) :: ranges ++ more.map (fun d => (d, d)), c)
    | _, _ => (ranges, c)

/-- The ranges that stand in brackets. -/
def rangesOf (t : Text) : List (Char × Char) :=
  let cs := chunks 1 [] t
  let cs := match cs.getLast? with
    | some [] => cs.dropLast.dropLast ++ [(cs.dropLast.getLast?.getD []) ++ ['-']]
    | _ => cs
  let (ranges, rest) := joinChunks cs
  ranges ++ rest.map fun c => (c, c)

/-- What stands in brackets at the front of a text, and what follows them; a closing bracket at the
very front belongs to it. -/
def bracketed? (t : Text) : Option (Bool × Text × Text) :=
  let (negated, t) := match t with
    | '!' :: r => (true, r)
    | r => (false, r)
  let first := if t.head? = some ']' then 1 else 0
  let body := t.take first ++ (t.drop first).takeWhile (· ≠ ']')
  match t.drop body.length with
  | _ :: rest => some (negated, body, rest)
  | [] => none

/-- The parts of a pattern for a name; the first `skip` characters belong to an earlier part. -/
def parse : Nat → Text → List NamePart
  | _, [] => []
  | skip + 1, _ :: cs => parse skip cs
  | 0, c :: cs =>
    if c = '*' then .anything :: parse 0 cs
    else if c = '?' then .one true [] :: parse 0 cs
    else match if c = '[' then bracketed? cs else none with
      | some (negated, body, rest) =>
        .one negated (rangesOf body) :: parse (cs.length - rest.length) cs
      | none => .one false [(c, c)] :: parse 0 cs

/-- Does a row of parts fit a name? -/
def fit : List NamePart → Text → Bool
  | [], t => t.isEmpty
  | .anything :: ps, t => fitAfter ps t
  | .one negated ranges :: ps, t =>
    match t with
    | c :: cs => accepts negated ranges c && fit ps cs
    | [] => false
where
  /-- Does a row of parts fit some end of a name? -/
  fitAfter (ps : List NamePart) : Text → Bool
    | [] => fit ps []
    | c :: cs => fit ps (c :: cs) || fitAfter ps cs

end NamePart

/-- A pattern for one step of a path. -/
inductive PathStep where
  /-- Any number of folders. -/
  | deep
  /-- A name that fits a pattern. -/
  | like (parts : List NamePart)
  /-- A name. -/
  | exactly (segment : Text)
deriving DecidableEq, Repr

namespace PathStep

/-- The pattern of a written step; none if two stars stand side by side with something else. -/
def parse? (t : Text) : Option PathStep :=
  if t = "**".toList then some .deep
  else if Text.occurs "**" t then none
  else if t.any fun c => c = '*' || c = '?' || c = '[' then some (.like (NamePart.parse 0 t))
  else some (.exactly t)

end PathStep

namespace Disk

/-- Everything that lies right inside a folder, by name. -/
def children (d : Disk) (folder : Path) : List Text :=
  (d.below folder).filterMap fun p =>
    match p with
    | [s] => some s
    | _ => none

/-- The paths, relative to the folder `base`, that a row of steps leads to from the relative path
`from`; `onlyFolders` leaves out files at the end. -/
def select (d : Disk) (base : Path) (onlyFolders : Bool) : List PathStep → Path → List Path
  | [], here => [here]
  | step :: rest, here =>
    let folders := onlyFolders || !rest.isEmpty
    match d.follow? (base ++ here) with
    | none => []
    | some at' =>
      match step with
      | .deep =>
        (here :: ((d.below at').filter fun p => d.isFolder (at' ++ p)).map (here ++ ·)).flatMap
          (d.select base onlyFolders rest)
      | .like parts =>
        ((d.children at').filter fun s =>
            NamePart.fit parts s && (!folders || d.isFolder (at' ++ [s]))).flatMap
          fun s => d.select base onlyFolders rest (here ++ [s])
      | .exactly s =>
        match d.follow? (base ++ here ++ [s]) with
        | some p =>
          if d.isFolder p || (!folders && (d.read? p).isSome) then
            d.select base onlyFolders rest (here ++ [s])
          else []
        | none => []

end Disk
end ViewEngine
