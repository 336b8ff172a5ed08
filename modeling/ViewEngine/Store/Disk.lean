/-
# Files and folders

A tree of files and folders below one folder.  A path is the list of its segments; a folder exists
when it was made or when something was written into it, and stays when its files are removed.  What
lies outside of the tree is not there: a path that leads out of it leads nowhere.
-/
import ViewEngine.Text.Lines

namespace ViewEngine

/-- The segments of a path. -/
abbrev Path := List Text

namespace Path

/-- The segments of a written path; empty ones and `.` do not count. -/
def segments : Text → Path
  | t => (cut t).filter fun s => !s.isEmpty && s ≠ ['.']
where
  /-- The pieces between slashes. -/
  cut : Text → List Text
    | [] => [[]]
    | c :: cs =>
      if c = '/' then [] :: cut cs
      else match cut cs with
        | [] => [[c]]
        | s :: ss => (c :: s) :: ss

/-- Is the path written from the top of the file system? -/
def isAbsolute (t : Text) : Bool := t.head? = some '/'

/-- A path as it is written. -/
def text (p : Path) : Text := if p.isEmpty then "." else Text.joinWith ['/'] p

/-- The segment that leads one folder up. -/
def up : Text := ['.', '.']

/-- The path without `..`, as long as it does not lead out of the tree. -/
def normal? (p : Path) : Option Path := go [] p
where
  /-- Walks on from the folder with the reversed segments `done`. -/
  go (done : List Text) : Path → Option Path
    | [] => some done.reverse
    | s :: rest =>
      if s = up then
        match done with
        | [] => none
        | _ :: outer => go outer rest
      else go (s :: done) rest

/-- The proper beginnings of a path, without the empty one. -/
def parents : Path → List Path
  | [] => []
  | [_] => []
  | s :: rest => [s] :: (parents rest).map (s :: ·)

end Path

/-- A tree of files and folders. -/
structure Disk where
  /-- The files with their contents. -/
  files : List (Path × ByteArray) := []
  /-- The folders but the outermost one. -/
  folders : List Path := []

namespace Disk

/-- The content of a file. -/
def read? (d : Disk) (p : Path) : Option ByteArray := (d.files.find? fun f => f.1 = p).map (·.2)

/-- Is there a folder? -/
def isFolder (d : Disk) (p : Path) : Bool := p.isEmpty || d.folders.contains p

/-- Makes a folder and those around it. -/
def makeFolder (d : Disk) (p : Path) : Disk :=
  { d with folders := (d.folders ++ p.parents ++ (if p.isEmpty then [] else [p])).eraseDups }

/-- Writes a file, in place of one of the same path; the folders around it are made. -/
def write (d : Disk) (p : Path) (content : ByteArray) : Disk :=
  { files := d.files.filter (·.1 ≠ p) ++ [(p, content)]
    folders := (d.folders ++ p.parents).eraseDups }

/-- Removes a file. -/
def remove (d : Disk) (p : Path) : Disk := { d with files := d.files.filter (·.1 ≠ p) }

/-- Follows a path segment by segment: each but the last has to be a folder of the tree. -/
def follow? (d : Disk) (p : Path) : Option Path := go [] p
where
  /-- Walks on from the folder with the reversed segments `done`. -/
  go (done : List Text) : Path → Option Path
    | [] => some done.reverse
    | s :: rest =>
      if !d.isFolder done.reverse then none
      else if s = Path.up then
        match done with
        | [] => none
        | _ :: outer => go outer rest
      else go (s :: done) rest

/-- The paths of everything below a folder, relative to it. -/
def below (d : Disk) (folder : Path) : List Path :=
  (d.files.map (·.1) ++ d.folders).filterMap fun p =>
    if folder.isPrefixOf p && folder.length < p.length then some (p.drop folder.length) else none

end Disk
end ViewEngine
