import ParticleMomentum.Fault
import ParticleMomentum.Report.Path

/-!
# File trees

Directories and files by their places below a root, as far as a report is concerned with them. A place
is the list of names that leads to it; the root itself is always a directory. Relative paths start at a
home directory.
-/

namespace ParticleMomentum

inductive FileKind where
  | directory
  | file
  | document
  deriving DecidableEq, Repr

/-- A place: the names that lead to it from the root. -/
abbrev Place : Type := List String

/-- Directories and files by their places. -/
structure FileTree where
  home : Place
  nodes : List (Place × FileKind)
  deriving Repr

namespace FileTree

/-- The longest name of a file, in bytes. -/
def longestName : Nat := 255

/-- Paths are shorter than this, in bytes. -/
def longestPath : Nat := 4096

def at? (t : FileTree) (p : Place) : Option FileKind :=
  if p.isEmpty then some .directory else t.nodes.lookup p

def put (t : FileTree) (p : Place) (kind : FileKind) : FileTree :=
  { t with nodes := t.nodes.filter (·.1 != p) ++ [(p, kind)] }

def erase (t : FileTree) (p : Place) : FileTree := { t with nodes := t.nodes.filter (·.1 != p) }

def empty (home : String) : FileTree := ⟨[home], [([home], .directory)]⟩

/-- One step of a walk: into a name, up, or nowhere. -/
def enter (place : Place) (name : String) : Place :=
  if name.isEmpty || name == "." then place
  else if name == ".." then place.dropLast
  else place ++ [name]

inductive Obstacle where
  | missing
  | notADirectory
  | nameTooLong
  | unusable
  deriving DecidableEq, Repr

def Obstacle.fault (path : String) : Obstacle → FileFault
  | missing => .notFound path
  | notADirectory => .notADirectory path
  | nameTooLong => .nameTooLong path
  | unusable => .unusable path

/-- Walks along names from a place. Every place that is left for another one must be a directory. -/
def walk (t : FileTree) : Place → List String → Except Obstacle Place
  | place, [] => .ok place
  | place, name :: rest =>
    match t.at? place with
    | some .directory =>
      if name.utf8ByteSize > longestName then .error .nameTooLong
      else walk t (enter place name) rest
    | some _ => .error .notADirectory
    | none => .error .missing

/-- The place that a path leads to; there need not be anything. -/
def locate (t : FileTree) (path : String) : Except Obstacle Place :=
  if path.toList.any (·.toNat == 0) then .error .unusable
  else if path.isEmpty then .error .missing
  else if longestPath ≤ path.utf8ByteSize then .error .nameTooLong
  else t.walk (if Path.isAbsolute path then [] else t.home) (Path.parts path)

/-- What stands at the end of a path. -/
def look (t : FileTree) (path : String) : Option FileKind :=
  match t.locate path with
  | .ok place => t.at? place
  | .error _ => none

/-- Makes a directory; its parent must be there, and nothing in its place. -/
def makeDirectory (t : FileTree) (path : String) : FileTree × Except FileFault Unit :=
  match t.locate (if path.isEmpty then path else String.ofList (trimmed path.toList)) with
  | .error o => (t, .error (o.fault path))
  | .ok place =>
    match t.at? place with
    | some _ => (t, .error (.alreadyExists path))
    | none => (t.put place .directory, .ok ())
where
  /-- The path without slashes at its end, unless it is the root. -/
  trimmed (cs : List Char) : List Char :=
    if cs.all (· == '/') then cs else Path.dropSlashes cs

/-- Makes a directory where none is. -/
def ensureDirectory (t : FileTree) (path : String) : FileTree × Except FileFault Unit :=
  match t.makeDirectory path with
  | (t', .ok ()) => (t', .ok ())
  | (t', .error (.unusable path)) => (t', .error (.unusable path))
  | (t', .error f) => (t', if t'.look path == some .directory then .ok () else .error f)

/-- Makes a directory and the directories above it. `depth` bounds how many there can be. -/
def makeDirectories (depth : Nat) (t : FileTree) (path : String) :
    FileTree × Except FileFault Unit :=
  match depth with
  | 0 => (t, .ok ())
  | depth + 1 =>
    let (head, tail) := match Path.split path with
      | (head, "") => Path.split head
      | parts => parts
    if head.isEmpty || tail.isEmpty || (t.look head).isSome then t.ensureDirectory path
    else
      match makeDirectories depth t head with
      | (t', .error (.alreadyExists _)) | (t', .ok ()) =>
        if tail == "." then (t', .ok ()) else t'.ensureDirectory path
      | (t', .error f) => (t', .error f)

/-- Makes a directory and the directories above it. -/
def makeAll (t : FileTree) (path : String) : FileTree × Except FileFault Unit :=
  t.makeDirectories (path.length + 1) path

/-- Writes a document in place of any file. -/
def writeDocument (t : FileTree) (path : String) : FileTree × Except FileFault Unit :=
  match t.locate path with
  | .error o => (t, .error (o.fault path))
  | .ok place =>
    match t.at? place with
    | some .directory => (t, .error (.isADirectory path))
    | _ => (t.put place .document, .ok ())

/-- Removes a file. There must be one, and no directory in its place. -/
def removeFile (t : FileTree) (path : String) : FileTree × Except FileFault Unit :=
  match t.locate path with
  | .error o => (t, .error (o.fault path))
  | .ok place =>
    match t.at? place with
    | none => (t, .error (.notFound path))
    | some .directory => (t, .error (.isADirectory path))
    | some _ => (t.erase place, .ok ())

/-- Everything below the home directory, by its path from there. -/
def listing (t : FileTree) : List (String × FileKind) :=
  t.nodes.filterMap fun (place, kind) =>
    if t.home.isPrefixOf place && t.home.length < place.length then
      some ("/".intercalate (place.drop t.home.length), kind)
    else none

end FileTree

end ParticleMomentum
