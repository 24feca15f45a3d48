/-!
# Paths

Paths as texts, with slashes between their parts.
-/

namespace ParticleMomentum.Path

def join (directory name : String) : String :=
  if directory.isEmpty || directory.endsWith "/" then directory ++ name
  else directory ++ "/" ++ name

/-- The parts between slashes, empty ones included. -/
def parts (path : String) : List String := path.splitOn "/"

def isAbsolute (path : String) : Bool := path.startsWith "/"

def dropSlashes (cs : List Char) : List Char := (cs.reverse.dropWhile (· == '/')).reverse

/-- What stands before the last slash, and what stands after it. The first part loses its own final
slashes unless it has nothing else. -/
def split (path : String) : String × String :=
  let cs := path.toList
  let tail := (cs.reverse.takeWhile (· != '/')).reverse
  let head := (cs.reverse.dropWhile (· != '/')).reverse
  let head := if head.all (· == '/') then head else dropSlashes head
  (String.ofList head, String.ofList tail)

/-- The slashes that a path keeps at its beginning: two if there are exactly two, else at most one. -/
def rootText (path : String) : String :=
  if path.startsWith "//" && !path.startsWith "///" then "//"
  else if isAbsolute path then "/" else ""

/-- Goes through the parts of a path, `seen` in reverse; a step up takes back the part before it. -/
def collapse (absolute : Bool) : List String → List String → List String
  | seen, [] => seen.reverse
  | seen, part :: rest =>
    if part.isEmpty || part == "." then collapse absolute seen rest
    else if part != ".." then collapse absolute (part :: seen) rest
    else
      match seen with
      | [] => collapse absolute (if absolute then [] else [".."]) rest
      | last :: before =>
        if last == ".." then collapse absolute (".." :: seen) rest
        else collapse absolute before rest

/-- The shortest path that says the same, by its text alone. -/
def normalize (path : String) : String :=
  let text := rootText path ++ "/".intercalate (collapse (isAbsolute path) [] (parts path))
  if text.isEmpty then "." else text

end ParticleMomentum.Path
