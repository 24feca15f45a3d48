import ParticleMomentum.Notice
import ParticleMomentum.Report.FileTree
import ParticleMomentum.Report.Page
import ParticleMomentum.Trail

/-!
# Documents

A report is written as a document into a directory, which is made if need be. The profiles are computed
before; a fault there ends the report. What goes wrong while the document is written is reported to the
user: nothing is left behind then, as far as it can be removed.
-/

namespace ParticleMomentum

/-- Puts a page into a file: what the tree is afterwards, and why it failed if it did. -/
abbrev PageWriter (α : Type) : Type :=
  Page α → String → FileTree → FileTree × Except WriteFault Unit

/-- A report that was made: its path, empty if writing failed, and the pages in it. -/
structure Document (α : Type) where
  path : String
  pages : List (Page α)

namespace Document

variable {α : Type} [Arithmetic α]

/-- The page writer that only the file tree can stop. -/
def plainWriter : PageWriter α := fun _ path t =>
  let (t, result) := t.writeDocument path
  (t, result.mapError .file)

def fileName (timestamp : String) : String := "sph_momentum_profiles_" ++ timestamp ++ ".pdf"

/-- Makes the directory of a report. -/
def prepare (directory : Setting α) : Procedure FileTree (Notice α) (Fault α) String := do
  match directory with
  | .text path =>
    Procedure.ofChange fun t =>
      let (t, result) := t.makeAll path
      (t, result.mapError .file)
    return path
  | _ => Procedure.fail .notAPath

/-- Removes what is left of a report, if anything is. A fault of the removal is passed over. -/
def discard (path : String) (t : FileTree) : FileTree :=
  if (t.look path).isSome then (t.removeFile path).1 else t

/-- Writes a page, and reports to the user how that went. -/
def publish (writer : PageWriter α) (page : Page α) (path : String) :
    Procedure FileTree (Notice α) (Fault α) (Document α) := do
  match ← Procedure.ofChange fun t => attempt t with
  | .ok () =>
    Procedure.emit (.generated path)
    return ⟨path, [page]⟩
  | .error f =>
    Procedure.emit (.generationFailed f)
    Procedure.update (discard path)
    return ⟨"", []⟩
where
  /-- Tries to write; a failure is a value here. -/
  attempt (t : FileTree) : FileTree × Except (Fault α) (Except WriteFault Unit) :=
    let (t, result) := writer page path t
    (t, .ok result)

/-- Makes the report of the pair profiles in a directory. -/
def generate (writer : PageWriter α) (timestamp : String) (settings : Settings α)
    (directory : Setting α) : Procedure FileTree (Notice α) (Fault α) (Document α) := do
  let directory ← prepare directory
  let path := Path.join directory (fileName timestamp)
  Procedure.emit (.generating (Path.normalize path))
  let profiles ← Profiles.compute settings
  publish writer (Page.ofProfiles profiles) path

end Document

end ParticleMomentum
