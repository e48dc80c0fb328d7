import HtmlMail.CommandLine.Run

/-!
# Running the command in a folder

A folder is a list of files, each with the steps of its path. What the command does in a folder is a
function of the arguments and the folder.

- `Folder.read`, `Folder.write` : files by their paths
- `Folder.run` : a run of the command, and the folder after it
-/

namespace HtmlMail.CommandLine

/-- A file: the steps of its path, and its text. -/
structure File where
  steps : List String
  text : String
  deriving DecidableEq, Repr

/-- The files of a folder and the folders in it. -/
structure Folder where
  files : List File
  deriving DecidableEq, Repr

namespace Folder

/-- The steps of a path. Bare dots and repeated slashes do not count. -/
def steps (path : String) : List String :=
  (Text.splitOnChar '/' path).filter fun step => step ≠ "" ∧ step ≠ "."

/-- The folder of paths and texts. -/
def ofList (files : List (String × String)) : Folder :=
  ⟨files.map fun (path, text) => ⟨steps path, text⟩⟩

/-- The steps that lead to a file: a path from the folder that ends in a name and never leaves it. -/
def fileSteps? (path : String) : Option (List String) :=
  let pieces := Text.splitOnChar '/' path
  let last := pieces.getLast?.getD ""
  if (pieces.length > 1 ∧ pieces.head? = some "") ∨ last = "" ∨ last = "." ∨ pieces.contains ".." then none
  else some (steps path)

/-- Whether steps lead to a folder. -/
def isFolder (folder : Folder) (steps : List String) : Bool :=
  steps.isEmpty ||
    folder.files.any fun file => steps.isPrefixOf file.steps && steps.length < file.steps.length

/-- Why a file cannot be read or written. -/
def noSuchFile : String := "No such file or directory (os error 2)"

/-- The text of a file. -/
def read (folder : Folder) (path : String) : Except String String :=
  match (fileSteps? path).bind fun steps => folder.files.find? (·.steps = steps) with
  | some file => .ok file.text
  | none => .error noSuchFile

/-- The folder after a file was written. It can be new, but not the folder that it is in. -/
def write (folder : Folder) (path text : String) : Except String Folder :=
  match fileSteps? path with
  | none => .error noSuchFile
  | some steps =>
    if folder.isFolder steps.dropLast && !folder.isFolder steps then
      .ok ⟨folder.files.filter (·.steps ≠ steps) ++ [⟨steps, text⟩]⟩
    else .error noSuchFile

/-- A run of the command in a folder, and the folder after it. -/
def run (folder : Folder) (arguments : List String) : Outcome × Folder :=
  let action := CommandLine.run folder.read arguments
  match action with
  | .finish outcome => (outcome, folder)
  | .write path content _ =>
    match folder.write path content with
    | .ok after => (action.conclude (.ok ()), after)
    | .error reason => (action.conclude (.error reason), folder)

end Folder

end HtmlMail.CommandLine
