import HtmlMail.CommandLine.Run

/-!
# The command

The only module that touches files and the terminal. All decisions are made by `CommandLine.run`.
-/

namespace HtmlMail.CommandLine

/-- Reads all files that the arguments name, as far as they can be read. -/
def readFiles (paths : List String) : IO (List (String × Except String String)) :=
  paths.mapM fun (path : String) => do
    try
      let text ← IO.FS.readFile path
      return (path, .ok text)
    catch e => return (path, .error (toString e))

/-- The files that the arguments name. -/
def inputPaths (args : Arguments) : List String :=
  args.config?.toList ++ (args.layout?.bind (·.css?)).toList ++ (args.layout?.map (·.markup)).toList ++
    [args.template]

/-- Writes a file, if that is what is to be done. -/
def perform : Action → IO (Except String Unit)
  | .finish _ => return .ok ()
  | .write path content _ => do
    try
      IO.FS.writeFile path content
      return .ok ()
    catch e => return .error (toString e)

/-- Runs the command and answers with its exit code. -/
def execute (arguments : List String) : IO UInt32 := do
  let paths := match Arguments.parse arguments with
    | .ok args => inputPaths args
    | .error _ => []
  let texts ← readFiles paths
  let action := run (fun path => (texts.lookup path).getD (.error "not read")) arguments
  let outcome := action.conclude (← perform action)
  (← IO.getStderr).putStr outcome.notes
  (← IO.getStdout).putStr outcome.output
  return outcome.code.toUInt32

end HtmlMail.CommandLine

/-- The command. -/
def main (arguments : List String) : IO UInt32 := HtmlMail.CommandLine.execute arguments
