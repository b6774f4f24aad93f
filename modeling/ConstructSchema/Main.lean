import ConstructSchema.Command.Run
import ConstructSchema.Files.Tree

/-!
The program: the commands on the files of the machine.
-/

namespace ConstructSchema.Machine

/-- The number of an error of the system; some operations give it with a sign. -/
def errorNumber (code : UInt32) : UInt32 := min code (-code)

/-- The refusal that an error of the system stands for. -/
def refusalOf : IO.Error → FileError
  | .noFileOrDirectory .. => .notFound
  | .alreadyExists .. => .exists
  | .inappropriateType _ code details =>
    if errorNumber code = 20 then .notDirectory
    else if errorNumber code = 21 then .isDirectory
    else .other details
  | .invalidArgument _ code details =>
    if errorNumber code = 36 then .nameTooLong else .other details
  | .permissionDenied .. => .other "Permission denied (os error 13)"
  | e => .other (toString e)

/-- The outcome of an operation of the system. -/
def attempt {α : Type} (action : IO α) : IO (Except FileError α) := do
  match ← action.toBaseIO with
  | .ok value => return .ok value
  | .error e => return .error (refusalOf e)

/-- The text of a file. -/
def read (path : String) : IO (Except FileError String) := do
  match ← attempt (IO.FS.readBinFile path) with
  | .error e => return .error e
  | .ok bytes =>
    match String.fromUTF8? bytes with
    | some text => return .ok text
    | none => return .error (.other "stream did not contain valid UTF-8")

/-- Whether there is a directory at a path: only then its dot is refused as being there already. -/
def isDirectory (path : String) : IO Bool :=
  return (← attempt (IO.FS.createDir (path ++ "/."))) matches .error .exists

/-- The path of segments behind what starts it. -/
def pathOf (start : String) (segments : List String) : String :=
  start ++ "/".intercalate segments

/-- Makes a directory and those on the way to it, in the order in which a tree of files does. -/
def createDirectories (start : String) (segments : List String) : IO (Except FileError Unit) := do
  if _h : segments = [] then return .ok ()
  else
    let path := pathOf start segments
    match ← attempt (IO.FS.createDir path) with
    | .ok () => return .ok ()
    | .error .notFound =>
      match ← createDirectories start (FileTree.parentSegments segments) with
      | .error e => return .error e
      | .ok () =>
        match ← attempt (IO.FS.createDir path) with
        | .ok () => return .ok ()
        | .error e => return if ← isDirectory path then .ok () else .error e
    | .error e => return if ← isDirectory path then .ok () else .error e
termination_by segments.length
decreasing_by exact FileTree.length_parentSegments_lt _h

/-- The files of the machine. -/
def files : FileSystem IO where
  read := read
  createDirectories path :=
    createDirectories (if path.startsWith "/" then "/" else "") (Path.segments path)
  write path text := attempt (IO.FS.writeFile path text)

/-- Runs the command that the arguments ask for and gives its exit code. -/
def run (arguments : List String) : IO UInt32 := do
  let outputDefault ← IO.getEnv Command.outputVariable
  let outcome ← Command.run files outputDefault arguments
  IO.print outcome.output
  if !outcome.errors.isEmpty then IO.eprintln outcome.errors
  return outcome.exit.toUInt32

end ConstructSchema.Machine

def main (arguments : List String) : IO UInt32 :=
  ConstructSchema.Machine.run arguments
