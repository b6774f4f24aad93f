import ConstructSchema.Files.Path
import ConstructSchema.Files.System
import ConstructSchema.Schema.Json

/-!
Writing the schemas into a directory.

The directory is made if it is not there. Property types are written first; if they cannot be
written, resources are not tried.
-/

namespace ConstructSchema

/-- The name of the file of property types. -/
def propertyTypesFile : String := "cdk-types.json"

/-- The name of the file of resources. -/
def resourcesFile : String := "cdk-resources.json"

/-- Writes a text to a file of a directory; the answer is the path of the file. -/
def writeInto {m : Type → Type} [Monad m] (fs : FileSystem m) (directory file text : String) :
    m (Except Failure String) := do
  let path := Path.join directory file
  match ← fs.write path text with
  | .error cause => return .error (.fileNotWritten path cause)
  | .ok () => return .ok path

/-- Writes both schemas into a directory; the answer is the paths of the files, in order. -/
def Schemas.write {m : Type → Type} [Monad m] (s : Schemas) (fs : FileSystem m)
    (directory : String) : m (Except Failure (List String)) := do
  match ← fs.createDirectories directory with
  | .error cause => return .error (.directoryNotCreated directory cause)
  | .ok () =>
    let propertyTypes := PropertyTypeSchema.render s.propertyTypes
    match ← writeInto fs directory propertyTypesFile propertyTypes with
    | .error failure => return .error failure
    | .ok first =>
      let resources := ResourceSchema.render s.resources
      match ← writeInto fs directory resourcesFile resources with
      | .error failure => return .error failure
      | .ok second => return .ok [first, second]

end ConstructSchema
