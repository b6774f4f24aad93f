import ConstructSchema.Descriptor
import ConstructSchema.Fault
import ConstructSchema.Files.Error
import ConstructSchema.Text.Quoted

/-!
Failures: everything that can go wrong between reading a specification and writing the schemas,
as causes, with the one text that reports each.
-/

namespace ConstructSchema

/-- Why loading, generating or writing failed. -/
inductive Failure where
  /-- The file of a specification database could not be read. -/
  | unreadableDatabase (path : String) (cause : FileError)
  /-- A specification database could not be decoded; it may come from a file. -/
  | malformedDatabase (fault : Fault) (path : Option String)
  /-- The file of binding conventions could not be read. -/
  | unreadableConventions (path : String) (cause : FileError)
  /-- Binding conventions could not be decoded; they may come from a file. -/
  | malformedConventions (fault : Fault) (path : Option String)
  /-- A JSON value could not be decoded. -/
  | malformedValue (fault : Fault)
  | directoryNotCreated (path : String) (cause : FileError)
  | fileNotWritten (path : String) (cause : FileError)
  | emptyOutputPath
  /-- An output path climbs to a parent directory. -/
  | climbingOutputPath
  /-- Not exactly one service owns a resource. -/
  | serviceNotFound (resourceType : String) (found : Nat)
  /-- Not exactly one resource uses a type definition. -/
  | parentNotFound (typeName : String) (found : Nat)
  /-- A reference names no type definition with a name. -/
  | missingReference (resourceType : String) (id : String)
  /-- A container descriptor lacks its contents. -/
  | malformedType (resourceType : String) (container : Container)
  deriving DecidableEq, Repr

/-- What a container descriptor should have held. -/
def Container.expectation : Container → String
  | .array => "Expected array type with element"
  | .map => "Expected map type with element"
  | .union => "Expected union type with types"

/-- The text that reports a failure. -/
def Failure.message : Failure → String
  | .unreadableDatabase path cause =>
    "Parse error: Failed to read specification database " ++ path ++ ": " ++ cause.message
  | .malformedDatabase fault path =>
    "Parse error: Failed to parse specification database JSON: " ++ fault.detail ++
      match path with
      | some path => " (" ++ path ++ ")"
      | none => ""
  | .unreadableConventions path cause =>
    "Parse error: Failed to read binding config " ++ Text.quoted path ++ ": " ++ cause.message
  | .malformedConventions fault none => "YAML error: " ++ fault.detail
  | .malformedConventions fault (some path) =>
    "Parse error: Failed to parse binding config YAML from " ++ Text.quoted path ++
      ": YAML error: " ++ fault.detail
  | .malformedValue fault => "JSON error: " ++ fault.detail
  | .directoryNotCreated path cause =>
    "Generation error: Failed to create output directory " ++ path ++ ": " ++ cause.message
  | .fileNotWritten path cause =>
    "Generation error: Failed to write file " ++ path ++ ": " ++ cause.message
  | .emptyOutputPath => "output-path is required and cannot be empty"
  | .climbingOutputPath => "Invalid output-path: path traversal detected"
  | .serviceNotFound resourceType found =>
    "Service not found for resource type " ++ resourceType ++
      ": expected exactly one owning service, found " ++ toString found
  | .parentNotFound typeName found =>
    "Parent resource not found for type " ++ typeName ++
      ": expected exactly one owning resource, found " ++ toString found
  | .missingReference resourceType id =>
    "Reference type name not found: " ++ id ++ " (referenced from " ++ resourceType ++ ")"
  | .malformedType resourceType container =>
    "Malformed type in " ++ resourceType ++ ": " ++ container.expectation

end ConstructSchema
