import ConstructSchema.Failure
import ConstructSchema.Files.System
import ConstructSchema.Naming.Conventions
import ConstructSchema.Yaml.Content

/-!
The YAML form of conventions, and conventions from a file.

A field that is left out has its default, and the built-in exceptions are put before those that are
listed.
-/

namespace ConstructSchema

open Yaml (Decode Node)

/-- The bases with the base of one language changed. -/
def Bases.set (b : Bases) (l : Language) (base : String) : Bases :=
  match l with
  | .typescript => { b with typescript := base }
  | .csharp => { b with csharp := base }
  | .golang => { b with golang := base }
  | .java => { b with java := base }
  | .python => { b with python := base }

/-- The base locations of a node. -/
def Bases.ofYaml : Node → Decode Bases :=
  Node.record {} fun name =>
    (Language.all.find? (·.key == name)).map fun l b node => return b.set l (← node.text)

/-- The names of an exception that were read so far. -/
structure NameException.Partial where
  source : Option String := none
  target : Option String := none

/-- The exception of a node. -/
def NameException.ofYaml (node : Node) : Decode NameException := do
  let e ← node.record ({} : Partial) fun
    | "from" => some fun e node => return { e with source := ← node.text }
    | "to" => some fun e node => return { e with target := ← node.text }
    | _ => none
  match e.source, e.target with
  | some source, some target => return { source, target }
  | none, _ => throw (.missingField "from")
  | some _, none => throw (.missingField "to")

namespace Conventions

/-- The conventions of a node as they stand. -/
def ofYaml : Node → Decode Conventions :=
  Node.record { csharpExceptions := [] } fun
    | "version" => some fun c node => return { c with version := ← node.word32 }
    | "bases" => some fun c node => return { c with bases := ← Bases.ofYaml node }
    | "golang_core_package" => some fun c node => return { c with golangCorePackage := ← node.text }
    | "csharp_service_exceptions" => some fun c node =>
      return { c with csharpExceptions := ← node.listOf NameException.ofYaml }
    | _ => none

/-- The conventions that a text holds. -/
def ofText (text : String) : Except Failure Conventions :=
  match Yaml.decodeText ofYaml text with
  | .error fault => .error (.malformedConventions fault none)
  | .ok listed => .ok listed.withBuiltins

/-- The conventions that a text from a file holds. -/
def ofFile (path text : String) : Except Failure Conventions :=
  match Yaml.decodeText ofYaml text with
  | .error fault => .error (.malformedConventions fault (some path))
  | .ok listed => .ok listed.withBuiltins

/-- The conventions in the file at a path. -/
def load {m : Type → Type} [Monad m] (fs : FileSystem m) (path : String) :
    m (Except Failure Conventions) := do
  match ← fs.read path with
  | .error cause => return .error (.unreadableConventions path cause)
  | .ok text => return ofFile path text

end Conventions

end ConstructSchema
