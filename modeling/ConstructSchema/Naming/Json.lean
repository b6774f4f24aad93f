import ConstructSchema.Json.Basic
import ConstructSchema.Naming.Bindings

/-!
The JSON form of conventions and bindings.

Conventions are decoded as they stand: a field that is left out has its default, but no exceptions
are added to those that are listed.
-/

namespace ConstructSchema

open Record (faultOf optional)

/-! ## Conventions -/

/-- The base locations of a JSON value. -/
def Bases.ofJson (j : Json) : Except Fault Bases := do
  let r ← j.record (Language.all.map Language.key)
  let base (l : Language) := r.field l.key Json.text
  Json.checkFields r (Language.all.map fun l => (l.key, faultOf (base l)))
  let choose (l : Language) := optional (Bases.of {} l) (base l)
  return {
    typescript := ← choose .typescript
    csharp := ← choose .csharp
    golang := ← choose .golang
    java := ← choose .java
    python := ← choose .python }

/-- The exception of a JSON value. -/
def NameException.ofJson (j : Json) : Except Fault NameException := do
  let r ← j.record ["from", "to"]
  let source := r.field "from" Json.text
  let target := r.field "to" Json.text
  Json.checkFields r [("from", faultOf source), ("to", faultOf target)]
  return {
    source := ← r.required "from" source
    target := ← r.required "to" target }

/-- The conventions of a JSON value. -/
def Conventions.ofJson (j : Json) : Except Fault Conventions := do
  let r ← j.record ["version", "bases", "golang_core_package", "csharp_service_exceptions"]
  let version := r.field "version" Json.word32
  let bases := r.field "bases" Bases.ofJson
  let package := r.field "golang_core_package" Json.text
  let exceptions := r.field "csharp_service_exceptions" (Json.listOf NameException.ofJson)
  Json.checkFields r [("version", faultOf version), ("bases", faultOf bases),
    ("golang_core_package", faultOf package), ("csharp_service_exceptions", faultOf exceptions)]
  return {
    version := ← optional 1 version
    bases := ← optional {} bases
    golangCorePackage := ← optional "awscdk" package
    csharpExceptions := ← optional [] exceptions }

/-- The JSON form of base locations. -/
def Bases.toJson (b : Bases) : Json :=
  .object (Language.all.map fun l => (l.key, .string (b.of l)))

/-- The JSON form of an exception. -/
def NameException.toJson (e : NameException) : Json :=
  .object [("from", .string e.source), ("to", .string e.target)]

/-- The JSON form of conventions. -/
def Conventions.toJson (c : Conventions) : Json :=
  .object [("version", .ofNat c.version), ("bases", c.bases.toJson),
    ("golang_core_package", .string c.golangCorePackage),
    ("csharp_service_exceptions", .array (c.csharpExceptions.map NameException.toJson))]

/-! ## Bindings -/

/-- The place that a JSON value gives for a language with one kind of location. -/
def Binding.ofJson (l : Language) (j : Json) : Except Fault Binding := do
  let r ← j.record [l.locationKey, "name"]
  let location := r.field l.locationKey Json.text
  let name := r.field "name" Json.text
  Json.checkFields r [(l.locationKey, faultOf location), ("name", faultOf name)]
  return {
    location := ← r.required l.locationKey location
    name := ← r.required "name" name }

/-- The place that a JSON value gives for Go. -/
def GoBinding.ofJson (j : Json) : Except Fault GoBinding := do
  let r ← j.record ["module", "package", "name"]
  let module := r.field "module" Json.text
  let package := r.field "package" Json.text
  let name := r.field "name" Json.text
  Json.checkFields r [("module", faultOf module), ("package", faultOf package),
    ("name", faultOf name)]
  return {
    module := ← r.required "module" module
    package := ← r.required "package" package
    name := ← r.required "name" name }

/-- The bindings of a JSON value. -/
def Bindings.ofJson (j : Json) : Except Fault Bindings := do
  let r ← j.record (Language.all.map Language.key)
  let typescript := r.field "typescript" (Binding.ofJson .typescript)
  let csharp := r.field "csharp" (Binding.ofJson .csharp)
  let golang := r.field "golang" GoBinding.ofJson
  let java := r.field "java" (Binding.ofJson .java)
  let python := r.field "python" (Binding.ofJson .python)
  Json.checkFields r [("typescript", faultOf typescript), ("csharp", faultOf csharp),
    ("golang", faultOf golang), ("java", faultOf java), ("python", faultOf python)]
  return {
    typescript := ← r.required "typescript" typescript
    csharp := ← r.required "csharp" csharp
    golang := ← r.required "golang" golang
    java := ← r.required "java" java
    python := ← r.required "python" python }

/-- The JSON form of a place in a language with one kind of location. -/
def Binding.toJson (l : Language) (b : Binding) : Json :=
  .object [(l.locationKey, .string b.location), ("name", .string b.name)]

/-- The JSON form of a place in Go. -/
def GoBinding.toJson (b : GoBinding) : Json :=
  .object [("module", .string b.module), ("package", .string b.package), ("name", .string b.name)]

/-- The JSON form of bindings. -/
def Bindings.toJson (b : Bindings) : Json :=
  .object [("typescript", b.typescript.toJson .typescript), ("csharp", b.csharp.toJson .csharp),
    ("golang", b.golang.toJson), ("java", b.java.toJson .java),
    ("python", b.python.toJson .python)]

end ConstructSchema
